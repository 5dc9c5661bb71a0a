import KubeLB.Foundation.Utf8
import KubeLB.LoadBalancer.Hostname

/-!
What isValidHostname accepts (internal/kubelb/loadbalancer.go), on strings as Go has
them: any sequence of bytes, encoded text or not.

The function measures a label in bytes, puts it into lower case and matches the result
against an expression for letters, digits and hyphens. Two characters outside ASCII
have a letter of ASCII as their lower case.
-/

namespace KubeLB
open Utf8

abbrev GoString := List UInt8

namespace GoString

def dot : UInt8 := 0x2e
def hyphen : UInt8 := 0x2d

/-- strings.ToLower. -/
def toLower (s : GoString) : GoString := encode ((runes s).map toLowerRune)

def isValidLabel (label : GoString) : Bool :=
  if label = [] ∨ 63 < label.length then false
  else matchesLabel (runes (toLower label))

def isValidHostname (hostname : GoString) : Bool :=
  if hostname = [] ∨ 253 < hostname.length then false
  else if [dot, dot] <:+: hostname ∨ [dot] <+: hostname ∨ [dot] <:+ hostname then false
  else
    let labels := hostname.splitOn dot
    if labels.length < 2 then false else labels.all isValidLabel

def LetterOrDigit (n : Nat) : Prop :=
  (0x30 ≤ n ∧ n ≤ 0x39) ∨ (0x41 ≤ n ∧ n ≤ 0x5a) ∨ (0x61 ≤ n ∧ n ≤ 0x7a)

/-- A label: 1 to 63 letters, digits and hyphens of ASCII, no hyphen at its ends. -/
structure Label (label : GoString) : Prop where
  nonempty : label ≠ []
  short : label.length ≤ 63
  bytes : ∀ byte ∈ label, LetterOrDigit byte.toNat ∨ byte = hyphen
  first : label.head? ≠ some hyphen
  last : label.getLast? ≠ some hyphen

def Dotted (IsLabel : GoString → Prop) (hostname : GoString) : Prop :=
  hostname.length ≤ 253 ∧ ∃ labels, 2 ≤ labels.length ∧ (∀ label ∈ labels, IsLabel label) ∧
    hostname = [dot].intercalate labels

/-- The Kelvin sign and the I with a dot, whose lower case is k and i. -/
def kelvinSign : Char := Char.ofNat 0x212a
def dottedI : Char := Char.ofNat 0x130

/-- A label in which the two characters may also stand; it is measured in bytes. -/
structure FoldedLabel (label : GoString) : Prop where
  short : label.length ≤ 63
  text : ∃ text, label = encode text ∧ text ≠ [] ∧
    (∀ c ∈ text, LetterOrDigit c.toNat ∨ c = '-' ∨ c = kelvinSign ∨ c = dottedI) ∧
    text.head? ≠ some '-' ∧ text.getLast? ≠ some '-'

section
variable {c : Char}

theorem isLabelChar_iff :
    isLabelChar c = true ↔
      (0x61 ≤ c.toNat ∧ c.toNat ≤ 0x7a) ∨ (0x30 ≤ c.toNat ∧ c.toNat ≤ 0x39) := by
  simp only [isLabelChar, Char.le_def, UInt32.le_iff_toNat_le, decide_eq_true_eq]
  rfl

theorem toNat_toLowerRune (c : Char) :
    (toLowerRune c).toNat =
      if 0x41 ≤ c.toNat ∧ c.toNat ≤ 0x5a then c.toNat + 32
      else if c = kelvinSign then 0x6b else if c = dottedI then 0x69 else c.toNat := by
  have upper : 'A' ≤ c ∧ c ≤ 'Z' ↔ 0x41 ≤ c.toNat ∧ c.toNat ≤ 0x5a := by
    simp only [Char.le_def, UInt32.le_iff_toNat_le]
    rfl
  unfold toLowerRune kelvinSign dottedI
  simp only [upper]
  split_ifs with isUpper kelvin dotted
  · rw [Char.toNat_ofNat, if_pos (Or.inl (by omega))]
  · rfl
  · rfl
  · rfl

/-- The characters that the expression lets stand at the ends of a label. -/
theorem isLabelChar_toLowerRune_iff :
    isLabelChar (toLowerRune c) = true ↔
      LetterOrDigit c.toNat ∨ c = kelvinSign ∨ c = dottedI := by
  rw [isLabelChar_iff, toNat_toLowerRune, LetterOrDigit]
  by_cases kelvin : c = kelvinSign
  · rw [kelvin]
    decide
  · by_cases dotted : c = dottedI
    · rw [dotted]
      decide
    · simp only [kelvin, dotted, if_false, or_false]
      split <;> omega

theorem toLowerRune_eq_hyphen_iff : toLowerRune c = '-' ↔ c = '-' := by
  have code (d : Char) : d = '-' ↔ d.toNat = 0x2d := Char.toNat_inj.symm
  rw [code, code, toNat_toLowerRune]
  by_cases kelvin : c = kelvinSign
  · rw [kelvin]
    decide
  · by_cases dotted : c = dottedI
    · rw [dotted]
      decide
    · simp only [kelvin, dotted, if_false]
      split <;> omega

end

/-- An end of a text that holds only admitted characters is matched unless it is a hyphen. -/
theorem end_matches_iff {last : Option Char}
    (admitted : ∀ c ∈ last, isLabelChar (toLowerRune c) = true ∨ c = '-') :
    (∀ c ∈ last.map toLowerRune, isLabelChar c = true) ↔ last ≠ some '-' := by
  cases last with
  | none => simp
  | some c =>
      simp only [Option.map_some, Option.mem_def, Option.some.injEq, forall_eq', ne_eq]
      refine ⟨?_, fun other => (admitted c rfl).resolve_right other⟩
      rintro labelChar rfl
      exact absurd labelChar (by decide)

theorem matchesLabel_toLowerRune_iff (text : List Char) :
    matchesLabel (text.map toLowerRune) = true ↔
      text ≠ [] ∧ text.length ≤ 63 ∧
        (∀ c ∈ text, isLabelChar (toLowerRune c) = true ∨ c = '-') ∧
        text.head? ≠ some '-' ∧ text.getLast? ≠ some '-' := by
  rw [matchesLabel, decide_eq_true_eq, List.head?_map, List.getLast?_map, List.length_map]
  have chars : (∀ c ∈ text.map toLowerRune, isLabelChar c = true ∨ c = '-') ↔
      ∀ c ∈ text, isLabelChar (toLowerRune c) = true ∨ c = '-' := by
    simp only [List.forall_mem_map, toLowerRune_eq_hyphen_iff]
  rw [chars, ne_eq, List.map_eq_nil_iff]
  refine and_congr_right fun _ => and_congr_right fun _ => ⟨?_, ?_⟩
  · rintro ⟨first, last, admitted⟩
    exact ⟨admitted, (end_matches_iff fun c isFirst => admitted c (List.mem_of_head? isFirst)).mp
      first, (end_matches_iff fun c isLast => admitted c (List.mem_of_getLast? isLast)).mp last⟩
  · rintro ⟨admitted, first, last⟩
    exact ⟨(end_matches_iff fun c isFirst => admitted c (List.mem_of_head? isFirst)).mpr first,
      (end_matches_iff fun c isLast => admitted c (List.mem_of_getLast? isLast)).mpr last,
      admitted⟩

/-- A byte that belongs to no character is read as one that no label admits. -/
theorem isValidLabel_iff {label : GoString} : isValidLabel label = true ↔ FoldedLabel label := by
  have admits (c : Char) : isLabelChar (toLowerRune c) = true ∨ c = '-' ↔
      LetterOrDigit c.toNat ∨ c = '-' ∨ c = kelvinSign ∨ c = dottedI := by
    rw [isLabelChar_toLowerRune_iff]
    tauto
  unfold isValidLabel toLower
  rw [runes_encode]
  split
  · rename_i refused
    refine iff_of_false (by decide) fun folded => ?_
    obtain ⟨text, rfl, nonempty, _⟩ := folded.text
    rcases refused with empty | long
    · exact nonempty (encode_eq_nil_iff.mp empty)
    · exact absurd folded.short (Nat.not_le_of_lt long)
  · rename_i admitted
    obtain ⟨nonempty, short⟩ := not_or.mp admitted
    rw [matchesLabel_toLowerRune_iff]
    constructor
    · rintro ⟨some', _, chars, first, last⟩
      have valid : replacement ∉ runes label := fun member =>
        absurd (chars _ member) (by decide)
      exact ⟨Nat.le_of_not_lt short, runes label, (encode_runes valid).symm, some',
        fun c member => (admits c).mp (chars c member), first, last⟩
    · intro folded
      obtain ⟨text, rfl, some', chars, first, last⟩ := folded.text
      rw [runes_encode]
      exact ⟨some', (length_le_length_encode text).trans folded.short,
        fun c member => (admits c).mpr (chars c member), first, last⟩

theorem dotted_iff {IsLabel : GoString → Prop} (dotless : ∀ label, IsLabel label → dot ∉ label)
    {hostname : GoString} :
    Dotted IsLabel hostname ↔ hostname.length ≤ 253 ∧ 2 ≤ (hostname.splitOn dot).length ∧
      ∀ label ∈ hostname.splitOn dot, IsLabel label := by
  refine and_congr_right fun _ => ⟨?_, fun split => ⟨_, split.1, split.2,
    (List.intercalate_splitOn dot).symm⟩⟩
  rintro ⟨labels, two, areLabels, rfl⟩
  have some' : labels ≠ [] := by
    rintro rfl
    exact absurd two (by decide)
  rw [List.splitOn_intercalate dot (fun label member => dotless label (areLabels label member))
    some']
  exact ⟨two, areLabels⟩

/-- The checks for dots next to each other or at an end only refuse empty labels. -/
theorem no_empty_label {hostname : GoString}
    (nonempty : ∀ label ∈ hostname.splitOn dot, label ≠ []) :
    ¬ ([dot, dot] <:+: hostname ∨ [dot] <+: hostname ∨ [dot] <:+ hostname) := by
  rintro (⟨before, after, rfl⟩ | ⟨after, rfl⟩ | ⟨before, rfl⟩)
  · refine nonempty [] ?_ rfl
    rw [List.append_assoc, List.cons_append, List.splitOn_append_cons_self]
    exact List.mem_append_right _ (by simp [List.splitOn_cons_eq_if_modifyHead])
  · refine nonempty [] ?_ rfl
    simp [List.splitOn_cons_eq_if_modifyHead]
  · refine nonempty [] ?_ rfl
    rw [List.splitOn_append_cons_self]
    simp

theorem dot_notMem_of_foldedLabel {label : GoString} (folded : FoldedLabel label) :
    dot ∉ label := by
  obtain ⟨text, rfl, _, chars, _⟩ := folded.text
  intro member
  have := (mem_encode_ascii_iff (c := '.') (by decide)).mp member
  exact absurd (chars '.' this) (by unfold LetterOrDigit; decide)

/-- What is accepted: hostnames in which the two characters may stand. -/
theorem isValidHostname_iff {hostname : GoString} :
    isValidHostname hostname = true ↔ Dotted FoldedLabel hostname := by
  rw [dotted_iff fun label => dot_notMem_of_foldedLabel]
  have valid : (hostname.splitOn dot).all isValidLabel = true ↔
      ∀ label ∈ hostname.splitOn dot, FoldedLabel label := by
    rw [List.all_eq_true]
    exact forall₂_congr fun label _ => isValidLabel_iff
  unfold isValidHostname
  split
  · rename_i refused
    refine iff_of_false (by decide) fun ⟨short, two, _⟩ => ?_
    rcases refused with empty | long
    · rw [empty] at two
      exact absurd two (by decide)
    · exact absurd short (Nat.not_le_of_lt long)
  · rename_i admitted
    have short : hostname.length ≤ 253 := Nat.le_of_not_lt (not_or.mp admitted).2
    split
    · rename_i refused
      refine iff_of_false (by decide) fun ⟨_, _, labels⟩ => no_empty_label ?_ refused
      rintro label member rfl
      obtain ⟨text, empty, some', _⟩ := (labels [] member).text
      exact some' (encode_eq_nil_iff.mp empty.symm)
    · simp only
      split
      · rename_i few
        exact iff_of_false (by decide) fun ⟨_, two, _⟩ => absurd two (Nat.not_le_of_lt few)
      · rename_i two
        rw [valid]
        exact ⟨fun labels => ⟨short, Nat.le_of_not_lt two, labels⟩, fun hostname => hostname.2.2⟩

section
variable {text : List Char}

/-- A text is read back from its bytes, so a label has no other one. -/
theorem foldedLabel_encode_iff :
    FoldedLabel (encode text) ↔ (encode text).length ≤ 63 ∧ text ≠ [] ∧
      (∀ c ∈ text, LetterOrDigit c.toNat ∨ c = '-' ∨ c = kelvinSign ∨ c = dottedI) ∧
      text.head? ≠ some '-' ∧ text.getLast? ≠ some '-' := by
  refine ⟨fun folded => ⟨folded.short, ?_⟩, fun parts => ⟨parts.1, text, rfl, parts.2⟩⟩
  obtain ⟨other, same, parts⟩ := folded.text
  have : text = other := by rw [← runes_encode text, same, runes_encode]
  exact this ▸ parts

theorem label_encode_iff (ascii : ∀ c ∈ text, c.toNat < 128) :
    Label (encode text) ↔ (encode text).length ≤ 63 ∧ text ≠ [] ∧
      (∀ c ∈ text, LetterOrDigit c.toNat ∨ c = '-') ∧
      text.head? ≠ some '-' ∧ text.getLast? ≠ some '-' := by
  have toNat {c : Char} (member : c ∈ text) : (UInt8.ofNat c.toNat).toNat = c.toNat := by
    rw [UInt8.toNat_ofNat', Nat.mod_eq_of_lt (by have := ascii c member; omega)]
  have isHyphen {c : Char} (member : c ∈ text) : UInt8.ofNat c.toNat = hyphen ↔ c = '-' := by
    rw [← UInt8.toNat_inj, toNat member, ← Char.toNat_inj]
    rfl
  have ends (last : Option Char) (member : ∀ c ∈ last, c ∈ text) :
      last.map (fun c => UInt8.ofNat c.toNat) ≠ some hyphen ↔ last ≠ some '-' := by
    cases last with
    | none => simp
    | some c => simp [isHyphen (member c rfl)]
  have bytes : (∀ byte ∈ encode text, LetterOrDigit byte.toNat ∨ byte = hyphen) ↔
      ∀ c ∈ text, LetterOrDigit c.toNat ∨ c = '-' := by
    rw [encode_ascii ascii, List.forall_mem_map]
    exact forall₂_congr fun c member => by rw [toNat member, isHyphen member]
  have first : (encode text).head? ≠ some hyphen ↔ text.head? ≠ some '-' := by
    rw [encode_ascii ascii, List.head?_map]
    exact ends _ fun c => List.mem_of_head?
  have last : (encode text).getLast? ≠ some hyphen ↔ text.getLast? ≠ some '-' := by
    rw [encode_ascii ascii, List.getLast?_map]
    exact ends _ fun c => List.mem_of_getLast?
  rw [← first, ← last, ← bytes, ne_eq, ← encode_eq_nil_iff]
  exact ⟨fun label => ⟨label.short, label.nonempty, label.bytes, label.first, label.last⟩,
    fun ⟨short, nonempty, bytes, first, last⟩ => ⟨nonempty, short, bytes, first, last⟩⟩

end

theorem ascii_of_label {label : GoString} (isLabel : Label label) {byte : UInt8}
    (member : byte ∈ label) : byte.toNat < 128 := by
  rcases isLabel.bytes byte member with letter | rfl
  · unfold LetterOrDigit at letter
    omega
  · decide

theorem label_iff {label : GoString} :
    Label label ↔ FoldedLabel label ∧ ∀ byte ∈ label, byte.toNat < 128 := by
  constructor
  · intro isLabel
    have small : ∀ byte ∈ label, byte.toNat < 128 := fun _ => ascii_of_label isLabel
    obtain ⟨text, ascii, rfl⟩ := exists_ascii_text small
    obtain ⟨short, nonempty, chars, ends⟩ := (label_encode_iff ascii).mp isLabel
    refine ⟨foldedLabel_encode_iff.mpr ⟨short, nonempty, fun c member => ?_, ends⟩, small⟩
    exact (chars c member).imp_right Or.inl
  · rintro ⟨folded, small⟩
    obtain ⟨text, rfl, _⟩ := folded.text
    have ascii : ∀ c ∈ text, c.toNat < 128 := fun _ => ascii_of_encode small
    obtain ⟨short, nonempty, chars, ends⟩ := foldedLabel_encode_iff.mp folded
    refine (label_encode_iff ascii).mpr ⟨short, nonempty, fun c member => ?_, ends⟩
    rcases chars c member with letter | rfl | rfl | rfl
    · exact Or.inl letter
    · exact Or.inr rfl
    · exact absurd (ascii _ member) (by decide)
    · exact absurd (ascii _ member) (by decide)

theorem forall_mem_intercalate_iff {P : UInt8 → Prop} (ofDot : P dot) {labels : List GoString} :
    (∀ byte ∈ [dot].intercalate labels, P byte) ↔ ∀ label ∈ labels, ∀ byte ∈ label, P byte := by
  induction labels with
  | nil => simp
  | cons label labels ih =>
      cases labels with
      | nil => simp
      | cons next labels =>
          rw [List.intercalate_cons_cons, List.forall_mem_cons, ← ih]
          simp only [List.forall_mem_append, List.mem_singleton, forall_eq, ofDot, and_true]

theorem dotted_label_iff {hostname : GoString} :
    Dotted Label hostname ↔
      Dotted FoldedLabel hostname ∧ ∀ byte ∈ hostname, byte.toNat < 128 := by
  have ascii {labels : List GoString} : (∀ byte ∈ [dot].intercalate labels, byte.toNat < 128) ↔
      ∀ label ∈ labels, ∀ byte ∈ label, byte.toNat < 128 :=
    forall_mem_intercalate_iff (by decide)
  constructor
  · rintro ⟨short, labels, two, areLabels, rfl⟩
    exact ⟨⟨short, labels, two, fun label member => (label_iff.mp (areLabels label member)).1, rfl⟩,
      ascii.mpr fun label member => (label_iff.mp (areLabels label member)).2⟩
  · rintro ⟨⟨short, labels, two, areLabels, rfl⟩, small⟩
    exact ⟨short, labels, two, fun label member =>
      label_iff.mpr ⟨areLabels label member, ascii.mp small label member⟩, rfl⟩

/-- The function decides a string by the grammar of hostnames exactly when it is no
hostname in which one of the two characters stands. -/
theorem isValidHostname_by_grammar_iff (hostname : GoString) :
    (isValidHostname hostname = true ↔ Dotted Label hostname) ↔
      ¬ (Dotted FoldedLabel hostname ∧ ∃ byte ∈ hostname, 128 ≤ byte.toNat) := by
  rw [isValidHostname_iff, dotted_label_iff]
  have small : (∃ byte ∈ hostname, 128 ≤ byte.toNat) ↔
      ¬ ∀ byte ∈ hostname, byte.toNat < 128 := by
    simp only [not_forall, not_lt, exists_prop]
  rw [small]
  tauto

/-- The Kelvin sign before `.com`, as the bytes e2 84 aa, and the I with a dot, as c4 b0. -/
theorem isValidHostname_accepts_kelvin :
    let kelvin : GoString := [0xe2, 0x84, 0xaa, 0x2e, 0x63, 0x6f, 0x6d]
    let dotted : GoString := [0xc4, 0xb0, 0x2e, 0x63, 0x6f, 0x6d]
    (isValidHostname kelvin = true ∧ ¬ Dotted Label kelvin) ∧
      isValidHostname dotted = true ∧ ¬ Dotted Label dotted := by
  intro kelvin dotted
  have com : FoldedLabel (encode ['c', 'o', 'm']) :=
    foldedLabel_encode_iff.mpr ⟨by decide, by decide, by simp [LetterOrDigit], by decide, by decide⟩
  have kelvinLabel : FoldedLabel (encode [kelvinSign]) :=
    foldedLabel_encode_iff.mpr ⟨by decide, by decide, by simp, by decide, by decide⟩
  have dottedLabel : FoldedLabel (encode [dottedI]) :=
    foldedLabel_encode_iff.mpr ⟨by decide, by decide, by simp, by decide, by decide⟩
  refine ⟨⟨isValidHostname_iff.mpr ⟨by decide, [encode [kelvinSign], encode ['c', 'o', 'm']],
      by decide, by simp [com, kelvinLabel], by decide⟩, fun hostname => ?_⟩,
    isValidHostname_iff.mpr ⟨by decide, [encode [dottedI], encode ['c', 'o', 'm']],
      by decide, by simp [com, dottedLabel], by decide⟩, fun hostname => ?_⟩
  · exact absurd ((dotted_label_iff.mp hostname).2 0xe2 List.mem_cons_self) (by decide)
  · exact absurd ((dotted_label_iff.mp hostname).2 0xc4 List.mem_cons_self) (by decide)

end GoString

theorem byteLength_eq (text : List Char) : byteLength text = (encode text).length := by
  induction text with
  | nil => rfl
  | cons c text ih =>
      rw [encode_cons, List.length_append, String.length_utf8EncodeChar, ← ih]
      rfl

theorem isValidLabel_encode_iff (label : List Char) :
    GoString.isValidLabel (encode label) = true ↔
      label ≠ [] ∧ byteLength label ≤ 63 ∧ matchesLabel (label.map toLowerRune) = true := by
  unfold GoString.isValidLabel GoString.toLower
  simp only [runes_encode, encode_eq_nil_iff, ← byteLength_eq]
  split
  · rename_i refused
    refine iff_of_false (by decide) fun ⟨nonempty, short, _⟩ => ?_
    exact refused.elim nonempty fun long => absurd short (Nat.not_le_of_lt long)
  · rename_i admitted
    obtain ⟨nonempty, short⟩ := not_or.mp admitted
    exact ⟨fun found => ⟨nonempty, Nat.le_of_not_lt short, found⟩, fun parts => parts.2.2⟩

/-- On encoded texts the function is the one of the model on texts. -/
theorem isValidHostname_encode (hostname : String) :
    GoString.isValidHostname (encode hostname.toList) = isValidHostname hostname := by
  rw [Bool.eq_iff_iff, GoString.isValidHostname_iff,
    GoString.dotted_iff fun label => GoString.dot_notMem_of_foldedLabel, isValidHostname,
    decide_eq_true_eq, ← byteLength_eq]
  have split : (encode hostname.toList).splitOn GoString.dot =
      (hostname.toList.splitOn '.').map encode := splitOn_encode (by decide : '.'.toNat < 128) _
  rw [split, List.length_map, List.forall_mem_map]
  simp only [← GoString.isValidLabel_iff, isValidLabel_encode_iff]
  refine ⟨fun valid => ⟨?_, valid⟩, And.right⟩
  rintro rfl
  exact absurd valid.2.1 (by decide)

end KubeLB
