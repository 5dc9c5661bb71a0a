import KubeLB.LoadBalancer.HostnameGrammar

/-!
The hostnames that GenerateHostname returns (internal/kubelb/loadbalancer.go).

A random label is put before the domain that the Tenant or the Config has. If the
result is no hostname, a shorter label is used, made from the clock, and what comes of
that is not looked at again.
-/

namespace KubeLB
open Utf8 GoString

def chosenDomain (tenant : DNSSettings) (config : ConfigDNSSettings) : String :=
  match tenant.wildcardDomain with
  | some domain => if domain ≠ "" then domain else config.wildcardDomain
  | none => config.wildcardDomain

/-- The domain as the three calls of TrimPrefix leave it. -/
def trimmedDomain (domain : String) : String :=
  trimLeading (trimLeading (trimLeading domain "*.") "**.") "*"

def isMarker (c : Char) : Bool := c = '*' ∨ c = '.'

def withoutMarker (domain : String) : List Char := domain.toList.dropWhile isMarker

/-- What GenerateHostname should return: nothing, or a hostname that ends in the domain. -/
def Usable (domain hostname : String) : Prop :=
  hostname = "" ∨ (isValidHostname hostname = true ∧
    ∃ front, hostname.toList = front ++ '.' :: withoutMarker domain)

structure ValidLabel (label : List Char) : Prop where
  nonempty : label ≠ []
  short : byteLength label ≤ 63
  matched : matchesLabel (label.map toLowerRune) = true

theorem generateHostname_eq (tenant : DNSSettings) (config : ConfigDNSSettings)
    (draw : HostnameDraw) :
    generateHostname tenant config draw =
      let chosen := chosenDomain tenant config
      if chosen = "" then ""
      else
        match draw.randomBytes with
        | none => fallbackHostname draw.now chosen
        | some bytes =>
            if isValidHostname (trimmedDomain chosen) = false then ""
            else if isValidHostname (hexEncode bytes ++ "." ++ trimmedDomain chosen) = false then
              fallbackHostname draw.now (trimmedDomain chosen)
            else hexEncode bytes ++ "." ++ trimmedDomain chosen := rfl

theorem isValidHostname_iff_labels {hostname : String} :
    isValidHostname hostname = true ↔ byteLength hostname.toList ≤ 253 ∧
      2 ≤ (hostname.toList.splitOn '.').length ∧
      ∀ label ∈ hostname.toList.splitOn '.', ValidLabel label := by
  rw [isValidHostname, decide_eq_true_eq]
  constructor
  · rintro ⟨_, short, two, labels⟩
    exact ⟨short, two, fun label member =>
      ⟨(labels label member).1, (labels label member).2.1, (labels label member).2.2⟩⟩
  · rintro ⟨short, two, labels⟩
    refine ⟨?_, short, two, fun label member =>
      ⟨(labels label member).nonempty, (labels label member).short, (labels label member).matched⟩⟩
    rintro rfl
    exact absurd two (by decide)

section
variable {label : List Char}

theorem ValidLabel.chars (valid : ValidLabel label) {c : Char} (member : c ∈ label) :
    isLabelChar (toLowerRune c) = true ∨ c = '-' :=
  ((matchesLabel_toLowerRune_iff label).mp valid.matched).2.2.1 c member

theorem ValidLabel.dotless (valid : ValidLabel label) : '.' ∉ label := fun member =>
  absurd (valid.chars member) (by decide)

/-- A label made of letters, digits and hyphens of ASCII; its characters are bytes. -/
theorem validLabel_of_ascii (nonempty : label ≠ []) (short : label.length ≤ 63)
    (chars : ∀ c ∈ label, LetterOrDigit c.toNat ∨ c = '-')
    (first : label.head? ≠ some '-') (last : label.getLast? ≠ some '-') :
    ValidLabel label ∧ byteLength label = label.length := by
  have ascii : ∀ c ∈ label, c.toNat < 128 := by
    intro c member
    rcases chars c member with letter | rfl
    · unfold LetterOrDigit at letter
      omega
    · decide
  have length : byteLength label = label.length := by
    rw [byteLength_eq, encode_ascii ascii, List.length_map]
  refine ⟨⟨nonempty, length ▸ short, (matchesLabel_toLowerRune_iff label).mpr
    ⟨nonempty, short, fun c member => ?_, first, last⟩⟩, length⟩
  exact (chars c member).imp_left fun letter => isLabelChar_toLowerRune_iff.mpr (Or.inl letter)

end

theorem byteLength_append (text text' : List Char) :
    byteLength (text ++ text') = byteLength text + byteLength text' := by
  simp [byteLength]

/-- A label before a domain is a hostname if the parts of the domain are labels and the
whole is not too long. -/
theorem isValidHostname_join {front domain : String} (label : ValidLabel front.toList) :
    isValidHostname (front ++ "." ++ domain) = true ↔
      byteLength front.toList + 1 + byteLength domain.toList ≤ 253 ∧
        ∀ part ∈ domain.toList.splitOn '.', ValidLabel part := by
  have text : (front ++ "." ++ domain).toList = front.toList ++ '.' :: domain.toList := by simp
  have length : byteLength (front.toList ++ '.' :: domain.toList) =
      byteLength front.toList + 1 + byteLength domain.toList := by
    rw [List.append_cons, byteLength_append, byteLength_append]
    rfl
  have some' := List.length_pos_of_ne_nil (List.splitOn_ne_nil '.' domain.toList)
  rw [isValidHostname_iff_labels, text, length, List.splitOn_append_cons_self,
    List.splitOn_eq_singleton label.dotless, List.singleton_append, List.forall_mem_cons,
    List.length_cons]
  exact ⟨fun ⟨short, _, _, parts⟩ => ⟨short, parts⟩,
    fun ⟨short, parts⟩ => ⟨short, by omega, label, parts⟩⟩

theorem dropWhile_of_labels {domain : List Char}
    (parts : ∀ part ∈ domain.splitOn '.', ValidLabel part) :
    domain.dropWhile isMarker = domain := by
  cases domain with
  | nil => rfl
  | cons c rest =>
      refine List.dropWhile_cons_of_neg fun marker => ?_
      rw [List.splitOn_cons_eq_if_modifyHead] at parts
      rcases of_decide_eq_true marker with rfl | rfl
      · -- an asterisk would stand in the first label
        obtain ⟨part, others, split⟩ :=
          List.exists_cons_of_ne_nil (List.splitOn_ne_nil '.' rest)
        rw [if_neg (by decide), split, List.modifyHead_cons, List.forall_mem_cons] at parts
        exact absurd (parts.1.chars List.mem_cons_self) (by decide)
      · rw [if_pos (by decide), List.forall_mem_cons] at parts
        exact parts.1.nonempty rfl

theorem eq_append_trimLeading (s marker : String)
    (isFront : marker.toList.all isMarker = true) :
    ∃ front, (∀ c ∈ front, isMarker c = true) ∧
      s.toList = front ++ (trimLeading s marker).toList := by
  unfold trimLeading
  split
  · rename_i found
    obtain ⟨rest, same⟩ := List.isPrefixOf_iff_prefix.mp found
    refine ⟨marker.toList, List.all_eq_true.mp isFront, ?_⟩
    rw [String.toList_ofList, ← same, ← String.length_toList, List.drop_left]
  · exact ⟨[], fun c member => absurd member List.not_mem_nil, rfl⟩

theorem trimLeading_of_labels {domain : String} (marker : String)
    (parts : ∀ part ∈ domain.toList.splitOn '.', ValidLabel part)
    (isFront : marker.toList.all isMarker = true) : trimLeading domain marker = domain := by
  obtain ⟨front, marks, same⟩ := eq_append_trimLeading domain marker isFront
  have whole := dropWhile_of_labels parts
  cases front with
  | nil => exact (String.toList_inj.mp same).symm
  | cons c front =>
      rw [same, List.cons_append, List.dropWhile_cons_of_pos (marks c List.mem_cons_self)] at whole
      -- dropping nothing but markers from the rest cannot give back the whole
      have shorter : ((front ++ (trimLeading domain marker).toList).dropWhile isMarker).length ≤
          (front ++ (trimLeading domain marker).toList).length :=
        (List.dropWhile_sublist isMarker).length_le
      rw [whole, List.length_cons] at shorter
      omega

theorem trimmedDomain_of_labels {domain : String}
    (parts : ∀ part ∈ domain.toList.splitOn '.', ValidLabel part) :
    trimmedDomain domain = domain := by
  rw [trimmedDomain, trimLeading_of_labels "*." parts (by decide),
    trimLeading_of_labels "**." parts (by decide), trimLeading_of_labels "*" parts (by decide)]

/-- A valid domain that trimming leaves is the one without its marker. -/
theorem withoutMarker_eq_trimmed {domain : String}
    (parts : ∀ part ∈ (trimmedDomain domain).toList.splitOn '.', ValidLabel part) :
    withoutMarker domain = (trimmedDomain domain).toList := by
  obtain ⟨first, firstMarks, afterFirst⟩ := eq_append_trimLeading domain "*." (by decide)
  obtain ⟨second, secondMarks, afterSecond⟩ :=
    eq_append_trimLeading (trimLeading domain "*.") "**." (by decide)
  obtain ⟨third, thirdMarks, afterThird⟩ :=
    eq_append_trimLeading (trimLeading (trimLeading domain "*.") "**.") "*" (by decide)
  rw [withoutMarker, afterFirst, afterSecond, afterThird, List.dropWhile_append_of_pos firstMarks,
    List.dropWhile_append_of_pos secondMarks, List.dropWhile_append_of_pos thirdMarks]
  exact dropWhile_of_labels parts

theorem validLabel_hexEncode (bytes : BitVec 64) :
    ValidLabel (hexEncode bytes).toList ∧ byteLength (hexEncode bytes).toList = 16 := by
  have digit : ∀ n < 16, LetterOrDigit (Nat.digitChar n).toNat := by
    unfold LetterOrDigit
    decide
  have chars : ∀ c ∈ (hexEncode bytes).toList, LetterOrDigit c.toNat := by
    intro c member
    rw [hexEncode, String.toList_ofList] at member
    obtain ⟨i, _, rfl⟩ := List.mem_map.mp member
    exact digit _ (Nat.mod_lt _ (by decide))
  have notHyphen : '-' ∉ (hexEncode bytes).toList := fun member =>
    absurd (chars '-' member) (by unfold LetterOrDigit; decide)
  have length : (hexEncode bytes).toList.length = 16 := by simp [hexEncode]
  obtain ⟨valid, bytesLength⟩ := validLabel_of_ascii (List.ne_nil_of_length_pos (by omega))
    (by omega) (fun c member => Or.inl (chars c member))
    (fun first => notHyphen (List.mem_of_head? first))
    (fun last => notHyphen (List.mem_of_getLast? last))
  exact ⟨valid, bytesLength.trans length⟩

theorem digits_of_nat (n : Nat) :
    (∀ c ∈ n.repr.toList, LetterOrDigit c.toNat) ∧ n.repr.toList ≠ [] := by
  rw [Nat.toList_repr]
  refine ⟨fun c member => ?_, Nat.toDigits_ne_nil⟩
  have digit := Nat.isDigit_of_mem_toDigits (by decide) (by decide) member
  simp only [Char.isDigit, Bool.and_eq_true, decide_eq_true_eq, UInt32.le_iff_toNat_le] at digit
  exact Or.inl digit

theorem digits_of_int (n : Int) (range : -2 ^ 63 ≤ n ∧ n < 2 ^ 63) :
    (∀ c ∈ (toString n).toList, LetterOrDigit c.toNat ∨ c = '-') ∧
      (toString n).toList.length ≤ 20 ∧
      ∃ c, (toString n).toList.getLast? = some c ∧ c ≠ '-' := by
  have last (m : Nat) : ∃ c, m.repr.toList.getLast? = some c ∧ c ≠ '-' := by
    obtain ⟨chars, nonempty⟩ := digits_of_nat m
    refine ⟨_, List.getLast?_eq_some_getLast nonempty, fun hyphen => ?_⟩
    have := chars _ (List.getLast_mem nonempty)
    rw [hyphen] at this
    exact absurd this (by unfold LetterOrDigit; decide)
  have short (m : Nat) (small : m < 10 ^ 19) : m.repr.toList.length ≤ 19 :=
    String.length_toList ▸ Nat.repr_length m 19 (by decide) small
  cases n with
  | ofNat m =>
      rw [Int.ofNat_eq_natCast] at range
      exact ⟨fun c member => Or.inl ((digits_of_nat m).1 c member),
        (short m (by omega)).trans (by decide), last m⟩
  | negSucc m =>
      obtain ⟨c, isLast, notHyphen⟩ := last (m + 1)
      have text : (toString (Int.negSucc m)).toList = '-' :: (m + 1).repr.toList := by
        change ("-" ++ (m + 1).repr).toList = _
        simp
      rw [text]
      refine ⟨?_, Nat.succ_le_succ (short (m + 1) (by omega)), c, ?_, notHyphen⟩
      · rw [List.forall_mem_cons]
        exact ⟨Or.inr rfl, fun d member => Or.inl ((digits_of_nat (m + 1)).1 d member)⟩
      · rw [List.getLast?_cons, isLast]
        rfl

theorem validLabel_clock (now : Int) (range : -2 ^ 63 ≤ now ∧ now < 2 ^ 63) :
    ValidLabel ("lb-" ++ toString now).toList ∧
      byteLength ("lb-" ++ toString now).toList = (toString now).length + 3 := by
  obtain ⟨chars, short, c, last, notHyphen⟩ := digits_of_int now range
  have text : ("lb-" ++ toString now).toList = ['l', 'b', '-'] ++ (toString now).toList := by simp
  have length : ("lb-" ++ toString now).toList.length = (toString now).toList.length + 3 := by
    rw [text, List.length_append, Nat.add_comm]
    rfl
  have nonempty : ("lb-" ++ toString now).toList ≠ [] := List.ne_nil_of_length_pos (by omega)
  obtain ⟨valid, bytesLength⟩ := validLabel_of_ascii nonempty (by omega)
    (by
      rw [text, List.forall_mem_append]
      exact ⟨by simp [LetterOrDigit], chars⟩)
    (by rw [text]; exact (by decide : some 'l' ≠ some '-'))
    (by
      rw [text, List.getLast?_append, last]
      simpa using notHyphen)
  exact ⟨valid, bytesLength.trans length⟩

theorem usable_join {front domain chosen : String}
    (valid : isValidHostname (front ++ "." ++ domain) = true)
    (same : withoutMarker chosen = domain.toList) : Usable chosen (front ++ "." ++ domain) :=
  Or.inr ⟨valid, front.toList, by simp [same]⟩

section
variable {now : Int} (range : -2 ^ 63 ≤ now ∧ now < 2 ^ 63)
include range

/-- The fallback is a hostname if the parts of the domain are labels and 249 bytes are
enough for the clock and the domain. -/
theorem isValidHostname_fallback_iff (domain : String) :
    isValidHostname (fallbackHostname now domain) = true ↔
      (toString now).length + byteLength domain.toList ≤ 249 ∧
        ∀ part ∈ domain.toList.splitOn '.', ValidLabel part := by
  obtain ⟨label, length⟩ := validLabel_clock now range
  refine (isValidHostname_join label).trans ?_
  rw [length]
  exact and_congr_left fun _ => by omega

/-- The fallback is usable exactly when it is a hostname; it is never empty. -/
theorem usable_fallback_iff {domain chosen : String}
    (marker : (∀ part ∈ domain.toList.splitOn '.', ValidLabel part) →
      withoutMarker chosen = domain.toList) :
    Usable chosen (fallbackHostname now domain) ↔
      isValidHostname (fallbackHostname now domain) = true := by
  constructor
  · rintro (empty | ⟨valid, _⟩)
    · have := congrArg String.length empty
      simp [fallbackHostname] at this
    · exact valid
  · intro valid
    exact usable_join valid (marker ((isValidHostname_fallback_iff range domain).mp valid).2)

/-- With a domain that is a hostname, the random label is taken if it leaves the name
short enough, and the clock otherwise; the label of the clock may be too long as well. -/
theorem usable_random_iff {chosen : String} (valid : isValidHostname (trimmedDomain chosen) = true)
    (bytes : BitVec 64) :
    Usable chosen
        (if isValidHostname (hexEncode bytes ++ "." ++ trimmedDomain chosen) = false then
          fallbackHostname now (trimmedDomain chosen)
        else hexEncode bytes ++ "." ++ trimmedDomain chosen) ↔
      byteLength (trimmedDomain chosen).toList ≤ 236 ∨
        (toString now).length + byteLength (trimmedDomain chosen).toList ≤ 249 := by
  obtain ⟨short, _, parts⟩ := isValidHostname_iff_labels.mp valid
  obtain ⟨label, length⟩ := validLabel_hexEncode bytes
  have joined : isValidHostname (hexEncode bytes ++ "." ++ trimmedDomain chosen) = true ↔ _ :=
    isValidHostname_join label
  rw [length] at joined
  have marker := withoutMarker_eq_trimmed parts
  split
  · rename_i long
    have noRoom : ¬ byteLength (trimmedDomain chosen).toList ≤ 236 := fun fits =>
      absurd (joined.mpr ⟨by omega, parts⟩) (by simp [long])
    rw [or_iff_right noRoom, usable_fallback_iff range fun _ => marker,
      isValidHostname_fallback_iff range]
    exact and_iff_left parts
  · rename_i accepted
    have accepted := Bool.eq_true_of_not_eq_false accepted
    have room := (joined.mp accepted).1
    exact iff_of_true (usable_join accepted marker) (Or.inl (by omega))

end

/-- What GenerateHostname returns is usable exactly when there is no domain, or, with
random bytes, the domain is no hostname, leaves room for the random label, or leaves room
for the clock; and without them, the domain with its marker still on has labels only and
leaves room for the clock. -/
theorem generateHostname_usable_iff (tenant : DNSSettings) (config : ConfigDNSSettings)
    (draw : HostnameDraw) (clock : -2 ^ 63 ≤ draw.now ∧ draw.now < 2 ^ 63) :
    Usable (chosenDomain tenant config) (generateHostname tenant config draw) ↔
      chosenDomain tenant config = "" ∨
        match draw.randomBytes with
        | none =>
            let domain := chosenDomain tenant config
            (toString draw.now).length + byteLength domain.toList ≤ 249 ∧
              ∀ part ∈ domain.toList.splitOn '.', ValidLabel part
        | some _ =>
            let domain := trimmedDomain (chosenDomain tenant config)
            isValidHostname domain = false ∨ byteLength domain.toList ≤ 236 ∨
              (toString draw.now).length + byteLength domain.toList ≤ 249 := by
  rw [generateHostname_eq]
  generalize chosenDomain tenant config = chosen
  simp only
  split
  · rename_i empty
    exact iff_of_true (Or.inl rfl) (Or.inl empty)
  · rename_i nonempty
    rw [or_iff_right nonempty]
    cases draw.randomBytes with
    | none =>
        exact (usable_fallback_iff clock dropWhile_of_labels).trans
          (isValidHostname_fallback_iff clock chosen)
    | some bytes =>
        simp only
        split
        · rename_i invalid
          exact iff_of_true (Or.inl rfl) (Or.inl invalid)
        · rename_i valid
          rw [or_iff_right valid]
          exact usable_random_iff clock (Bool.eq_true_of_not_eq_false valid) bytes

theorem generateHostname_usable_example :
    Usable "*.apps.example.com" (generateHostname { wildcardDomain := some "*.apps.example.com" } {}
      { randomBytes := some 0x0123456789abcdef, now := 1700000000 }) :=
  (generateHostname_usable_iff { wildcardDomain := some "*.apps.example.com" } {}
    { randomBytes := some 0x0123456789abcdef, now := 1700000000 } (by decide)).mpr
    (Or.inr (Or.inr (Or.inl (by decide))))

/-- Three labels of 63 letters and one of 48: a domain of 240 bytes. -/
def longLabels : List (List Char) :=
  [List.replicate 63 'a', List.replicate 63 'a', List.replicate 63 'a', List.replicate 48 'a']

def longDomain : String := String.ofList (['.'].intercalate longLabels)

theorem validLabel_replicate {n : Nat} (some' : 0 < n) (short : n ≤ 63) :
    ValidLabel (List.replicate n 'a') := by
  have letters : ∀ c ∈ List.replicate n 'a', c = 'a' := fun c => List.eq_of_mem_replicate
  refine (validLabel_of_ascii (List.ne_nil_of_length_pos (by simpa using some'))
    (by simpa using short) (fun c member => ?_) (fun first => ?_) (fun last => ?_)).1
  · rw [letters c member]
    exact Or.inl (by unfold LetterOrDigit; decide)
  · exact absurd (letters '-' (List.mem_of_head? first)) (by decide)
  · exact absurd (letters '-' (List.mem_of_getLast? last)) (by decide)

theorem splitOn_longDomain : longDomain.toList.splitOn '.' = longLabels := by
  rw [longDomain, String.toList_ofList]
  exact List.splitOn_intercalate '.' (by simp [longLabels]) (by decide)

theorem byteLength_longDomain : byteLength longDomain.toList = 240 := by
  have letters (n : Nat) : byteLength (List.replicate n 'a') = n := by
    rw [byteLength, List.map_replicate, List.sum_replicate_nat]
    exact Nat.mul_one n
  rw [longDomain, String.toList_ofList, longLabels]
  simp only [List.intercalate_cons_cons, List.intercalate_singleton, byteLength_append, letters]
  rfl

theorem labels_longDomain : ∀ part ∈ longDomain.toList.splitOn '.', ValidLabel part := by
  have long : ValidLabel (List.replicate 63 'a') := validLabel_replicate (by decide) (by decide)
  have short : ValidLabel (List.replicate 48 'a') := validLabel_replicate (by decide) (by decide)
  rw [splitOn_longDomain, longLabels]
  simp only [List.mem_cons, List.not_mem_nil, or_false, forall_eq_or_imp, forall_eq]
  exact ⟨long, long, long, short⟩

/-- The domain is a hostname; what is returned for it has 254 bytes. -/
theorem generateHostname_too_long :
    let draw : HostnameDraw := { randomBytes := some 0, now := 1700000000 }
    let hostname := generateHostname { wildcardDomain := some longDomain } {} draw
    isValidHostname longDomain = true ∧ hostname = fallbackHostname 1700000000 longDomain ∧
      ¬ Usable longDomain hostname := by
  intro draw hostname
  have valid : isValidHostname longDomain = true := isValidHostname_iff_labels.mpr
    ⟨by rw [byteLength_longDomain]; decide, by rw [splitOn_longDomain]; decide, labels_longDomain⟩
  have untrimmed := trimmedDomain_of_labels labels_longDomain
  have nonempty : longDomain ≠ "" := fun empty => by
    have := byteLength_longDomain
    rw [empty] at this
    cases this
  have chosen : chosenDomain { wildcardDomain := some longDomain } {} = longDomain := by
    rw [chosenDomain]
    exact if_pos nonempty
  have returned : hostname = fallbackHostname 1700000000 longDomain := by
    obtain ⟨label, length⟩ := validLabel_hexEncode 0
    have long : isValidHostname (hexEncode 0 ++ "." ++ longDomain) = false := by
      rw [Bool.eq_false_iff, ne_eq, isValidHostname_join label, length, byteLength_longDomain]
      omega
    simp only [hostname, generateHostname_eq, chosen, untrimmed, valid, draw, long, nonempty,
      if_false, if_true, Bool.true_eq_false]
  refine ⟨valid, returned, ?_⟩
  rw [returned, usable_fallback_iff (by decide) fun _ => dropWhile_of_labels labels_longDomain,
    isValidHostname_fallback_iff (by decide), byteLength_longDomain]
  exact fun fits => absurd fits.1 (by decide)

end KubeLB
