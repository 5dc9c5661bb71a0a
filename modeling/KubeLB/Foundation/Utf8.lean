import Mathlib.Data.List.Basic
import Mathlib.Tactic

/-!
Byte strings read as text, the way a loop over the characters of one reads them: a
byte with which no encoded character starts is read as the replacement character, and
the reading goes on behind it. What is read without a replacement is the encoding of
what was read.
-/

namespace Utf8

def encode (text : List Char) : List UInt8 := text.flatMap String.utf8EncodeChar

/-- The character whose encoding the bytes start with. -/
def decodeFirst (bytes : List UInt8) : Option Char := bytes.toByteArray.utf8DecodeChar? 0

/-- What stands for a byte that belongs to no character. -/
def replacement : Char := Char.ofNat 0xfffd

def runesFrom : Nat → List UInt8 → List Char
  | _, [] => []
  | skipped + 1, _ :: bytes => runesFrom skipped bytes
  | 0, byte :: bytes =>
      match decodeFirst (byte :: bytes) with
      | some c => c :: runesFrom (c.utf8Size - 1) bytes
      | none => replacement :: runesFrom 0 bytes

def runes (bytes : List UInt8) : List Char := runesFrom 0 bytes

theorem encode_cons (c : Char) (text : List Char) :
    encode (c :: text) = String.utf8EncodeChar c ++ encode text := rfl

theorem encode_eq_nil_iff {text : List Char} : encode text = [] ↔ text = [] := by
  cases text with
  | nil => exact iff_of_true rfl rfl
  | cons c text => simp [encode_cons, String.utf8EncodeChar_ne_nil]

theorem length_le_length_encode (text : List Char) : text.length ≤ (encode text).length := by
  induction text with
  | nil => exact Nat.le_refl 0
  | cons c text ih =>
      have := Char.utf8Size_pos c
      rw [encode_cons, List.length_append, String.length_utf8EncodeChar, List.length_cons]
      omega

theorem decodeFirst_append (c : Char) (rest : List UInt8) :
    decodeFirst (String.utf8EncodeChar c ++ rest) = some c := by
  rw [decodeFirst, List.toByteArray_append]
  exact ByteArray.utf8DecodeChar?_utf8EncodeChar_append

theorem eq_append_of_decodeFirst {bytes : List UInt8} {c : Char}
    (decoded : decodeFirst bytes = some c) :
    ∃ rest, bytes = String.utf8EncodeChar c ++ rest := by
  obtain ⟨rest, same⟩ := ByteArray.exists_of_utf8DecodeChar?_eq_some decoded
  have listed : rest = rest.data.toList.toByteArray :=
    ByteArray.ext (by rw [List.data_toByteArray, Array.toArray_toList])
  refine ⟨rest.data.toList, List.toByteArray_inj.mp ?_⟩
  rw [same, List.toByteArray_append, ← listed]

theorem runesFrom_eq (skipped : Nat) (bytes : List UInt8) :
    runesFrom skipped bytes = runes (bytes.drop skipped) := by
  induction skipped generalizing bytes with
  | zero => rfl
  | succ skipped ih =>
      cases bytes with
      | nil => rfl
      | cons byte bytes => exact ih bytes

theorem runes_append (c : Char) (rest : List UInt8) :
    runes (String.utf8EncodeChar c ++ rest) = c :: runes rest := by
  have length := String.length_utf8EncodeChar c
  obtain ⟨byte, bytes, encoded⟩ :=
    List.exists_cons_of_ne_nil (String.utf8EncodeChar_ne_nil (c := c))
  have decoded := decodeFirst_append c rest
  rw [encoded, List.cons_append] at decoded
  rw [encoded, List.cons_append, runes, runesFrom, decoded]
  simp only [runesFrom_eq]
  rw [encoded, List.length_cons] at length
  rw [← length, Nat.add_sub_cancel, List.drop_left]

@[simp] theorem runes_encode (text : List Char) : runes (encode text) = text := by
  induction text with
  | nil => rfl
  | cons c text ih => rw [encode_cons, runes_append, ih]

theorem encode_runes {bytes : List UInt8} (valid : replacement ∉ runes bytes) :
    encode (runes bytes) = bytes := by
  -- a character takes one byte or more, so the recursion is on the length
  induction length : bytes.length using Nat.strong_induction_on generalizing bytes with
  | h n ih =>
      cases bytes with
      | nil => rfl
      | cons byte bytes =>
          cases decoded : decodeFirst (byte :: bytes) with
          | none =>
              refine absurd ?_ valid
              rw [runes, runesFrom, decoded]
              exact List.mem_cons_self
          | some c =>
              obtain ⟨rest, same⟩ := eq_append_of_decodeFirst decoded
              rw [same, runes_append] at valid ⊢
              have shorter : rest.length < n := by
                have := congrArg List.length same
                have := Char.utf8Size_pos c
                simp only [List.length_append, String.length_utf8EncodeChar] at *
                omega
              rw [encode_cons, ih _ shorter (fun later => valid (List.mem_cons_of_mem _ later)) rfl]

theorem utf8EncodeChar_ascii {c : Char} (ascii : c.toNat < 128) :
    String.utf8EncodeChar c = [UInt8.ofNat c.toNat] := by
  have small : c.val.toNat ≤ 127 := Nat.le_of_lt_succ ascii
  simp only [String.utf8EncodeChar, small, if_true]
  rfl

theorem not_ascii_of_mem_utf8EncodeChar {c : Char} (other : 128 ≤ c.toNat) {byte : UInt8}
    (member : byte ∈ String.utf8EncodeChar c) : 128 ≤ byte.toNat := by
  have large : ¬ c.val.toNat ≤ 127 := Nat.not_le_of_lt other
  simp only [String.utf8EncodeChar, large, if_false] at member
  split at member
  · simp at member
    rcases member with rfl | rfl <;> simp <;> omega
  · split at member
    · simp at member
      rcases member with rfl | rfl | rfl <;> simp <;> omega
    · simp at member
      rcases member with rfl | rfl | rfl | rfl <;> simp <;> omega

theorem mem_encode_ascii_iff {text : List Char} {c : Char} (ascii : c.toNat < 128) :
    UInt8.ofNat c.toNat ∈ encode text ↔ c ∈ text := by
  rw [encode, List.mem_flatMap]
  constructor
  · rintro ⟨d, member, encoded⟩
    by_cases other : d.toNat < 128
    · rw [utf8EncodeChar_ascii other, List.mem_singleton] at encoded
      have same := congrArg UInt8.toNat encoded
      rw [UInt8.toNat_ofNat', UInt8.toNat_ofNat'] at same
      have : c = d := Char.toNat_inj.mp (by omega)
      exact this ▸ member
    · have large := not_ascii_of_mem_utf8EncodeChar (Nat.le_of_not_lt other) encoded
      rw [UInt8.toNat_ofNat'] at large
      omega
  · intro member
    exact ⟨c, member, by rw [utf8EncodeChar_ascii ascii]; exact List.mem_singleton_self _⟩

theorem encode_ascii {text : List Char} (ascii : ∀ c ∈ text, c.toNat < 128) :
    encode text = text.map fun c => UInt8.ofNat c.toNat := by
  induction text with
  | nil => rfl
  | cons c text ih =>
      rw [encode_cons, utf8EncodeChar_ascii (ascii c List.mem_cons_self),
        ih fun d member => ascii d (List.mem_cons_of_mem _ member)]
      rfl

theorem exists_ascii_text {bytes : List UInt8} (ascii : ∀ byte ∈ bytes, byte.toNat < 128) :
    ∃ text, (∀ c ∈ text, c.toNat < 128) ∧ bytes = encode text := by
  have toNat (byte : UInt8) : (Char.ofUInt8 byte).toNat = byte.toNat := byte.toNat_toUInt32
  have small : ∀ c ∈ bytes.map Char.ofUInt8, c.toNat < 128 := by
    intro c member
    obtain ⟨byte, inBytes, rfl⟩ := List.mem_map.mp member
    rw [toNat]
    exact ascii byte inBytes
  refine ⟨_, small, ?_⟩
  rw [encode_ascii small, List.map_map]
  exact (List.map_id'' (fun byte => by simp [toNat]) bytes).symm

theorem ascii_of_encode {text : List Char} (ascii : ∀ byte ∈ encode text, byte.toNat < 128)
    {c : Char} (member : c ∈ text) : c.toNat < 128 := by
  by_contra other
  obtain ⟨byte, bytes, encoded⟩ :=
    List.exists_cons_of_ne_nil (String.utf8EncodeChar_ne_nil (c := c))
  have first : byte ∈ String.utf8EncodeChar c := encoded ▸ List.mem_cons_self
  have large := not_ascii_of_mem_utf8EncodeChar (Nat.le_of_not_lt other) first
  have := ascii byte (List.mem_flatMap.mpr ⟨c, member, first⟩)
  omega

theorem splitOn_append_of_notMem {sep : UInt8} {before : List UInt8} (absent : sep ∉ before)
    (after : List UInt8) :
    (before ++ after).splitOn sep = (after.splitOn sep).modifyHead (before ++ ·) := by
  induction before with
  | nil =>
      cases parts : after.splitOn sep with
      | nil => exact absurd parts (List.splitOn_ne_nil sep after)
      | cons part parts' => rw [List.nil_append, parts]; rfl
  | cons byte before ih =>
      obtain ⟨differs, later⟩ := List.ne_and_not_mem_of_not_mem_cons absent
      rw [List.cons_append, List.splitOn_cons_eq_if_modifyHead,
        if_neg (by simpa using differs.symm), ih later, List.modifyHead_modifyHead]
      rfl

theorem splitOn_encode {sep : Char} (ascii : sep.toNat < 128) (text : List Char) :
    (encode text).splitOn (UInt8.ofNat sep.toNat) = (text.splitOn sep).map encode := by
  induction text with
  | nil => simp [encode]
  | cons c text ih =>
      rw [encode_cons, List.splitOn_cons_eq_if_modifyHead]
      by_cases same : c = sep
      · rw [same, utf8EncodeChar_ascii ascii, List.singleton_append,
          List.splitOn_cons_eq_if_modifyHead, ih]
        simp [encode]
      · have absent : UInt8.ofNat sep.toNat ∉ String.utf8EncodeChar c := by
          intro member
          have encoded : UInt8.ofNat sep.toNat ∈ encode [c] := by simpa [encode] using member
          exact same (List.mem_singleton.mp ((mem_encode_ascii_iff ascii).mp encoded)).symm
        rw [splitOn_append_of_notMem absent, ih, if_neg (by simpa using same)]
        cases text.splitOn sep with
        | nil => rfl
        | cons part parts => rfl

end Utf8
