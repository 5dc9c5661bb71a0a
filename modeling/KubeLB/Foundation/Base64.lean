import Mathlib.Data.List.Basic
import Mathlib.Tactic

/-!
Base64 with the standard alphabet and padding.

Three bytes are four digits. A group of one or two bytes at the end is filled up with
padding. What is encoded is decoded again.
-/

namespace Base64

def digit (n : Nat) : Char :=
  if n < 26 then Char.ofNat (65 + n)
  else if n < 52 then Char.ofNat (97 + (n - 26))
  else if n < 62 then Char.ofNat (48 + (n - 52))
  else if n = 62 then '+'
  else '/'

def value (c : Char) : Option Nat :=
  if 'A' ≤ c ∧ c ≤ 'Z' then some (c.toNat - 65)
  else if 'a' ≤ c ∧ c ≤ 'z' then some (c.toNat - 97 + 26)
  else if '0' ≤ c ∧ c ≤ '9' then some (c.toNat - 48 + 52)
  else if c = '+' then some 62
  else if c = '/' then some 63
  else none

def encode : List UInt8 → List Char
  | [] => []
  | [a] => [digit (a.toNat / 4), digit (a.toNat % 4 * 16), '=', '=']
  | [a, b] =>
      [digit (a.toNat / 4), digit (a.toNat % 4 * 16 + b.toNat / 16), digit (b.toNat % 16 * 4), '=']
  | a :: b :: c :: rest =>
      digit (a.toNat / 4) :: digit (a.toNat % 4 * 16 + b.toNat / 16) ::
        digit (b.toNat % 16 * 4 + c.toNat / 64) :: digit (c.toNat % 64) :: encode rest

/-- The bytes of a text; the unused bits of a group with padding are not looked at. -/
def decode : List Char → Option (List UInt8)
  | [] => some []
  | w :: x :: y :: z :: rest => do
      let w ← value w
      let x ← value x
      let first := UInt8.ofNat (w * 4 + x / 16)
      if z = '=' then
        if rest ≠ [] then none
        else if y = '=' then return [first]
        else
          let y ← value y
          return [first, UInt8.ofNat (x % 16 * 16 + y / 4)]
      else
        let y ← value y
        let z ← value z
        let bytes ← decode rest
        return first :: UInt8.ofNat (x % 16 * 16 + y / 4) :: UInt8.ofNat (y % 4 * 64 + z) :: bytes
  | _ => none

theorem value_digit : ∀ {n : Nat}, n < 64 → value (digit n) = some n := by
  decide

theorem digit_ne_pad : ∀ {n : Nat}, n < 64 → digit n ≠ '=' := by
  decide

theorem digit_eq_plus : ∀ {n : Nat}, n < 64 → (digit n = '+' ↔ n = 62) := by
  decide

theorem ofNat_eq {a : UInt8} {n : Nat} (same : n = a.toNat) : UInt8.ofNat n = a := by
  rw [same, UInt8.ofNat_toNat]

theorem decode_encode (bytes : List UInt8) : decode (encode bytes) = some bytes := by
  fun_induction encode bytes with
  | case1 => rfl
  | case2 a =>
      have small := a.toNat_lt
      have first : UInt8.ofNat (a.toNat / 4 * 4 + a.toNat % 4 * 16 / 16) = a :=
        ofNat_eq (by omega)
      simp only [decode, value_digit (show a.toNat / 4 < 64 by omega),
        value_digit (show a.toNat % 4 * 16 < 64 by omega), first, Option.bind_eq_bind,
        Option.bind_some, ne_eq, not_true_eq_false, if_true, if_false, Option.pure_def]
  | case3 a b =>
      have small := a.toNat_lt
      have small' := b.toNat_lt
      have last : b.toNat % 16 * 4 < 64 := by omega
      have first : UInt8.ofNat (a.toNat / 4 * 4 + (a.toNat % 4 * 16 + b.toNat / 16) / 16) = a :=
        ofNat_eq (by omega)
      have second : UInt8.ofNat ((a.toNat % 4 * 16 + b.toNat / 16) % 16 * 16 +
          b.toNat % 16 * 4 / 4) = b := ofNat_eq (by omega)
      simp only [decode, value_digit (show a.toNat / 4 < 64 by omega),
        value_digit (show a.toNat % 4 * 16 + b.toNat / 16 < 64 by omega), value_digit last,
        digit_ne_pad last, first, second, Option.bind_eq_bind, Option.bind_some, ne_eq,
        not_true_eq_false, if_true, if_false, Option.pure_def]
  | case4 a b c rest ih =>
      have small := a.toNat_lt
      have small' := b.toNat_lt
      have small'' := c.toNat_lt
      have last : c.toNat % 64 < 64 := by omega
      have first : UInt8.ofNat (a.toNat / 4 * 4 + (a.toNat % 4 * 16 + b.toNat / 16) / 16) = a :=
        ofNat_eq (by omega)
      have second : UInt8.ofNat ((a.toNat % 4 * 16 + b.toNat / 16) % 16 * 16 +
          (b.toNat % 16 * 4 + c.toNat / 64) / 4) = b := ofNat_eq (by omega)
      have third : UInt8.ofNat ((b.toNat % 16 * 4 + c.toNat / 64) % 4 * 64 + c.toNat % 64) = c :=
        ofNat_eq (by omega)
      simp only [decode, value_digit (show a.toNat / 4 < 64 by omega),
        value_digit (show a.toNat % 4 * 16 + b.toNat / 16 < 64 by omega),
        value_digit (show b.toNat % 16 * 4 + c.toNat / 64 < 64 by omega), value_digit last,
        digit_ne_pad last, ih, first, second, third, Option.bind_eq_bind, Option.bind_some,
        if_false, Option.pure_def]

theorem eq_digit_of_mem_encode {bytes : List UInt8} {c : Char} (listed : c ∈ encode bytes) :
    c = '=' ∨ ∃ n < 64, c = digit n := by
  fun_induction encode bytes with
  | case1 => cases listed
  | case2 a =>
      have small := a.toNat_lt
      simp only [List.mem_cons, List.not_mem_nil, or_false] at listed
      rcases listed with rfl | rfl | rfl | rfl
      · exact Or.inr ⟨_, by omega, rfl⟩
      · exact Or.inr ⟨_, by omega, rfl⟩
      · exact Or.inl rfl
      · exact Or.inl rfl
  | case3 a b =>
      have small := a.toNat_lt
      have small' := b.toNat_lt
      simp only [List.mem_cons, List.not_mem_nil, or_false] at listed
      rcases listed with rfl | rfl | rfl | rfl
      · exact Or.inr ⟨_, by omega, rfl⟩
      · exact Or.inr ⟨_, by omega, rfl⟩
      · exact Or.inr ⟨_, by omega, rfl⟩
      · exact Or.inl rfl
  | case4 a b c' rest ih =>
      have small := a.toNat_lt
      have small' := b.toNat_lt
      have small'' := c'.toNat_lt
      simp only [List.mem_cons] at listed
      rcases listed with rfl | rfl | rfl | rfl | later
      · exact Or.inr ⟨_, by omega, rfl⟩
      · exact Or.inr ⟨_, by omega, rfl⟩
      · exact Or.inr ⟨_, by omega, rfl⟩
      · exact Or.inr ⟨_, by omega, rfl⟩
      · exact ih later

def thirds : List UInt8 → List UInt8
  | _ :: _ :: c :: rest => c :: thirds rest
  | _ => []

/-- In the encoding of ASCII text a plus stands for one of two characters, at the end of
a group. -/
theorem plus_mem_encode_iff {bytes : List UInt8} (ascii : ∀ byte ∈ bytes, byte.toNat < 128) :
    '+' ∈ encode bytes ↔ ∃ byte ∈ thirds bytes, byte.toNat = 62 ∨ byte.toNat = 126 := by
  have plus {n : Nat} (small : n < 64) : '+' = digit n ↔ n = 62 := by
    rw [eq_comm, digit_eq_plus small]
  fun_induction encode bytes with
  | case1 => simp [thirds]
  | case2 a =>
      have small := ascii a (by simp)
      have pad : '+' ≠ '=' := by decide
      refine iff_of_false ?_ (by simp [thirds])
      simp only [List.mem_cons, List.not_mem_nil, pad, or_false,
        plus (show a.toNat / 4 < 64 by omega), plus (show a.toNat % 4 * 16 < 64 by omega)]
      omega
  | case3 a b =>
      have small := ascii a (by simp)
      have small' := ascii b (by simp)
      have pad : '+' ≠ '=' := by decide
      refine iff_of_false ?_ (by simp [thirds])
      simp only [List.mem_cons, List.not_mem_nil, pad, or_false,
        plus (show a.toNat / 4 < 64 by omega),
        plus (show a.toNat % 4 * 16 + b.toNat / 16 < 64 by omega),
        plus (show b.toNat % 16 * 4 < 64 by omega)]
      omega
  | case4 a b c rest ih =>
      have small := ascii a (by simp)
      have small' := ascii b (by simp)
      have small'' := ascii c (by simp)
      have tail := ih fun byte listed => ascii byte (by simp [listed])
      simp only [List.mem_cons, thirds, exists_eq_or_imp, tail,
        plus (show a.toNat / 4 < 64 by omega),
        plus (show a.toNat % 4 * 16 + b.toNat / 16 < 64 by omega),
        plus (show b.toNat % 16 * 4 + c.toNat / 64 < 64 by omega),
        plus (show c.toNat % 64 < 64 by omega)]
      have first : ¬ a.toNat / 4 = 62 := by omega
      have second : ¬ a.toNat % 4 * 16 + b.toNat / 16 = 62 := by omega
      have third : ¬ b.toNat % 16 * 4 + c.toNat / 64 = 62 := by omega
      have last : c.toNat % 64 = 62 ↔ c.toNat = 62 ∨ c.toNat = 126 := by omega
      rw [last]
      simp only [first, second, third, false_or]

/-- All characters of a text that is decoded are digits, except for the padding. -/
theorem value_isSome_of_decode {text : List Char} {bytes : List UInt8}
    (decoded : decode text = some bytes) {c : Char} (listed : c ∈ text) (pad : c ≠ '=') :
    (value c).isSome := by
  induction text using decode.induct generalizing bytes with
  | case1 => cases listed
  | case2 w x y z rest ih =>
      simp only [decode, Option.bind_eq_bind] at decoded
      obtain ⟨first, isFirst, decoded⟩ := Option.bind_eq_some_iff.mp decoded
      obtain ⟨second, isSecond, decoded⟩ := Option.bind_eq_some_iff.mp decoded
      simp only [List.mem_cons] at listed
      split at decoded
      · rename_i isPad
        split at decoded
        · cases decoded
        · rename_i last
          split at decoded
          · grind
          · obtain ⟨third, isThird, decoded⟩ := Option.bind_eq_some_iff.mp decoded
            grind
      · obtain ⟨third, isThird, decoded⟩ := Option.bind_eq_some_iff.mp decoded
        obtain ⟨fourth, isFourth, decoded⟩ := Option.bind_eq_some_iff.mp decoded
        obtain ⟨others, isRest, decoded⟩ := Option.bind_eq_some_iff.mp decoded
        rcases listed with rfl | rfl | rfl | rfl | inRest
        · simp [isFirst]
        · simp [isSecond]
        · simp [isThird]
        · simp [isFourth]
        · exact ih isRest inRest
  | case3 text notEmpty notGroup =>
      unfold decode at decoded
      split at decoded
      · exact absurd rfl notEmpty
      · exact absurd rfl (notGroup _ _ _ _ _)
      · cases decoded

end Base64
