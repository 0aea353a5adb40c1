/-
**Texts are ordered as their bytes are.**

Texts are compared character by character, and their UTF-8 encodings byte by byte. The lead byte of
a character tells how many bytes follow it, six bits each, from the highest to the lowest. So of two
characters the smaller one has a smaller lead byte, or the same one and less in the bytes that
follow, where the first difference counts.

* `Utf8.trail_lt`: the bytes that follow a lead byte, compared;
* `Utf8.utf8EncodeChar_lt`: the bytes of two characters, compared;
* `Utf8.encode_lt`, `Utf8.encode_le`: the same for texts.
-/
import LiveReload.Text.Utf8
import Mathlib.Data.String.Basic
import Mathlib.Tactic.SplitIfs

namespace LiveReload

namespace Utf8

theorem encode_eq (text : String) : encode text = text.toList.flatMap String.utf8EncodeChar := by
  have encoded : text.toByteArray = text.toList.utf8Encode := by
    rw [← String.toByteArray_ofList, String.ofList_toList]
  rw [encode, String.toUTF8, encoded, List.utf8Encode, List.data_toByteArray]

/-! ### Characters -/

/-- How many bytes follow the lead byte of the character with a number. -/
def trailing (number : Nat) : Nat :=
  if number ≤ 0x7f then 0 else if number ≤ 0x7ff then 1 else if number ≤ 0xffff then 2 else 3

/-- The lead byte before `count` others, which holds what is left of the number. -/
def lead (count left : Nat) : UInt8 :=
  .ofNat <| match count with
    | 0 => left
    | 1 => left % 32 + 192
    | 2 => left % 16 + 224
    | _ => left % 8 + 240

/-- The last `count` bytes. -/
def trail : Nat → Nat → List UInt8
  | 0, _ => []
  | count + 1, number => .ofNat (number / 64 ^ count % 64 + 128) :: trail count number

theorem utf8EncodeChar_eq (c : Char) :
    String.utf8EncodeChar c =
      lead (trailing c.val.toNat) (c.val.toNat / 64 ^ trailing c.val.toNat) ::
        trail (trailing c.val.toNat) c.val.toNat := by
  unfold String.utf8EncodeChar trailing
  dsimp only
  split_ifs <;> simp [lead, trail]

variable {number greater : Nat}

theorem trailing_mono (order : number ≤ greater) : trailing number ≤ trailing greater := by
  unfold trailing
  split_ifs <;> omega

/-- The more bytes follow, the greater is the lead byte. -/
theorem lead_lt_of_trailing (fewer : trailing number < trailing greater) :
    lead (trailing number) (number / 64 ^ trailing number) <
      lead (trailing greater) (greater / 64 ^ trailing greater) := by
  unfold trailing at *
  split_ifs at * <;> simp only [lead, UInt8.lt_iff_toNat_lt, UInt8.toNat_ofNat'] <;> omega

theorem lead_lt_of_left (same : trailing number = trailing greater) (bound : greater < 0x110000)
    (less : number / 64 ^ trailing greater < greater / 64 ^ trailing greater) :
    lead (trailing greater) (number / 64 ^ trailing greater) <
      lead (trailing greater) (greater / 64 ^ trailing greater) := by
  unfold trailing at *
  split_ifs at * <;> simp only [lead, UInt8.lt_iff_toNat_lt, UInt8.toNat_ofNat'] <;> omega

/-- Numbers that agree above their last digits are ordered as these are. -/
theorem trail_lt {count : Nat} (less : number < greater)
    (same : number / 64 ^ count = greater / 64 ^ count) (rest more : List UInt8) :
    trail count number ++ rest < trail count greater ++ more := by
  induction count with
  | zero =>
    rw [Nat.pow_zero, Nat.div_one, Nat.div_one] at same
    exact absurd same (Nat.ne_of_lt less)
  | succ count ih =>
    rw [Nat.pow_succ, ← Nat.div_div_eq_div_mul, ← Nat.div_div_eq_div_mul] at same
    have most : number / 64 ^ count ≤ greater / 64 ^ count :=
      Nat.div_le_div_right (Nat.le_of_lt less)
    refine List.cons_lt_cons_iff.mpr ?_
    rcases Nat.lt_or_eq_of_le most with before | equal
    · left
      generalize number / 64 ^ count = left, greater / 64 ^ count = right at before same
      rw [UInt8.lt_iff_toNat_lt, UInt8.toNat_ofNat', UInt8.toNat_ofNat']
      omega
    · exact .inr ⟨by rw [equal], ih equal⟩

/-- **Characters are ordered as their bytes are**, whatever follows them. -/
theorem utf8EncodeChar_lt {c d : Char} (less : c < d) (rest more : List UInt8) :
    String.utf8EncodeChar c ++ rest < String.utf8EncodeChar d ++ more := by
  have numbers : c.val.toNat < d.val.toNat := less
  have bound : d.val.toNat < 0x110000 := by
    have valid := d.valid
    unfold UInt32.isValidChar Nat.isValidChar at valid
    omega
  rw [utf8EncodeChar_eq, utf8EncodeChar_eq]
  generalize c.val.toNat = number, d.val.toNat = greater at numbers bound
  refine List.cons_lt_cons_iff.mpr ?_
  rcases Nat.lt_or_eq_of_le (trailing_mono (Nat.le_of_lt numbers)) with fewer | same
  · exact .inl (lead_lt_of_trailing fewer)
  · rw [same]
    have most : number / 64 ^ trailing greater ≤ greater / 64 ^ trailing greater :=
      Nat.div_le_div_right (Nat.le_of_lt numbers)
    rcases Nat.lt_or_eq_of_le most with before | equal
    · exact .inl (lead_lt_of_left same bound before)
    · exact .inr ⟨by rw [equal], trail_lt numbers equal rest more⟩

/-! ### Texts -/

theorem flatMap_lt {text other : List Char} (less : text < other) :
    text.flatMap String.utf8EncodeChar < other.flatMap String.utf8EncodeChar := by
  induction text generalizing other with
  | nil =>
    cases other with
    | nil => cases less
    | cons d more =>
      rw [List.flatMap_cons, utf8EncodeChar_eq]
      exact List.nil_lt_cons _ _
  | cons c rest ih =>
    cases other with
    | nil => cases less
    | cons d more =>
      rw [List.flatMap_cons, List.flatMap_cons]
      rcases List.cons_lt_cons_iff.mp less with before | ⟨rfl, later⟩
      · exact utf8EncodeChar_lt before _ _
      · exact List.append_left_lt (ih later)

/-- **Texts are ordered as their bytes are.** -/
theorem encode_lt {text other : String} (less : text < other) : encode text < encode other := by
  rw [encode_eq, encode_eq]
  exact flatMap_lt (String.lt_iff_toList_lt.mp less)

theorem encode_le {text other : String} (order : text ≤ other) : encode text ≤ encode other := by
  rcases order.lt_or_eq with less | rfl
  · exact List.le_of_lt (encode_lt less)
  · exact List.le_refl _

end Utf8

end LiveReload
