/-
**Bytes are read as text, whether they are text or not.**

A byte of ASCII continues no character. So it ends whatever stands before it and is a character of
its own, and no piece of more bytes is a character of ASCII. What was encoded is read again: the
lead byte of a character announces as many bytes as follow it, six bits each, and admits the first
of them.

* `Utf8.decode_append`: a byte of ASCII among others;
* `Utf8.joined_valid`: what a piece of more bytes may stand for;
* `Utf8.decode_encode`, `Utf8.decode?_encode`: what was encoded is read again;
* `Utf8.shown_append`, `Utf8.mem_of_shown`: characters of ASCII in what is shown for bytes;
* `Utf8.encodeChars_append_cons`, `Utf8.mem_encodeChars`: the same in the bytes of a text.
-/
import LiveReload.Proofs.Text.ByteOrder
import Mathlib.Tactic.Ring
import Mathlib.Tactic.SplitIfs

namespace LiveReload

namespace Utf8

/-! ### Bytes of ASCII -/

/-- No byte of ASCII continues a character. -/
theorem continuation_low {first low high : UInt8} {count : Nat}
    (row : continuation first = some (low, high, count)) : 0x80 ≤ low := by
  unfold continuation at row
  split_ifs at row <;> cases row <;> decide

theorem continued_append {low : UInt8} (above : 0x80 ≤ low) (high : UInt8) (count : Nat)
    (bytes : List UInt8) {stop : UInt8} (ascii : stop < 0x80) (rest : List UInt8) :
    continued low high count (bytes ++ stop :: rest) = continued low high count bytes := by
  induction bytes generalizing low high count with
  | nil =>
    have outside : ¬ low ≤ stop := UInt8.not_le.mpr (UInt8.lt_of_lt_of_le ascii above)
    cases count with
    | zero => rfl
    | succ count => simp [continued, outside]
  | cons byte bytes ih =>
    cases count with
    | zero => rfl
    | succ count => rw [List.cons_append, continued, continued, ih (by decide)]

theorem piece_append (first : UInt8) (bytes : List UInt8) {stop : UInt8} (ascii : stop < 0x80)
    (rest : List UInt8) : piece first (bytes ++ stop :: rest) = piece first bytes := by
  unfold piece
  split
  · rfl
  · split
    · rfl
    · next low high count row =>
      rw [continued_append (continuation_low row) high count bytes ascii rest]

theorem piece_snd_le (first : UInt8) (rest : List UInt8) :
    (piece first rest).2 ≤ rest.length := by
  unfold piece
  split
  · exact Nat.zero_le _
  · split
    · exact Nat.zero_le _
    · next low high count row =>
      have most := continued_length_le low high count rest
      dsimp only
      split
      · next all => rwa [all] at most
      · exact most

theorem piece_of_ascii {stop : UInt8} (ascii : stop < 0x80) (rest : List UInt8) :
    piece stop rest = (some (Char.ofNat stop.toNat), 0) := by
  rw [piece, if_pos ascii]

theorem decode_nil : decode [] = [] := rfl

/-- Bytes of the piece before are passed over. -/
theorem decodeAfter_eq (taken : Nat) (bytes : List UInt8) :
    decodeAfter taken bytes = decode (bytes.drop taken) := by
  induction bytes generalizing taken with
  | nil => cases taken <;> rfl
  | cons first rest ih =>
    cases taken with
    | zero => rfl
    | succ taken => exact ih taken

theorem decode_cons (first : UInt8) (rest : List UInt8) :
    decode (first :: rest) =
      (piece first rest).1 :: decode (rest.drop (piece first rest).2) := by
  rw [← decodeAfter_eq]
  rfl

/-- What is said of bytes from piece to piece is said of all bytes. -/
theorem decode_induction {holds : List UInt8 → Prop} (nil : holds [])
    (cons : ∀ first rest, holds (rest.drop (piece first rest).2) → holds (first :: rest))
    (bytes : List UInt8) : holds bytes := by
  induction size : bytes.length using Nat.strong_induction_on generalizing bytes with
  | _ length ih =>
    cases bytes with
    | nil => exact nil
    | cons first rest =>
      refine cons first rest (ih _ ?_ _ rfl)
      rw [← size, List.length_drop, List.length_cons]
      omega

/-- **A byte of ASCII is a character of its own**, whatever stands before it. -/
theorem decode_append (front : List UInt8) {stop : UInt8} (ascii : stop < 0x80)
    (rest : List UInt8) :
    decode (front ++ stop :: rest) =
      decode front ++ some (Char.ofNat stop.toNat) :: decode rest := by
  induction front using decode_induction with
  | nil => rw [List.nil_append, decode_cons, piece_of_ascii ascii, decode_nil]; rfl
  | cons first more ih =>
    rw [List.cons_append, decode_cons, decode_cons, piece_append first more ascii rest,
      List.drop_append_of_le_length (piece_snd_le first more), ih, List.cons_append]

/-! ### Characters of more bytes -/

/-- The number that a lead byte begins and further bytes go on with, six bits each. -/
def joined (start : Nat) (tail : List UInt8) : Nat :=
  tail.foldl (fun code byte => code * 64 + byte.toNat % 64) start

theorem joined_bounds (start : Nat) (tail : List UInt8) :
    start * 64 ^ tail.length ≤ joined start tail ∧
      joined start tail < (start + 1) * 64 ^ tail.length := by
  induction tail generalizing start with
  | nil => simp [joined]
  | cons byte rest ih =>
    obtain ⟨least, most⟩ := ih (start * 64 + byte.toNat % 64)
    have below : byte.toNat % 64 < 64 := Nat.mod_lt _ (by decide)
    rw [List.length_cons, Nat.pow_succ']
    constructor
    · calc start * (64 * 64 ^ rest.length)
        _ = start * 64 * 64 ^ rest.length := (Nat.mul_assoc ..).symm
        _ ≤ (start * 64 + byte.toNat % 64) * 64 ^ rest.length :=
          Nat.mul_le_mul_right _ (Nat.le_add_right ..)
        _ ≤ joined start (byte :: rest) := least
    · calc joined start (byte :: rest)
        _ < (start * 64 + byte.toNat % 64 + 1) * 64 ^ rest.length := most
        _ ≤ (start + 1) * 64 * 64 ^ rest.length := Nat.mul_le_mul_right _ (by omega)
        _ = (start + 1) * (64 * 64 ^ rest.length) := Nat.mul_assoc ..

theorem piece_of_row {first low high : UInt8} {count : Nat} (more : 0x80 ≤ first)
    (row : continuation first = some (low, high, count)) (rest : List UInt8) :
    piece first rest =
      if (continued low high count rest).length = count then
        (some (Char.ofNat (joined (leadBits first count) (continued low high count rest))), count)
      else (none, (continued low high count rest).length) := by
  rw [piece, if_neg (UInt8.not_lt.mpr more), row]
  rfl

/-- The first of the bytes that continue a character is within the bounds for it. -/
theorem continued_full {low high : UInt8} {count : Nat} {rest : List UInt8}
    (full : (continued low high (count + 1) rest).length = count + 1) :
    ∃ second others, continued low high (count + 1) rest = second :: others ∧
      low ≤ second ∧ second ≤ high ∧ others.length = count := by
  cases rest with
  | nil => cases full
  | cons second rest =>
    rw [continued] at full ⊢
    split at full
    · next inside =>
      rw [if_pos inside]
      simp only [Bool.and_eq_true, decide_eq_true_eq] at inside
      exact ⟨second, _, rfl, inside.1, inside.2, Nat.succ.inj full⟩
    · cases full

/-- The number that the first two bytes of a character begin. -/
def opened (first second : UInt8) (count : Nat) : Nat :=
  leadBits first count * 64 + second.toNat % 64

/-- The bounds for the second byte leave out numbers of fewer bytes, the surrogates and what is
beyond the last character. -/
theorem opened_bounds {first second low high : UInt8} {others : Nat}
    (row : continuation first = some (low, high, others + 1)) (lower : low ≤ second)
    (upper : second ≤ high) :
    0x80 ≤ opened first second (others + 1) * 64 ^ others ∧
      ((opened first second (others + 1) + 1) * 64 ^ others ≤ 0xD800 ∨
        0xE000 ≤ opened first second (others + 1) * 64 ^ others ∧
          (opened first second (others + 1) + 1) * 64 ^ others ≤ 0x110000) := by
  unfold continuation at row
  simp only [Bool.and_eq_true, decide_eq_true_eq, UInt8.le_iff_toNat_le, ← UInt8.toNat_inj] at *
  -- One case for each range of lead bytes; the bounds of a range are those of its numbers.
  split_ifs at row <;> cases row <;> simp only [opened, leadBits, UInt8.reduceToNat] at * <;> omega

theorem continuation_pos {first low high : UInt8} {count : Nat}
    (row : continuation first = some (low, high, count)) : 0 < count := by
  unfold continuation at row
  split_ifs at row <;> cases row <;> decide

/-- Bytes that continue a character in full tell a number beyond ASCII that is a character's. -/
theorem joined_valid {first low high : UInt8} {count : Nat} {rest : List UInt8}
    (row : continuation first = some (low, high, count))
    (full : (continued low high count rest).length = count) :
    0x80 ≤ joined (leadBits first count) (continued low high count rest) ∧
      (joined (leadBits first count) (continued low high count rest)).isValidChar := by
  obtain ⟨others, rfl⟩ := Nat.exists_eq_succ_of_ne_zero (Nat.ne_of_gt (continuation_pos row))
  obtain ⟨second, tail, bytes, lower, upper, length⟩ := continued_full full
  obtain ⟨above, scalar⟩ := opened_bounds row lower upper
  have bounds := joined_bounds (opened first second (others + 1)) tail
  rw [length] at bounds
  rw [bytes, show joined (leadBits first (others + 1)) (second :: tail) =
    joined (opened first second (others + 1)) tail from rfl]
  unfold Nat.isValidChar
  omega

/-- A character of more bytes is none of ASCII. -/
theorem piece_beyond {first : UInt8} {rest : List UInt8} {c : Char} (more : 0x80 ≤ first)
    (read : (piece first rest).1 = some c) : 0x80 ≤ c.toNat := by
  cases row : continuation first with
  | none =>
    rw [piece, if_neg (UInt8.not_lt.mpr more), row] at read
    cases read
  | some entry =>
    obtain ⟨low, high, count⟩ := entry
    rw [piece_of_row more row] at read
    split at read
    · next full =>
      obtain ⟨beyond, scalar⟩ := joined_valid row full
      rw [← Option.some.inj read, Char.ofNat, dif_pos scalar]
      exact beyond
    · cases read

/-- A character of ASCII that is read is one of the bytes. -/
theorem mem_of_decode {bytes : List UInt8} {c : Char} (ascii : c.toNat < 0x80)
    (read : some c ∈ decode bytes) : c.toUInt8 ∈ bytes := by
  induction bytes using decode_induction with
  | nil =>
    rw [decode_nil] at read
    cases read
  | cons first rest ih =>
    rw [decode_cons] at read
    rcases List.mem_cons.mp read with here | later
    · by_cases alone : first < 0x80
      · rw [piece_of_ascii alone] at here
        obtain rfl : c.toUInt8 = first := by
          have scalar : first.toNat.isValidChar := .inl (first.toNat_lt.trans (by decide))
          rw [Option.some.inj here, Char.ofNat, dif_pos scalar]
          exact UInt8.ofNat_toNat
        exact List.mem_cons_self
      · exact absurd (piece_beyond (UInt8.not_lt.mp alone) here.symm) (Nat.not_le.mpr ascii)
    · exact List.mem_cons_of_mem _ (List.mem_of_mem_drop (ih later))

/-! ### What was encoded is read again -/

/-- A lead byte announces `count` bytes, the first of them within bounds, and keeps what is left of
the number. -/
def Announces (count left : Nat) (low high : UInt8) : Prop :=
  0x80 ≤ lead count left ∧ continuation (lead count left) = some (low, high, count) ∧
    leadBits (lead count left) count = left

instance (count left : Nat) (low high : UInt8) : Decidable (Announces count left low high) :=
  inferInstanceAs (Decidable (_ ∧ _ ∧ _))

theorem announces_one : ∀ left < 32, 2 ≤ left → Announces 1 left 0x80 0xBF := by decide

theorem announces_two : ∀ left < 16,
    Announces 2 left (if left = 0 then 0xA0 else 0x80) (if left = 13 then 0x9F else 0xBF) := by
  decide

theorem announces_three : ∀ left < 5,
    Announces 3 left (if left = 0 then 0x90 else 0x80) (if left = 4 then 0x8F else 0xBF) := by
  decide

/-- The lead byte of a character of more bytes announces the others, and the first of them is
within the bounds for it. -/
theorem exists_announces {number others : Nat} (scalar : number.isValidChar)
    (long : trailing number = others + 1) :
    ∃ low high, Announces (others + 1) (number / 64 ^ (others + 1)) low high ∧
      low.toNat ≤ number / 64 ^ others % 64 + 128 ∧
      number / 64 ^ others % 64 + 128 ≤ high.toNat := by
  unfold trailing at long
  unfold Nat.isValidChar at scalar
  split_ifs at long <;> cases long
  · exact ⟨_, _, announces_one (number / 64) (by omega) (by omega), by simp, by simp; omega⟩
  · refine ⟨_, _, announces_two (number / 64 ^ 2) (by omega), ?_, ?_⟩
    · split <;> simp; omega
    · split <;> simp <;> omega
  · refine ⟨_, _, announces_three (number / 64 ^ 3) (by omega), ?_, ?_⟩
    · split <;> simp; omega
    · split <;> simp <;> omega

theorem length_trail (count number : Nat) : (trail count number).length = count := by
  induction count with
  | zero => rfl
  | succ count ih => rw [trail, List.length_cons, ih]

theorem toNat_digit (number : Nat) :
    (UInt8.ofNat (number % 64 + 128)).toNat = number % 64 + 128 := by
  rw [UInt8.toNat_ofNat']
  omega

theorem continued_digit {low high : UInt8} {number : Nat} (lower : low.toNat ≤ number % 64 + 128)
    (upper : number % 64 + 128 ≤ high.toNat) (count : Nat) (rest : List UInt8) :
    continued low high (count + 1) (.ofNat (number % 64 + 128) :: rest) =
      .ofNat (number % 64 + 128) :: continued 0x80 0xBF count rest := by
  rw [continued, if_pos]
  rw [Bool.and_eq_true, decide_eq_true_eq, decide_eq_true_eq, UInt8.le_iff_toNat_le,
    UInt8.le_iff_toNat_le, toNat_digit]
  exact ⟨lower, upper⟩

theorem continued_trail (count number : Nat) (rest : List UInt8) :
    continued 0x80 0xBF count (trail count number ++ rest) = trail count number := by
  induction count with
  | zero => rw [trail, continued]
  | succ count ih =>
    have below : number / 64 ^ count % 64 < 64 := Nat.mod_lt _ (by decide)
    rw [trail, List.cons_append, continued_digit (Nat.le_add_left ..) _ count, ih]
    exact Nat.add_le_add_right (Nat.le_of_lt_succ below) 128

theorem joined_trail (start count number : Nat) :
    joined start (trail count number) = start * 64 ^ count + number % 64 ^ count := by
  induction count generalizing start with
  | zero => simp [joined, trail, Nat.mod_one]
  | succ count ih =>
    have digit : (number / 64 ^ count % 64 + 128) % 64 = number / 64 ^ count % 64 := by omega
    have parts : number % 64 ^ (count + 1) =
        number % 64 ^ count + 64 ^ count * (number / 64 ^ count % 64) := by
      rw [Nat.pow_succ, Nat.mod_mul]
    calc joined start (trail (count + 1) number)
      _ = joined (start * 64 + number / 64 ^ count % 64) (trail count number) := by
        rw [trail, joined, List.foldl_cons, toNat_digit, digit]
        rfl
      _ = start * 64 ^ (count + 1) + number % 64 ^ (count + 1) := by
        rw [ih, parts]
        ring

/-- The bytes of a character are one piece, which is the character, whatever follows. -/
theorem piece_encode (c : Char) (rest : List UInt8) :
    piece (lead (trailing c.toNat) (c.toNat / 64 ^ trailing c.toNat))
        (trail (trailing c.toNat) c.toNat ++ rest) = (some c, trailing c.toNat) := by
  cases long : trailing c.toNat with
  | zero =>
    have small : c.toNat < 0x80 := by
      unfold trailing at long
      split_ifs at long
      omega
    have alone : (UInt8.ofNat c.toNat).toNat = c.toNat := by
      rw [UInt8.toNat_ofNat']
      omega
    have ascii : UInt8.ofNat c.toNat < 0x80 := by
      rw [UInt8.lt_iff_toNat_lt, alone]
      exact small
    rw [lead, Nat.pow_zero, Nat.div_one, piece_of_ascii ascii, alone, Char.ofNat_toNat]
  | succ others =>
    have scalar : c.toNat.isValidChar := c.valid
    obtain ⟨low, high, ⟨more, row, bits⟩, lower, upper⟩ := exists_announces scalar long
    have whole : continued low high (others + 1) (trail (others + 1) c.toNat ++ rest) =
        trail (others + 1) c.toNat := by
      rw [trail, List.cons_append, continued_digit lower upper, continued_trail]
    rw [piece_of_row more row, whole, if_pos (length_trail ..), bits, joined_trail,
      Nat.div_add_mod', Char.ofNat_toNat]

theorem decode_utf8EncodeChar (c : Char) (rest : List UInt8) :
    decode (String.utf8EncodeChar c ++ rest) = some c :: decode rest := by
  have length : (trail (trailing c.toNat) c.toNat).length = trailing c.toNat := length_trail ..
  rw [utf8EncodeChar_eq, Char.toNat_val, List.cons_append, decode_cons, piece_encode,
    List.drop_left' length]

/-- **What was encoded is read again.** -/
theorem decode_encode (text : String) : decode (encode text) = text.toList.map some := by
  rw [encode_eq]
  induction text.toList with
  | nil => exact decode_nil
  | cons c rest ih => rw [List.flatMap_cons, decode_utf8EncodeChar, ih, List.map_cons]

/-! ### Text with replacements -/

/-- The characters that are shown for bytes, with a replacement for each stretch that is none. -/
def shown (bytes : List UInt8) : List Char := (decodeLossy bytes).toList

theorem shown_eq (bytes : List UInt8) :
    shown bytes = (decode bytes).map (·.getD (Char.ofNat 0xFFFD)) := String.toList_ofList

theorem mapM_id_eq_some_iff {pieces : List (Option Char)} {chars : List Char} :
    pieces.mapM id = some chars ↔ pieces = chars.map some := by
  induction pieces generalizing chars with
  | nil => cases chars <;> simp
  | cons piece rest ih =>
    cases piece with
    | none => cases chars <;> simp
    | some c =>
      have first : (some c :: rest).mapM id = (rest.mapM id).map (c :: ·) := by
        rw [List.mapM_cons]
        cases rest.mapM id <;> rfl
      rw [first, Option.map_eq_some_iff]
      simp only [ih]
      constructor
      · rintro ⟨more, rfl, rfl⟩
        rfl
      · intro whole
        obtain ⟨d, more, rfl, same, others⟩ := List.map_eq_cons_iff.mp whole.symm
        exact ⟨more, others.symm, by rw [Option.some.inj same]⟩

/-- Bytes are a text if every piece of them is a character of it. -/
theorem decode?_eq_some_iff {bytes : List UInt8} {text : String} :
    decode? bytes = some text ↔ decode bytes = text.toList.map some := by
  rw [decode?, Option.map_eq_some_iff]
  simp only [mapM_id_eq_some_iff]
  constructor
  · rintro ⟨chars, pieces, rfl⟩
    rw [pieces, String.toList_ofList]
  · intro pieces
    exact ⟨text.toList, pieces, String.ofList_toList⟩

/-- The bytes of a text are the text, read strictly. -/
theorem decode?_encode (text : String) : decode? (encode text) = some text :=
  decode?_eq_some_iff.mpr (decode_encode text)

/-- Bytes that are a text are shown as it. -/
theorem decodeLossy_of_decode? {bytes : List UInt8} {text : String}
    (legible : decode? bytes = some text) : decodeLossy bytes = text := by
  rw [← String.toList_inj, ← shown, shown_eq, decode?_eq_some_iff.mp legible, List.map_map]
  exact List.map_id _

theorem decodeLossy_encode (text : String) : decodeLossy (encode text) = text :=
  decodeLossy_of_decode? (decode?_encode text)

theorem shown_nil : shown [] = [] := by rw [shown_eq, decode_nil, List.map_nil]

theorem shown_eq_nil {bytes : List UInt8} : shown bytes = [] ↔ bytes = [] := by
  rw [shown_eq, List.map_eq_nil_iff]
  cases bytes with
  | nil => simp [decode_nil]
  | cons first rest => simp [decode_cons]

variable {c : Char}

theorem toUInt8_lt (ascii : c.toNat < 0x80) : c.toUInt8 < 0x80 ∧ c.toUInt8.toNat = c.toNat := by
  have same : c.toUInt8.toNat = c.toNat := Nat.mod_eq_of_lt (ascii.trans (by decide))
  exact ⟨by rw [UInt8.lt_iff_toNat_lt, same]; exact ascii, same⟩

theorem shown_append (ascii : c.toNat < 0x80) (front rest : List UInt8) :
    shown (front ++ c.toUInt8 :: rest) = shown front ++ c :: shown rest := by
  obtain ⟨small, same⟩ := toUInt8_lt ascii
  rw [shown_eq, decode_append front small, same, Char.ofNat_toNat, List.map_append, List.map_cons,
    ← shown_eq, ← shown_eq, Option.getD_some]

theorem mem_of_shown (ascii : c.toNat < 0x80) {bytes : List UInt8} (member : c ∈ shown bytes) :
    c.toUInt8 ∈ bytes := by
  rw [shown_eq] at member
  obtain ⟨piece, among, same⟩ := List.mem_map.mp member
  cases piece with
  | none =>
    rw [← same] at ascii
    exact absurd ascii (by decide)
  | some d =>
    obtain rfl : d = c := same
    exact mem_of_decode ascii among

/-! ### The bytes of a text -/

/-- The bytes of some characters. -/
def encodeChars (chars : List Char) : List UInt8 := encode (String.ofList chars)

theorem shown_encodeChars (chars : List Char) : shown (encodeChars chars) = chars := by
  rw [shown, encodeChars, decodeLossy_encode, String.toList_ofList]

theorem encodeChars_injective : Function.Injective encodeChars :=
  Function.LeftInverse.injective shown_encodeChars

theorem encodeChars_append_cons (ascii : c.toNat < 0x80) (front rest : List Char) :
    encodeChars (front ++ c :: rest) = encodeChars front ++ c.toUInt8 :: encodeChars rest := by
  have one : String.utf8EncodeChar c = [c.toUInt8] := by
    have small : c.val.toNat ≤ 0x7f := Nat.lt_succ_iff.mp ascii
    unfold String.utf8EncodeChar
    rw [if_pos small]
    rfl
  simp only [encodeChars, encode_eq, String.toList_ofList, List.flatMap_append, List.flatMap_cons,
    one, List.singleton_append]

theorem mem_encodeChars (ascii : c.toNat < 0x80) {chars : List Char} :
    c.toUInt8 ∈ encodeChars chars ↔ c ∈ chars := by
  constructor
  · intro member
    obtain ⟨front, rest, split⟩ := List.append_of_mem member
    have told := shown_encodeChars chars
    rw [split, shown_append ascii] at told
    rw [← told]
    exact List.mem_append_right _ List.mem_cons_self
  · intro member
    obtain ⟨front, rest, rfl⟩ := List.append_of_mem member
    rw [encodeChars_append_cons ascii]
    exact List.mem_append_right _ List.mem_cons_self

end Utf8

end LiveReload
