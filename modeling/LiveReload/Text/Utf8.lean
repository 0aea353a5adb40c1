/-
**Text from bytes.**

Bytes that tools print and files hold are read as UTF-8. `decode` cuts them into pieces, each a
character or a stretch that can begin no character:

* `Utf8.decode?` reads text only where every piece is a character;
* `Utf8.decodeLossy` shows one replacement character for each other piece.

A broken sequence is given up at the first byte that cannot continue it, so that byte starts the
next piece.
-/
import LiveReload.Power

namespace LiveReload.Utf8

/-- The bytes that may follow `lead` directly, and how many continuation bytes it announces. -/
def continuation (lead : UInt8) : Option (UInt8 × UInt8 × Nat) :=
  if 0xC2 ≤ lead && lead ≤ 0xDF then some (0x80, 0xBF, 1)
  else if lead = 0xE0 then some (0xA0, 0xBF, 2)
  else if lead = 0xED then some (0x80, 0x9F, 2)
  else if 0xE1 ≤ lead && lead ≤ 0xEF then some (0x80, 0xBF, 2)
  else if lead = 0xF0 then some (0x90, 0xBF, 3)
  else if 0xF1 ≤ lead && lead ≤ 0xF3 then some (0x80, 0xBF, 3)
  else if lead = 0xF4 then some (0x80, 0x8F, 3)
  else none

/-- The bits that `lead` contributes when `count` continuation bytes follow it. -/
def leadBits (lead : UInt8) (count : Nat) : Nat :=
  lead.toNat % 2 ^ (6 - count)

/-- The longest run of at most `count` bytes that continue a character, the first of them within
`low` and `high`. -/
def continued (low high : UInt8) : Nat → List UInt8 → List UInt8
  | 0, _ => []
  | _ + 1, [] => []
  | count + 1, byte :: rest =>
    if low ≤ byte && byte ≤ high then byte :: continued 0x80 0xBF count rest else []

theorem continued_length_le (low high : UInt8) (count : Nat) (bytes : List UInt8) :
    (continued low high count bytes).length ≤ bytes.length := by
  induction bytes generalizing low high count with
  | nil => cases count <;> simp [continued]
  | cons byte rest step =>
    cases count with
    | zero => simp [continued]
    | succ count =>
      unfold continued
      split
      · exact Nat.succ_le_succ (step _ _ _)
      · exact Nat.zero_le _

/-- The first piece of text that begins with `lead`, and the number of further bytes it takes. -/
def piece (lead : UInt8) (rest : List UInt8) : Option Char × Nat :=
  if lead < 0x80 then (some (Char.ofNat lead.toNat), 0)
  else match continuation lead with
    | none => (none, 0)
    | some (low, high, count) =>
      let tail := continued low high count rest
      if tail.length = count then
        let code := tail.foldl (fun code byte => code * 64 + byte.toNat % 64) (leadBits lead count)
        (some (Char.ofNat code), count)
      else (none, tail.length)

/-- Cuts bytes into characters and the stretches that are none, after some that belong to the piece
before them. -/
def decodeAfter : Nat → List UInt8 → List (Option Char)
  | _, [] => []
  | taken + 1, _ :: rest => decodeAfter taken rest
  | 0, lead :: rest => (piece lead rest).1 :: decodeAfter (piece lead rest).2 rest

/-- Cuts bytes into characters and the stretches that are none. -/
def decode (bytes : List UInt8) : List (Option Char) := decodeAfter 0 bytes

/-- The text that `bytes` encode, if they encode any. -/
def decode? (bytes : List UInt8) : Option String :=
  ((decode bytes).mapM id).map String.ofList

/-- The text that `bytes` encode, with a replacement character for each stretch that is none. -/
def decodeLossy (bytes : List UInt8) : String :=
  String.ofList ((decode bytes).map (·.getD (Char.ofNat 0xFFFD)))

/-- The bytes of a text. -/
def encode (text : String) : List UInt8 :=
  text.toUTF8.data.toList

theorem encode_append (text more : String) :
    encode (text ++ more) = encode text ++ encode more := by
  unfold encode
  rw [← Array.toList_append]
  simp

end LiveReload.Utf8
