/-
**The random stream.**

A module draws from a stream of 32-bit words that its seed alone decides: the key is spread out from
the seed, and the words are the key stream of the ChaCha cipher with eight rounds.

* `Random.key`: the key of a seed;
* `Random.block`: sixteen words of the stream;
* `Stream.word`, `Stream.double`, `Stream.bytes`: draws, which take whole words in order.
-/
import LiveReload.Power

namespace LiveReload

namespace Random

/-- Rotates a word to the right. -/
def rotateRight (word : UInt32) (count : Nat) : UInt32 :=
  if count % 32 = 0 then word
  else (word >>> UInt32.ofNat (count % 32)) ||| (word <<< UInt32.ofNat (32 - count % 32))

/-- Rotates a word to the left. -/
def rotateLeft (word : UInt32) (count : Nat) : UInt32 :=
  rotateRight word (32 - count % 32)

/-- The next state of the generator that spreads a seed. -/
def spreadStep (state : UInt64) : UInt64 :=
  state * 6364136223846793005 + 11634580027462260723

/-- The word that a state of that generator shows. -/
def spreadWord (state : UInt64) : UInt32 :=
  rotateRight (((state >>> 18) ^^^ state) >>> 27).toUInt32 (state >>> 59).toNat

/-- `count` words spread from a state. -/
def spread : Nat → UInt64 → List UInt32
  | 0, _ => []
  | count + 1, state => spreadWord (spreadStep state) :: spread count (spreadStep state)

/-- The key of a seed. -/
def key (seed : UInt64) : List UInt32 := spread 8 seed

/-- The word at a position, or zero behind the last. -/
def wordIn (words : List UInt32) (position : Nat) : UInt32 := (words[position]?).getD 0

/-- Mixes the words at four positions. -/
def quarter (words : List UInt32) (a b c d : Nat) : List UInt32 :=
  let xa := wordIn words a + wordIn words b
  let xd := rotateLeft (wordIn words d ^^^ xa) 16
  let xc := wordIn words c + xd
  let xb := rotateLeft (wordIn words b ^^^ xc) 12
  let ya := xa + xb
  let yd := rotateLeft (xd ^^^ ya) 8
  let yc := xc + yd
  let yb := rotateLeft (xb ^^^ yc) 7
  (((words.set a ya).set b yb).set c yc).set d yd

/-- Mixes the columns, then the diagonals. -/
def doubleRound (words : List UInt32) : List UInt32 :=
  [(0, 4, 8, 12), (1, 5, 9, 13), (2, 6, 10, 14), (3, 7, 11, 15),
    (0, 5, 10, 15), (1, 6, 11, 12), (2, 7, 8, 13), (3, 4, 9, 14)].foldl
    (fun words (a, b, c, d) => quarter words a b c d) words

/-- The words that a block starts from: constants, the key, and the number of the block. -/
def start (key : List UInt32) (number : Nat) : List UInt32 :=
  [0x61707865, 0x3320646e, 0x79622d32, 0x6b206574] ++ key ++
    [UInt32.ofNat number, UInt32.ofNat (number / 2 ^ 32), 0, 0]

/-- The block with a number, sixteen words of the stream. -/
def block (key : List UInt32) (number : Nat) : List UInt32 :=
  let first := start key number
  let mixed := (List.range 4).foldl (fun words _ => doubleRound words) first
  List.zipWith (· + ·) mixed first

/-- The word at a position of the stream. -/
def wordAt (key : List UInt32) (position : Nat) : UInt32 :=
  wordIn (block key (position / 16)) (position % 16)

end Random

/-- A stream of words and how many of them were drawn. -/
structure Stream where
  key : List UInt32
  position : Nat
deriving DecidableEq, Repr

namespace Stream

/-- The stream of a seed, from its first word on. -/
def ofSeed (seed : UInt64) : Stream := ⟨Random.key seed, 0⟩

/-- Draws one word. -/
def word (stream : Stream) : UInt32 × Stream :=
  (Random.wordAt stream.key stream.position, { stream with position := stream.position + 1 })

/-- Draws two words as one number, the lower half first. -/
def double (stream : Stream) : UInt64 × Stream :=
  let (low, stream) := stream.word
  let (high, stream) := stream.word
  (high.toUInt64 <<< 32 ||| low.toUInt64, stream)

/-- The bytes of a word, the least significant first. -/
def wordBytes (word : UInt32) : List UInt8 :=
  [word.toUInt8, (word >>> 8).toUInt8, (word >>> 16).toUInt8, (word >>> 24).toUInt8]

/-- The `count` words from a position on, taken from whole blocks. -/
def words (key : List UInt32) (position count : Nat) : List UInt32 :=
  let first := position / 16
  let blocks := (position + count + 15) / 16 - first
  (((List.range blocks).flatMap fun number => Random.block key (first + number)).drop
    (position % 16)).take count

/-- Draws bytes; what is left of the last word is dropped. -/
def bytes (stream : Stream) (count : Nat) : List UInt8 × Stream :=
  let needed := (count + 3) / 4
  (((words stream.key stream.position needed).flatMap wordBytes).take count,
    { stream with position := stream.position + needed })

end Stream

end LiveReload
