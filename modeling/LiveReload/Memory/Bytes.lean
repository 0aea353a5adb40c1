/-
**Bytes by address.**

`Memory` answers which byte lies at an address. Filling and writing change the bytes of a stretch
and no other: `Memory.byte_fill` and `Memory.byte_write` say what is read afterwards.
-/
import LiveReload.Power

namespace LiveReload

/-- What lies at every address. -/
structure Memory where
  byte : Nat → UInt8

namespace Memory

/-- Memory that was never written. -/
def blank : Memory := ⟨fun _ => 0⟩

/-- Sets `size` bytes from `start` on to `value`. -/
def fill (memory : Memory) (start size : Nat) (value : UInt8) : Memory :=
  ⟨fun address =>
    if start ≤ address && address < start + size then value else memory.byte address⟩

/-- Copies `data` to `start` and the addresses after it. -/
def write (memory : Memory) (start : Nat) (data : Array UInt8) : Memory :=
  ⟨fun address =>
    if start ≤ address then (data[address - start]?).getD (memory.byte address)
    else memory.byte address⟩

/-- The `size` bytes from `start` on. -/
def read (memory : Memory) (start size : Nat) : List UInt8 :=
  (List.range size).map fun offset => memory.byte (start + offset)

/-- Every one of the `size` bytes from `start` on is zero. -/
def isZero (memory : Memory) (start size : Nat) : Bool :=
  Nat.all size fun offset _ => memory.byte (start + offset) = 0

/-- The bytes at `start` are those of `data`. -/
def holds (memory : Memory) (start : Nat) (data : Array UInt8) : Bool :=
  Nat.all data.size fun offset inside => memory.byte (start + offset) = data[offset]

theorem byte_fill (memory : Memory) (start size : Nat) (value : UInt8) (address : Nat) :
    (memory.fill start size value).byte address =
      if start ≤ address ∧ address < start + size then value else memory.byte address := by
  simp [fill]

theorem byte_write (memory : Memory) (start : Nat) (data : Array UInt8) (address : Nat) :
    (memory.write start data).byte address =
      if start ≤ address then (data[address - start]?).getD (memory.byte address)
      else memory.byte address := rfl

/-- A written stretch reads back. -/
theorem read_write (memory : Memory) (start : Nat) (data : Array UInt8) :
    (memory.write start data).read start data.size = data.toList := by
  apply List.ext_getElem
  · simp [read]
  · intro offset inside _
    simp only [read, List.length_map, List.length_range] at inside
    simp [read, byte_write, inside]

/-- A stretch filled with zeros reads as zeros. -/
theorem read_fill (memory : Memory) (start size : Nat) (value : UInt8) :
    (memory.fill start size value).read start size = List.replicate size value := by
  apply List.ext_getElem
  · simp [read]
  · intro offset inside _
    simp only [read, List.length_map, List.length_range] at inside
    simp [read, byte_fill, inside]

end Memory

/-- The lowest `width` bytes of a number, the least significant first. -/
def littleEndian : Nat → Nat → List UInt8
  | 0, _ => []
  | width + 1, value => UInt8.ofNat value :: littleEndian width (value / 256)

/-- The number that bytes spell, the least significant first. -/
def ofLittleEndian : List UInt8 → Nat
  | [] => 0
  | byte :: rest => byte.toNat + 256 * ofLittleEndian rest

@[simp] theorem length_littleEndian (width value : Nat) :
    (littleEndian width value).length = width := by
  induction width generalizing value with
  | zero => rfl
  | succ width step => rw [littleEndian, List.length_cons, step]

/-- Reading back gives the number as far as its bytes reach. -/
theorem ofLittleEndian_littleEndian (width value : Nat) :
    ofLittleEndian (littleEndian width value) = value % 256 ^ width := by
  induction width generalizing value with
  | zero => simp [littleEndian, ofLittleEndian, Nat.mod_one]
  | succ width step =>
    have first : (UInt8.ofNat value).toNat = value % 256 := UInt8.toNat_ofNat'
    rw [littleEndian, ofLittleEndian, step, first, Nat.pow_succ', Nat.mod_mul (a := 256)]

end LiveReload
