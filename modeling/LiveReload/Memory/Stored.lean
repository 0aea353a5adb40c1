/-
**Values as they are stored.**

A value is stored as bytes at an aligned address: numbers with the lowest byte first, texts as
they are encoded. `Stored.numbersIn` reads numbers back.
-/
import LiveReload.Memory.Bytes
import LiveReload.Memory.Layout

namespace LiveReload

/-- The bytes of a value and the alignment of the first of them. -/
structure Stored where
  align : Nat
  bytes : List UInt8
deriving DecidableEq, Repr

namespace Stored

/-- A value of no size. -/
def nothing : Stored := ⟨1, []⟩

/-- A number of `width` bytes. -/
def number (width value : Nat) : Stored := ⟨width, littleEndian width value⟩

/-- Numbers of `width` bytes, one after the other. -/
def numbers (width : Nat) (values : List Nat) : Stored :=
  ⟨width, values.flatMap (littleEndian width)⟩

/-- A text. -/
def text (value : String) : Stored := ⟨1, value.toUTF8.data.toList⟩

/-- The same byte over and over. -/
def repeated (size : Nat) (byte : UInt8) : Stored := ⟨1, List.replicate size byte⟩

/-- A block that is aligned to its own size, with one byte that says something. -/
def page (size : Nat) (first : UInt8) : Stored := ⟨size, first :: List.replicate (size - 1) 0⟩

/-- The size and alignment of a value, if there is such a layout. -/
def layout? (stored : Stored) : Option Layout := Layout.of? stored.bytes.length stored.align

/-- The numbers of `width` bytes that bytes hold. -/
def numbersIn (width : Nat) (bytes : List UInt8) : List Nat :=
  (List.range (bytes.length / width)).map fun index =>
    ofLittleEndian ((bytes.drop (index * width)).take width)

/-- Numbers read back as far as their bytes reach. -/
theorem numbersIn_numbers {width : Nat} (positive : 0 < width) (values : List Nat) :
    numbersIn width (numbers width values).bytes = values.map (· % 256 ^ width) := by
  induction values with
  | nil => simp [numbersIn, numbers]
  | cons value rest step =>
    have whole : (numbers width (value :: rest)).bytes =
        littleEndian width value ++ (numbers width rest).bytes := rfl
    have count : (numbers width (value :: rest)).bytes.length / width =
        (numbers width rest).bytes.length / width + 1 := by
      rw [whole, List.length_append, length_littleEndian, Nat.add_comm,
        Nat.add_div_right _ positive]
    unfold numbersIn at step ⊢
    rw [count, List.range_succ_eq_map, List.map_cons, List.map_map, List.map_cons, ← step]
    congr 1
    · rw [whole, Nat.zero_mul, List.drop_zero, List.take_left' (length_littleEndian _ _),
        ofLittleEndian_littleEndian]
    · apply List.map_congr_left
      intro index _
      rw [Function.comp_apply, whole, Nat.succ_mul, Nat.add_comm, ← List.drop_drop,
        List.drop_left' (length_littleEndian _ _)]

end Stored

end LiveReload
