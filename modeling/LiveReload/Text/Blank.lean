/-
**Blank characters.**

The characters that count as white space wherever a text is trimmed, and the trimming.
-/

namespace LiveReload.Blank

/-- The code points with the property White_Space. -/
def ranges : List (Nat × Nat) :=
  [(0x9, 0xD), (0x20, 0x20), (0x85, 0x85), (0xA0, 0xA0), (0x1680, 0x1680), (0x2000, 0x200A),
   (0x2028, 0x2029), (0x202F, 0x202F), (0x205F, 0x205F), (0x3000, 0x3000)]

/-- A character is blank when its code point lies in one of `ranges`. -/
def isBlank (c : Char) : Bool :=
  ranges.any fun (low, high) => low ≤ c.toNat && c.toNat ≤ high

/-- `text` without the blank characters at its end. -/
def trimEnd (text : String) : String :=
  String.ofList (text.toList.reverse.dropWhile isBlank).reverse

/-- `text` without the blank characters at both ends. -/
def trim (text : String) : String := trimEnd (String.ofList (text.toList.dropWhile isBlank))

end LiveReload.Blank
