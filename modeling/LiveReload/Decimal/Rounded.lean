/-
**Whole numbers from doubles.**

`Decimal.whole` writes a double without places: a half goes to the even neighbour.
-/
import LiveReload.Decimal.Shortest

namespace LiveReload.Decimal

/-- The whole number nearest to `numerator / denominator`, the even one of two. -/
def nearestWhole (numerator denominator : Nat) : Nat :=
  let below := numerator / denominator
  let rest := numerator % denominator
  if 2 * rest < denominator || 2 * rest = denominator && below % 2 = 0 then below else below + 1

/-- A double that is no negative number, without places. -/
def whole (value : Float) : String :=
  if value.isNaN then "NaN"
  else if value.isInf then "inf"
  else
    let b := Binary.ofBits value.toBits
    toString (nearestWhole (b.mantissa * 2 ^ b.exponent.toNat) (2 ^ (-b.exponent).toNat))

end LiveReload.Decimal
