/-
**The shortest decimal of a double.**

A finite positive double is `m · 2^q`. The reals that round to it form an interval around it, ends
included when `m` is even. `shortest` finds the fewest digits of a decimal in that interval and,
among those, the decimal nearest to the double:

* `Binary.ofBits` takes a double apart;
* `shortest` answers digits and the place of the decimal point;
* `Decimal.debug` writes them, positionally from 10⁻⁴ up to 10¹⁶, with an exponent elsewhere.
-/
import LiveReload.Power

namespace LiveReload.Decimal

/-- A positive number `mantissa · 2^exponent`, whose gap downward is half of that upward when
`narrow`. -/
structure Binary where
  mantissa : Nat
  exponent : Int
  narrow : Bool

/-- The magnitude that the bits of a finite double hold. -/
def Binary.ofBits (bits : UInt64) : Binary :=
  let fraction : Nat := bits.toNat % 2 ^ 52
  let biased : Nat := bits.toNat / 2 ^ 52 % 2 ^ 11
  if biased = 0 then ⟨fraction, -1074, false⟩
  else ⟨fraction + 2 ^ 52, (biased : Int) - 1075, decide (fraction = 0 ∧ 1 < biased)⟩

/-- The double `m · 2^q` and the ends of its interval as numerators over one denominator. -/
structure Interval where
  low : Nat
  value : Nat
  high : Nat
  denominator : Nat
  closed : Bool

/-- The interval of the reals that round to a number. -/
def Binary.interval (b : Binary) : Interval :=
  let up := 2 ^ b.exponent.toNat
  let down := 2 ^ (-b.exponent).toNat
  { low := (4 * b.mantissa - if b.narrow then 1 else 2) * up
    value := 4 * b.mantissa * up
    high := (4 * b.mantissa + 2) * up
    denominator := 4 * down
    closed := b.mantissa % 2 = 0 }

/-- Whether `candidate · 10^place` rounds to the number. -/
def Interval.holds (i : Interval) (candidate : Nat) (place : Int) : Bool :=
  let scaled := candidate * 10 ^ place.toNat * i.denominator
  let low := i.low * 10 ^ (-place).toNat
  let high := i.high * 10 ^ (-place).toNat
  if i.closed then low ≤ scaled && scaled ≤ high else low < scaled && scaled < high

/-- The decimal with its last digit at `place` that lies nearest to the number and rounds to it. -/
def Interval.nearest? (i : Interval) (place : Int) : Option Nat :=
  let numerator := i.value * 10 ^ (-place).toNat
  let denominator := i.denominator * 10 ^ place.toNat
  let below := numerator / denominator
  let rest := numerator % denominator
  let first := if 2 * rest ≤ denominator then below else below + 1
  let second := if 2 * rest ≤ denominator then below + 1 else below
  if i.holds first place then some first
  else if i.holds second place then some second
  else none

/-- The number of decimal digits before the point of `numerator / denominator`, below zero when
zeros follow the point. -/
def magnitude (numerator denominator : Nat) : Int :=
  if denominator ≤ numerator then ((Nat.toDigits 10 (numerator / denominator)).length : Int)
  else 1 - ((Nat.toDigits 10 ((denominator + numerator - 1) / numerator - 1)).length : Int)

/-- Digits and the place of the last of them: the fewest digits that round to the number. -/
def shortest (b : Binary) : Nat × Int :=
  let i := b.interval
  let top := magnitude i.value i.denominator
  ((List.range 17).findSome? fun count =>
    let place := top - (count + 1 : Nat)
    (i.nearest? place).map (·, place)).getD (b.mantissa, 0)

/-- `digits · 10^place` without an exponent, with at least one digit after the point. -/
def positional (digits : Nat) (place : Int) : String :=
  if 0 ≤ place then toString (digits * 10 ^ place.toNat) ++ ".0"
  else
    let scale := 10 ^ (-place).toNat
    let fraction := toString (digits % scale)
    let zeros := (-place).toNat - fraction.length
    toString (digits / scale) ++ "." ++ String.ofList (List.replicate zeros '0') ++ fraction

/-- `digits · 10^place` with one digit before the point and an exponent. -/
def scientific (digits : Nat) (place : Int) : String :=
  let all := (toString digits).toList
  let exponent := place + (all.length - 1 : Nat)
  let tail := String.ofList (all.drop 1)
  let fraction := if tail.isEmpty then "" else "." ++ tail
  String.ofList (all.take 1) ++ fraction ++ "e" ++ toString exponent

/-- The text of a double in diagnostics. -/
def debug (value : Float) : String :=
  let bits := value.toBits
  let sign := if bits.toNat < 2 ^ 63 then "" else "-"
  if value.isNaN then "NaN"
  else if value.isInf then sign ++ "inf"
  else if bits.toNat % 2 ^ 63 = 0 then sign ++ "0.0"
  else
    let (digits, place) := shortest (Binary.ofBits bits)
    let top := place + ((toString digits).length : Int)
    sign ++ if -4 < top && top ≤ 16 then positional digits place else scientific digits place

end LiveReload.Decimal
