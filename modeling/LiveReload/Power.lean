/-
**Powers of numbers.**

Machine limits and decimal places are written `2 ^ 64` and `10 ^ places`. Algebra that is loaded
later has a power of its own for every monoid, whole numbers among them, and that would be asked for
first. The core power keeps precedence, so a limit is one term in the program and in its proofs.
-/

attribute [instance (high)] instPowNat

-- A literal exponent is left to the default instances, among them the power of a monoid at `high`.
attribute [default_instance high + 1] instPowNat
