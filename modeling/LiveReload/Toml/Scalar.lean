/-
**Documents of settings: values without brackets and quotes.**

* `scalar?`: the value that a stretch of characters writes: a truth value, a moment or a number.
-/
import LiveReload.Toml.Number

namespace LiveReload.Toml

/-- The value that a stretch of characters writes. -/
def scalar? (text : String) : Option Value :=
  if text = "true" then some (.bool true)
  else if text = "false" then some (.bool false)
  else match moment? text.toList with
    | some moment => some (.moment (String.ofList moment))
    | none => number? text.toList

end LiveReload.Toml
