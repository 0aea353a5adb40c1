/-
**Quoted text.**

Diagnostics show text between double quotes, with escapes for what would not show.

* `Quoted.text` quotes a text;
* `Quoted.list` shows a list of quoted items between brackets.
-/
import LiveReload.Text.Printable

namespace LiveReload.Quoted

/-- A character escaped by its code point, in lower-case hexadecimal. -/
def codeEscape (c : Char) : List Char :=
  ['\\', 'u', '\x7b'] ++ Nat.toDigits 16 c.toNat ++ ['\x7d']

/-- A character as it stands between quotes. -/
def escape (c : Char) : List Char :=
  if c = Char.ofNat 0 then ['\\', '0']
  else if c = '\t' then ['\\', 't']
  else if c = '\r' then ['\\', 'r']
  else if c = '\n' then ['\\', 'n']
  else if c = '\\' || c = '"' then ['\\', c]
  else if Printable.isShown c then [c]
  else codeEscape c

/-- Text between double quotes. -/
def text (s : String) : String :=
  String.ofList ('"' :: s.toList.flatMap escape ++ ['"'])

/-- Items between brackets, separated by commas. -/
def list (items : List String) : String :=
  "[" ++ String.intercalate ", " items ++ "]"

end LiveReload.Quoted
