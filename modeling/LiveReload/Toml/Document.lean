/-
**Documents of settings: from tokens to a table.**

A document is read token by token. What may follow is decided by what is awaited and by the
brackets that are open, the innermost first; what has been read is in the root table.

* `Reader.step`: one token;
* `document?`: the table that a document writes.
-/
import LiveReload.Toml.Scalar
import LiveReload.Toml.Token

namespace LiveReload.Toml

/-- A bracket that is open. -/
inductive Frame
  /-- An array with its items, the last first. -/
  | items (items : List Value)
  /-- A table between braces, with the path whose value is awaited. -/
  | fields (table : Table) (path : List String)

/-- Where a name is read. -/
inductive Place
  /-- At the start of a line. -/
  | line
  /-- In a header, which may be one of several of its name. -/
  | header (several : Bool)
  /-- Between braces. -/
  | field
deriving DecidableEq, Repr

/-- What is awaited. -/
inductive Awaited
  /-- A line of any kind. -/
  | line
  /-- Nothing more on this line. -/
  | lineEnd
  /-- The name in a header, or a second bracket right after the first. -/
  | header
  /-- A name after a dot, or the first of a header. -/
  | name (place : Place)
  /-- What follows a name. -/
  | link (place : Place)
  /-- The equals sign between braces, on a line after the name. -/
  | equals
  /-- The second bracket that closes a header. -/
  | closing
  | value
  /-- More of a stretch of characters; `spaced` if one blank was read after a date. -/
  | more (text : String) (spaced : Bool)
  /-- What follows a value between brackets. -/
  | separator
  /-- A name between braces, or the brace that closes. -/
  | field
deriving DecidableEq, Repr

/-- A document that is being read. -/
structure Reader where
  root : Table
  /-- The path of the header above. -/
  header : List String
  /-- The names of the path that is being read, the last first. -/
  names : List String
  /-- The path of the line whose value is awaited. -/
  target : List String
  frames : List Frame
  awaited : Awaited

namespace Reader

/-- How many brackets may be open, and how many names a path may have. -/
def depthLimit : Nat := 80

/-- Nothing was read. -/
def start : Reader := ⟨⟨.header, []⟩, [], [], [], [], .line⟩

/-- A character of a name without quotes. -/
def isNameChar (c : Char) : Bool := c.isAlphanum || c = '-' || c = '_'

/-- The name that a token writes. -/
def nameOf? : Token → Option String
  | .text text => some text
  | .stretch text => if text.toList.all isNameChar then some text else none
  | _ => none

/-- Goes on with something else. -/
def await (reader : Reader) (awaited : Awaited) : Reader := { reader with awaited }

/-- Reads a name of a path. -/
def takeName (reader : Reader) (place : Place) (token : Token) : Option Reader :=
  if reader.names.length < depthLimit then
    (nameOf? token).map fun name =>
      { reader with names := name :: reader.names, awaited := .link place }
  else none

/-- The path of names read so far. -/
def path (reader : Reader) : List String := reader.names.reverse

/-- A value was read: it is an item, a field, or the value of a line. -/
def takeValue (reader : Reader) (value : Value) : Option Reader :=
  match reader.frames with
  | [] =>
    (reader.root.update? false (Table.define? reader.target value) reader.header).map fun root =>
      { reader with root, awaited := .lineEnd }
  | .items items :: frames =>
    some { reader with frames := .items (value :: items) :: frames, awaited := .separator }
  | .fields table path :: frames =>
    (table.define? path value).map fun table =>
      { reader with frames := .fields table [] :: frames, awaited := .separator }

/-- A header was read. -/
def takeHeader (reader : Reader) (several : Bool) : Option Reader :=
  (reader.root.open? several reader.path).map fun root =>
    { reader with root, header := reader.path, names := [], awaited := .lineEnd }

/-- Opens a bracket. -/
def openFrame (reader : Reader) (frame : Frame) (awaited : Awaited) : Option Reader :=
  if reader.frames.length < depthLimit then
    some { reader with frames := frame :: reader.frames, awaited }
  else none

/-- Closes an array. -/
def closeItems (reader : Reader) : Option Reader :=
  match reader.frames with
  | .items items :: frames => { reader with frames }.takeValue (.array items.reverse)
  | _ => none

/-- Closes a table between braces. -/
def closeFields (reader : Reader) : Option Reader :=
  match reader.frames with
  | .fields table _ :: frames => { reader with frames }.takeValue table.toValue
  | _ => none

/-- What may stand around names, items and fields between brackets. -/
def isSpace : Token → Bool
  | .blank _ => true
  | .comment => true
  | .lineEnd => true
  | _ => false

/-- The innermost bracket is one of an array. -/
def inItems (reader : Reader) : Bool :=
  match reader.frames with
  | .items _ :: _ => true
  | _ => false

/-- What follows the equals sign: the path is kept until its value is there. -/
def awaitValue (reader : Reader) : Place → Option Reader
  | .line => some { reader with target := reader.path, names := [], awaited := .value }
  | .header _ => none
  | .field =>
    match reader.frames with
    | .fields table _ :: frames =>
      some { reader with
        frames := .fields table reader.path :: frames, names := [], awaited := .value }
    | _ => none

/-- What follows a name. -/
def stepLink (reader : Reader) (place : Place) : Token → Option Reader
  | .blank _ => some reader
  | .dot => some (reader.await (.name place))
  | .equals => reader.awaitValue place
  | .closeBracket =>
    match place with
    | .header false => reader.takeHeader false
    | .header true => some (reader.await .closing)
    | _ => none
  | token => if place = .field && isSpace token then some (reader.await .equals) else none

/-- Where a value, or the end of an array, is awaited. -/
def stepValue (reader : Reader) (token : Token) : Option Reader :=
  match token with
  | .text text => reader.takeValue (.text text)
  | .block text => reader.takeValue (.text text)
  | .stretch text => some (reader.await (.more text false))
  | .dot => some (reader.await (.more "." false))
  | .openBracket => reader.openFrame (.items []) .value
  | .openBrace => reader.openFrame (.fields ⟨.inline, []⟩ []) .field
  | .closeBracket => reader.closeItems
  | .blank _ => some reader
  | token => if !reader.frames.isEmpty && isSpace token then some reader else none

/-- What follows a value between brackets. -/
def stepSeparator (reader : Reader) (token : Token) : Option Reader :=
  if isSpace token then some reader
  else match token with
    | .comma => some (reader.await (if reader.inItems then .value else .field))
    | .closeBracket => reader.closeItems
    | .closeBrace => reader.closeFields
    | _ => none

/-- The end of a line, after a blank or a comment. -/
def stepLineEnd (reader : Reader) : Token → Option Reader
  | .blank _ => some reader
  | .comment => some reader
  | .lineEnd => some (reader.await .line)
  | _ => none

/-- What follows a value. -/
def stepAfter (reader : Reader) (token : Token) : Option Reader :=
  if reader.frames.isEmpty then reader.stepLineEnd token else reader.stepSeparator token

/-- A stretch of characters goes on, or is a value. -/
def stepMore (reader : Reader) (text : String) (spaced : Bool) (token : Token) : Option Reader :=
  let ended : Option Reader :=
    match scalar? text with
    | none => none
    | some value =>
      match reader.takeValue value with
      | none => none
      | some reader => reader.stepAfter token
  match token with
  | .stretch more =>
    let gap := if spaced then " " else ""
    some (reader.await (.more (text ++ gap ++ more) false))
  | .dot => if spaced then none else some (reader.await (.more (text ++ ".") false))
  | .blank 1 => if isDate text && !spaced then some (reader.await (.more text true)) else ended
  | _ => ended

/-- One token. -/
def step (reader : Reader) (token : Token) : Option Reader :=
  match reader.awaited with
  | .line =>
    match token with
    | .blank _ => some reader
    | .comment => some (reader.await .lineEnd)
    | .lineEnd => some reader
    | .openBracket => some (reader.await .header)
    | token => reader.takeName .line token
  | .lineEnd => reader.stepLineEnd token
  | .header =>
    match token with
    | .openBracket => some (reader.await (.name (.header true)))
    | .blank _ => some (reader.await (.name (.header false)))
    | token => reader.takeName (.header false) token
  | .name place =>
    match token with
    | .blank _ => some reader
    | token => reader.takeName place token
  | .link place => reader.stepLink place token
  | .equals =>
    if isSpace token then some reader
    else if token = .equals then reader.awaitValue .field
    else none
  | .closing => if token = .closeBracket then reader.takeHeader true else none
  | .value => reader.stepValue token
  | .more text spaced => reader.stepMore text spaced token
  | .separator => reader.stepSeparator token
  | .field =>
    if isSpace token then some reader
    else if token = .closeBrace then reader.closeFields
    else reader.takeName .field token

end Reader

/-- The table that tokens write; the end of a document ends its last line. -/
def tableOf? (tokens : List Token) : Option Table :=
  match (tokens ++ [Token.lineEnd]).foldlM Reader.step Reader.start with
  | none => none
  | some reader =>
    if reader.awaited = Awaited.line && reader.frames.isEmpty then some reader.root else none

/-- The table that a document writes. -/
def document? (text : String) : Option Table := (tokens text).bind tableOf?

end LiveReload.Toml
