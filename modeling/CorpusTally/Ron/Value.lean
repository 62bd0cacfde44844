import CorpusTally.Ron.Scalar

/-!
RON values. What stands in round brackets is a table if its first item has a name, and a list otherwise;
a name alone says nothing.
-/

namespace CorpusTally.Ron

inductive Value where
  | unit
  | absent
  | present (value : Value)
  | bool (value : Bool)
  | number (value : Number)
  | char (value : Char)
  | text (value : String)
  | list (items : List Value)
  | table (fields : List (Value × Value))

namespace Value

def key : Value → Except String String
  | text value => .ok value
  | char value => .ok (String.singleton value)
  | unit => .error "unit value"
  | absent | present _ => .error "Option value"
  | bool value => .error s!"boolean \x60{value}\x60"
  | number (.int value) => .error s!"integer \x60{value}\x60"
  | number (.real value) => .error s!"floating point \x60{Decimal.pointedText value}\x60"
  | list _ => .error "sequence"
  | table _ => .error "map"

def rank : Value → Nat
  | bool _ => 0
  | char _ => 1
  | table _ => 2
  | number (.int _) => 3
  | number (.real _) => 4
  | absent | present _ => 5
  | text _ => 6
  | list _ => 7
  | unit => 8

/-- The order of keys: that of their kinds, and for keys of one kind that of what they say. -/
def keyLe : Value → Value → Bool
  | bool a, bool b => a ≤ b
  | char a, char b => a ≤ b
  | number (.int a), number (.int b) => a ≤ b
  | number (.real a), number (.real b) => a ≤ b
  | text a, text b => a ≤ b
  | a, b => a.rank ≤ b.rank

end Value

def readItems {α : Type} (close : Char) (item : Cursor → Reading α) (mayStand : Bool) (c : Cursor) :
    Nat → Except Error (List α × Cursor)
  | 0 => c.fault .endOfText
  | steps + 1 => do
    let c ← c.skipSpace
    let (byte, behind) ← c.next
    if byte = close then return ([], behind)
    if !mayStand then c.fault .missingComma
    let (value, c) ← item c
    let (comma, c) ← c.eatComma
    let (more, c) ← readItems close item comma c steps
    return (value :: more, c)

def readField (key value : Cursor → Reading Value) (c : Cursor) :
    Except Error ((Value × Value) × Cursor) := do
  let (name, c) ← key c
  let c ← c.skipSpace
  match c.eat ":" with
  | (false, c) => c.fault .missingColon
  | (true, c) =>
    let (found, c) ← value (← c.skipSpace)
    return ((name, found), c)

def readName (c : Cursor) : Reading Value :=
  c.identifier.map fun (name, c) => (.text name, c)

def hasName (c : Cursor) : Except Error Bool := do
  match (← c.skipSpace).identifier? with
  | none => return false
  | some (_, c) =>
    let (byte, _) ← (← c.skipSpace).next
    return byte = ':'

def word? (c : Cursor) : Option (Value × Cursor) :=
  let known : List (String × Value) := [
    ("true", .bool true), ("false", .bool false), ("None", .absent),
    ("inf", .number (.real (1 / 0))), ("-inf", .number (.real (-1 / 0))),
    ("NaN", .number (.real (0 / 0)))]
  match c.eat "()" with
  | (true, c) => some (.unit, c)
  | (false, _) => known.findSome? fun (word, value) =>
    match c.eatWord word with
    | (true, c) => some (value, c)
    | (false, _) => none

/-- A value that is nested no deeper than `depth`. Where `implicit`, a present value needs no brackets. -/
def readValue (implicit : Bool) (c : Cursor) : Nat → Reading Value
  | 0 => c.fault .endOfText
  | depth + 1 =>
    let value (c : Cursor) := readValue implicit c depth
    let list (close : Char) (c : Cursor) : Reading Value :=
      (readItems close value true c (c.rest.length + 1)).map fun (items, c) => (.list items, c)
    let table (close : Char) (key : Cursor → Reading Value) (c : Cursor) : Reading Value :=
      (readItems close (readField key value) true c (c.rest.length + 1)).map fun (fields, c) =>
        (.table fields, c)
    let inBrackets (c : Cursor) : Except Error (Value × Cursor) := do
      match c.eat "(" with
      | (false, c) => return (.unit, c)
      | (true, c) => if ← hasName c then table ')' readName c else list ')' c
    let present (c : Cursor) : Except Error (Value × Cursor) := do
      let c ← c.skipSpace
      match c.eat "(" with
      | (true, c) =>
        let (found, c) ← value (← c.skipSpace)
        let (_, c) ← c.eatComma
        match c.eat ")" with
        | (true, c) => return (.present found, c)
        | (false, c) => c.fault .missingOptionEnd
      | (false, c) =>
        if implicit then (value c).map fun (found, c) => (.present found, c) else c.fault .missingOption
    match word? c, c.eatWord "Some", c.identifier? with
    | some found, _, _ => .ok found
    | none, (true, c), _ => present c
    | none, _, some (_, c) => c.skipSpace.bind inBrackets
    | none, _, none =>
      match c.rest with
      | [] => c.fault .endOfText
      | '(' :: _ => inBrackets c
      | '[' :: _ => list ']' (c.skip 1)
      | '\x7b' :: _ => table '\x7d' value (c.skip 1)
      | '"' :: _ | 'r' :: _ => (readText c).map fun (found, c) => (.text found, c)
      | '\'' :: _ => (readChar (c.skip 1)).map fun (found, c) => (.char found, c)
      | '.' :: _ => (readReal c).map fun (found, c) => (.number (.real found), c)
      | byte :: _ =>
        if byte.isDigit || isSign byte then
          (readNumber c).map fun (found, c) => (.number found, c)
        else c.fault (.unexpected byte)

def extensions : List String := ["unwrap_newtypes", "implicit_some", "unwrap_variant_newtypes"]

def eatAll (c : Cursor) : List String → Except Error (Bool × Cursor)
  | [] => .ok (true, c)
  | text :: rest => do
    let (found, c) := c.eat text
    let c ← if found then c.skipSpace else pure c
    let (all, c) ← eatAll c rest
    return (found && all, c)

def readExtensions (c : Cursor) : Nat → Except Error (List String × Cursor)
  | 0 => c.fault .endOfText
  | steps + 1 => do
    let (name, c) ← c.identifier
    if !extensions.contains name then c.fault (.unknownExtension name)
    let (comma, c) ← c.eatComma
    let hasMore := c.rest.head?.any Cursor.isNameChar
    if hasMore && !comma then c.fault .missingComma
    if !hasMore then return ([name], c)
    let (more, c) ← readExtensions c steps
    return (name :: more, c)

def readAttributes (c : Cursor) : Nat → Except Error (List String × Cursor)
  | 0 => .ok ([], c)
  | steps + 1 => do
    let c ← c.skipSpace
    if !c.startsWith "#" then return ([], c)
    let (opened, c) ← eatAll c ["#", "!", "[", "enable", "("]
    if !opened then c.fault .missingAttribute
    let (names, c) ← readExtensions (← c.skipSpace) (c.rest.length + 1)
    let (closed, c) ← eatAll (← c.skipSpace) [")", "]"]
    if !closed then c.fault .missingAttributeEnd
    let (more, c) ← readAttributes c steps
    return (names ++ more, c)

def Value.ofText (text : String) : Except Error Value := do
  let c := Cursor.ofText text
  let (names, c) ← readAttributes c (c.rest.length + 1)
  let (value, c) ← readValue (names.contains "implicit_some") c (c.rest.length + 1)
  let c ← c.skipSpace
  if c.rest = [] then return value else c.fault .moreText

end CorpusTally.Ron
