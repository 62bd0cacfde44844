import CorpusTally.Json.Error

/-!
JSON values and their text on indented lines.
-/

namespace CorpusTally.Json

inductive Number where
  | unsigned (value : UInt64)
  | negative (value : Int)
  | float (value : Float)

def Number.found : Number → Found
  | .unsigned value => .unsigned value
  | .negative value => .negative value
  | .float value => .float value

inductive Value where
  | null
  | bool (value : Bool)
  | number (value : Number)
  | string (value : String)
  | array (items : List Value)
  | object (fields : List (String × Value))

def Value.found : Value → Found
  | .null => .null
  | .bool value => .bool value
  | .number value => value.found
  | .string value => .string value
  | .array _ => .sequence
  | .object _ => .map

/-- The value of a field; of several fields with one name the last one counts. -/
def Value.field? (name : String) : Value → Option Value
  | .object fields => (fields.reverse.find? fun field => field.1 = name).map (·.2)
  | _ => none

def hexDigit (n : Nat) : Char := "0123456789abcdef".toList.getD n '0'

def escapeChar (c : Char) : List Char :=
  match c with
  | '"' => ['\\', '"']
  | '\\' => ['\\', '\\']
  | '\x08' => ['\\', 'b']
  | '\x0c' => ['\\', 'f']
  | '\n' => ['\\', 'n']
  | '\r' => ['\\', 'r']
  | '\t' => ['\\', 't']
  | c =>
    if c.toNat < 0x20 then ['\\', 'u', '0', '0', hexDigit (c.toNat / 16), hexDigit (c.toNat % 16)]
    else [c]

def quote (s : String) : List Char := '"' :: s.toList.flatMap escapeChar ++ ['"']

def digits (n : Nat) : List Char := Nat.toDigits 10 n

def Number.render : Number → List Char
  | .unsigned value => digits value.toNat
  | .negative value => (toString value).toList
  | .float value => (Decimal.compactText value).toList

def newline (indent : Nat) : List Char := '\n' :: List.replicate (2 * indent) ' '

/-- The parts on lines of their own between brackets; brackets alone if there is no part. -/
def block (opening closing : Char) (indent : Nat) (parts : List (List Char)) : List Char :=
  match parts with
  | [] => [opening, closing]
  | _ :: _ =>
    let line (part : List Char) := newline (indent + 1) ++ part
    opening :: ((parts.map line).intersperse [',']).flatten ++ newline indent ++ [closing]

mutual

def Value.render (indent : Nat) : Value → List Char
  | .null => "null".toList
  | .bool true => "true".toList
  | .bool false => "false".toList
  | .number value => value.render
  | .string value => quote value
  | .array items => block '[' ']' indent (renderItems (indent + 1) items)
  | .object fields => block '{' '}' indent (renderFields (indent + 1) fields)

def renderItems (indent : Nat) : List Value → List (List Char)
  | [] => []
  | item :: rest => item.render indent :: renderItems indent rest

def renderFields (indent : Nat) : List (String × Value) → List (List Char)
  | [] => []
  | (name, value) :: rest =>
    (quote name ++ [':', ' '] ++ value.render indent) :: renderFields indent rest

end

def Value.pretty (v : Value) : String := String.ofList (v.render 0)

end CorpusTally.Json
