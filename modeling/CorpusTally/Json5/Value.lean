import CorpusTally.Decimal
import CorpusTally.Json5.Expr

/-!
JSON5 values. Numbers without a point or an exponent are whole and have 64 bits, those in hexadecimal have
32; two codes for the halves of a character make that character.
-/

namespace CorpusTally.Json5

inductive Value where
  | null
  | bool (value : Bool)
  | int (value : Int)
  | real (value : Float)
  | text (value : String)
  | list (items : List Value)
  | table (fields : List (String × Value))

inductive Error where
  | grammar (picture : Picture)
  | hex
  | integer
  | number
  | tooLarge
  | lonelyTrail
  | missingTrail
  | wrongTrail

def Error.message : Error → String
  | grammar picture => picture.message
  | hex => "error parsing hex"
  | integer => "error parsing integer"
  | number => "error parsing number"
  | tooLarge => "error parsing number: too large"
  | lonelyTrail => "unexpected unicode trail surrogate"
  | missingTrail => "missing unicode trail surrogate"
  | wrongTrail => "expecting unicode trail surrogate"

def isHex (cs : List Char) : Bool :=
  cs.length > 2 && (['0', 'x'].isPrefixOf cs || ['0', 'X'].isPrefixOf cs)

def named? (text : String) : Option Float :=
  match text with
  | "Infinity" => some (1 / 0)
  | "-Infinity" => some (-1 / 0)
  | "NaN" | "-NaN" => some (0 / 0)
  | _ => none

def isWhole (cs : List Char) : Bool :=
  !cs.contains '.' && (isHex cs || !(cs.contains 'e' || cs.contains 'E'))

def hexValue (digits : List Char) : Except Error Nat :=
  (Numeral.readUnsigned 16 (UInt32.size - 1) digits).mapError fun _ => .hex

def numberValue (cs : List Char) : Except Error Value :=
  let text := String.ofList cs
  match named? text with
  | some value => .ok (.real value)
  | none =>
    if !isWhole cs then
      match Decimal.readFloat? text with
      | some value => if value.isFinite then .ok (.real value) else .error .tooLarge
      | none => .error .number
    else if isHex cs then (hexValue (cs.drop 2)).map fun n => .int n
    else match Numeral.readSigned? 10 cs with
      | some value => .ok (.int value)
      | none => .error .integer

def isLead (code : Nat) : Bool := 0xd800 ≤ code && code < 0xdc00

def isTrail (code : Nat) : Bool := 0xdc00 ≤ code && code < 0xe000

def joined (lead trail : Nat) : Char :=
  Char.ofNat (0x10000 + (lead - 0xd800) * 0x400 + (trail - 0xdc00))

def Piece.spelling : Piece → List Char
  | char _ spelling | code spelling => spelling

def textFrom (lead? : Option Nat) (done : List Char) : List Piece → Except Error String
  | [] => if lead?.isSome then .error .missingTrail else .ok (String.ofList done.reverse)
  | piece :: rest =>
    match lead?, piece with
    | some lead, piece => do
      let trail ← hexValue piece.spelling
      if isTrail trail then textFrom none (joined lead trail :: done) rest else .error .wrongTrail
    | none, .char c _ => textFrom none (c :: done) rest
    | none, .code spelling => do
      let code ← hexValue spelling
      if isTrail code then .error .lonelyTrail
      else if isLead code then textFrom (some code) done rest
      else textFrom none (Char.ofNat code :: done) rest

def textValue (pieces : List Piece) : Except Error String := textFrom none [] pieces

namespace Expr

mutual

def value : Expr → Except Error Value
  | null => .ok .null
  | bool value => .ok (.bool value)
  | number cs => numberValue cs
  | text pieces => (textValue pieces).map .text
  | list items => (values items).map .list
  | table written => (fields written).map .table

def values : List Expr → Except Error (List Value)
  | [] => .ok []
  | item :: rest => do
    let item ← item.value
    return item :: (← values rest)

def fields : List (List Piece × Expr) → Except Error (List (String × Value))
  | [] => .ok []
  | (key, item) :: rest => do
    let key ← textValue key
    let item ← item.value
    return (key, item) :: (← fields rest)

end

end Expr

def Value.ofText (text : String) : Except Error Value :=
  ((Expr.ofText text).mapError .grammar).bind Expr.value

end CorpusTally.Json5
