import CorpusTally.Decimal
import CorpusTally.Text.Quoted

/-!
What can be wrong with a JSON text or with the value in it, where it was noticed, and the message.
-/

namespace CorpusTally.Json

inductive Found where
  | null
  | bool (value : Bool)
  | unsigned (value : UInt64)
  | negative (value : Int)
  | float (value : Float)
  | string (value : String)
  | sequence
  | map

def Found.describe : Found → String
  | .null => "null"
  | .bool value => s!"boolean `{value}`"
  | .unsigned value => s!"integer `{value}`"
  | .negative value => s!"integer `{value}`"
  | .float value => s!"floating point `{Decimal.compactText value}`"
  | .string value => s!"string {Text.quoted value}"
  | .sequence => "sequence"
  | .map => "map"

inductive ErrorCode where
  | endInList
  | endInObject
  | endInString
  | endInValue
  | expectedColon
  | expectedListEnd
  | expectedObjectEnd
  | expectedIdent
  | expectedValue
  | invalidEscape
  | invalidNumber
  | outOfRange
  | controlCharacter
  | keyNotString
  | loneSurrogate
  | halfSurrogatePair
  | trailingComma
  | trailingCharacters
  | tooDeep
  | wrongType (found : Found) (expected : String)
  | wrongValue (found : Found) (expected : String)
  | wrongLength (length : Nat) (expected : String)
  | unknownVariant (name : String) (expected : String)
  | missingField (name : String)
  | duplicateField (name : String)

def ErrorCode.message : ErrorCode → String
  | .endInList => "EOF while parsing a list"
  | .endInObject => "EOF while parsing an object"
  | .endInString => "EOF while parsing a string"
  | .endInValue => "EOF while parsing a value"
  | .expectedColon => "expected `:`"
  | .expectedListEnd => "expected `,` or `]`"
  | .expectedObjectEnd => "expected `,` or `\x7d`"
  | .expectedIdent => "expected ident"
  | .expectedValue => "expected value"
  | .invalidEscape => "invalid escape"
  | .invalidNumber => "invalid number"
  | .outOfRange => "number out of range"
  | .controlCharacter => "control character (\\u0000-\\u001F) found while parsing a string"
  | .keyNotString => "key must be a string"
  | .loneSurrogate => "lone leading surrogate in hex escape"
  | .halfSurrogatePair => "unexpected end of hex escape"
  | .trailingComma => "trailing comma"
  | .trailingCharacters => "trailing characters"
  | .tooDeep => "recursion limit exceeded"
  | .wrongType found expected => s!"invalid type: {found.describe}, expected {expected}"
  | .wrongValue found expected => s!"invalid value: {found.describe}, expected {expected}"
  | .wrongLength length expected => s!"invalid length {length}, expected {expected}"
  | .unknownVariant name expected => s!"unknown variant `{name}`, expected {expected}"
  | .missingField name => s!"missing field `{name}`"
  | .duplicateField name => s!"duplicate field `{name}`"

/-- A place in a text: the line, counted from one, and the bytes before it in that line. -/
structure Position where
  line : Nat
  column : Nat
  deriving DecidableEq

def Position.advance (p : Position) (left : Nat) : List Char → Position
  | [] => p
  | c :: rest =>
    if left = 0 then p
    else if c = '\n' then Position.advance ⟨p.line + 1, 0⟩ (left - 1) rest
    else if left < c.utf8Size then ⟨p.line, p.column + left⟩
    else Position.advance ⟨p.line, p.column + c.utf8Size⟩ (left - c.utf8Size) rest

def Position.ofOffset (text : String) (offset : Nat) : Position :=
  Position.advance ⟨1, 0⟩ offset text.toList

structure Error where
  code : ErrorCode
  position? : Option Position := none

def Error.message (e : Error) : String :=
  match e.position? with
  | none => e.code.message
  | some p => s!"{e.code.message} at line {p.line} column {p.column}"

end CorpusTally.Json
