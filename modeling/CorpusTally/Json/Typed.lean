import CorpusTally.Json.Reader

/-!
Reading JSON text as values of a type that is known beforehand. What does not fit is a fault as soon as
it is met; a field that is not known is passed over.
-/

namespace CorpusTally.Json

/-- The fault of a value that is no `expected`; a value that is broken has its own fault. -/
def refuse {α : Type} (expected : String) (cs : List Char) : Except Fault α :=
  let wrong {β : Type} (read : Reading β) (found : β → Found) : Except Fault α :=
    read.bind fun value => faultHere (.wrongType (found value.1) expected) value.2
  match cs with
  | 'n' :: rest => wrong (readIdent "ull".toList rest) fun _ => .null
  | 't' :: rest => wrong (readIdent "rue".toList rest) fun _ => .bool true
  | 'f' :: rest => wrong (readIdent "alse".toList rest) fun _ => .bool false
  | '-' :: rest => wrong (readNumber false rest) Number.found
  | '"' :: rest => wrong (readString rest) Found.string
  | '[' :: _ => faultHere (.wrongType .sequence expected) cs
  | '{' :: _ => faultHere (.wrongType .map expected) cs
  | c :: _ =>
    if isDigit c then wrong (readNumber true cs) Number.found else faultNext .expectedValue cs
  | [] => faultNext .expectedValue []

def readText (cs : List Char) : Reading String :=
  match skipSpace cs with
  | [] => faultNext .endInValue []
  | '"' :: rest => readString rest
  | rest => refuse "a string" rest

def asCount (read : Reading Number) : Reading UInt64 :=
  read.bind fun found =>
    match found.1 with
    | .unsigned value => .ok (value, found.2)
    | .negative value => faultHere (.wrongValue (.negative value) "usize") found.2
    | .float value => faultHere (.wrongType (.float value) "usize") found.2

def readCount (cs : List Char) : Reading UInt64 :=
  match skipSpace cs with
  | [] => faultNext .endInValue []
  | '-' :: rest => asCount (readNumber false rest)
  | c :: rest =>
    if isDigit c then asCount (readNumber true (c :: rest)) else refuse "usize" (c :: rest)

def readSequence {α : Type} (item : List Char → Reading α) (cs : List Char) : Reading (List α) :=
  match skipSpace cs with
  | [] => faultNext .endInValue []
  | '[' :: rest => readList item rest
  | rest => refuse "a sequence" rest

inductive Bracket where
  | list
  | object
  deriving DecidableEq

def Bracket.closing : Bracket → Char
  | .list => ']'
  | .object => '}'

def skipDigits (cs : List Char) : List Char := cs.dropWhile isDigit

def passExponent (cs : List Char) : Except Fault (List Char) :=
  let unsignedPart := match cs with
    | '+' :: rest | '-' :: rest => rest
    | _ => cs
  match unsignedPart with
  | [] => faultHere .invalidNumber []
  | c :: rest => if isDigit c then .ok (skipDigits rest) else faultAt 1 .invalidNumber (c :: rest)

def passFraction (cs : List Char) : Except Fault (List Char) :=
  match cs.takeWhile isDigit, skipDigits cs with
  | [], rest => faultNext .invalidNumber rest
  | _, 'e' :: rest => passExponent rest
  | _, 'E' :: rest => passExponent rest
  | _, rest => .ok rest

def passNumberTail (cs : List Char) : Except Fault (List Char) :=
  match cs with
  | '.' :: rest => passFraction rest
  | 'e' :: rest | 'E' :: rest => passExponent rest
  | _ => .ok cs

def passNumber (cs : List Char) : Except Fault (List Char) :=
  match cs with
  | '0' :: c :: rest =>
    if isDigit c then faultNext .invalidNumber (c :: rest) else passNumberTail (c :: rest)
  | c :: rest =>
    if isDigit c then passNumberTail (skipDigits rest) else faultAt 1 .invalidNumber (c :: rest)
  | [] => faultHere .invalidNumber []

def passChars : Nat → List Char → Except Fault (List Char)
  | _, [] => faultHere .endInString []
  | skip + 1, _ :: rest => passChars skip rest
  | 0, c :: rest =>
    if c = '"' then .ok rest
    else if c = '\\' then
      match rest with
      | 'u' :: more =>
        match readUnit more with
        | .ok _ => passChars 5 rest
        | .error e => .error e
      | _ =>
        match readEscape rest with
        | .ok (_, used) => passChars used rest
        | .error e => .error e
    else if c.toNat < 0x20 then faultHere .controlCharacter (c :: rest)
    else passChars 0 rest

def passSimple (cs : List Char) : Reading (Option Bracket) :=
  match skipSpace cs with
  | [] => faultNext .endInValue []
  | 'n' :: rest => (readIdent "ull".toList rest).map fun found => (none, found.2)
  | 't' :: rest => (readIdent "rue".toList rest).map fun found => (none, found.2)
  | 'f' :: rest => (readIdent "alse".toList rest).map fun found => (none, found.2)
  | '-' :: rest => (passNumber rest).map fun left => (none, left)
  | '"' :: rest => (passChars 0 rest).map fun left => (none, left)
  | '[' :: rest => .ok (some .list, rest)
  | '{' :: rest => .ok (some .object, rest)
  | c :: rest =>
    if isDigit c then (passNumber (c :: rest)).map fun left => (none, left)
    else faultNext .expectedValue (c :: rest)

/-- Closes brackets as far as they are closed here, and goes to where the next value begins. None is
open when all are closed. -/
def passClosing (afterValue : Bool) : List Bracket → List Char → Reading (List Bracket)
  | [], cs => .ok ([], cs)
  | bracket :: outer, cs =>
    match skipSpace cs with
    | [] => faultNext (if bracket = .list then .endInList else .endInObject) []
    | c :: rest =>
      if afterValue && c = ',' then .ok (bracket :: outer, rest)
      else if c = bracket.closing then passClosing true outer rest
      else if afterValue then
        faultNext (if bracket = .list then .expectedListEnd else .expectedObjectEnd) (c :: rest)
      else .ok (bracket :: outer, c :: rest)

def passKey (cs : List Char) : Except Fault (List Char) :=
  match skipSpace cs with
  | '"' :: rest =>
    (passChars 0 rest).bind fun rest => (readColon rest).map (·.2)
  | [] => faultNext .endInObject []
  | rest => faultNext .keyNotString rest

def passValues : Nat → List Bracket → List Char → Except Fault (List Char)
  | 0, _, cs => .ok cs
  | steps + 1, brackets, cs => do
    let (opened?, cs) ← passSimple cs
    let (brackets, cs) ← match opened? with
      | some bracket => passClosing false (bracket :: brackets) cs
      | none => passClosing true brackets cs
    match brackets with
    | [] => return cs
    | .list :: _ => passValues steps brackets cs
    | .object :: _ =>
      let cs ← passKey cs
      passValues steps brackets cs

def passValue (cs : List Char) : Except Fault (List Char) := passValues (cs.length + 1) [] cs

/-- Reads a structure from an object, or from a list of its fields in order. -/
def readStruct {α : Type} (name : String) (ofObject ofList : List Char → Reading α)
    (cs : List Char) : Reading α :=
  match skipSpace cs with
  | [] => faultNext .endInValue []
  | '[' :: rest =>
    (ofList rest).bind fun found => (closeList found.2).map fun closed => (found.1, closed.2)
  | '{' :: rest =>
    (ofObject rest).bind fun found => (closeObject found.2).map fun closed => (found.1, closed.2)
  | rest => refuse s!"struct {name}" rest

def readField {α : Type} (expected : String) (index : Nat) (read : List Char → Reading α)
    (cs : List Char) : Reading α :=
  (nextItem? (index = 0) cs).bind fun found =>
    if found.1 then read found.2 else faultHere (.wrongLength index expected) found.2

def readOnce {α : Type} (name : String) (earlier : Option α) (read : List Char → Reading α)
    (cs : List Char) : Reading (Option α) :=
  match earlier with
  | some _ => faultHere (.duplicateField name) cs
  | none =>
    (readColon cs).bind fun colon => (read colon.2).map fun found => (some found.1, found.2)

def passField {σ : Type} (state : σ) (cs : List Char) : Reading σ :=
  (readColon cs).bind fun colon => (passValue colon.2).map fun rest => (state, rest)

def required {α : Type} (name : String) (value? : Option α) (cs : List Char) : Except Fault α :=
  match value? with
  | some value => .ok value
  | none => faultHere (.missingField name) cs

end CorpusTally.Json
