import CorpusTally.Decimal
import CorpusTally.Toml.Token
import CorpusTally.Toml.Value

/-!
Values as they are written: texts, numbers, dates, lists and inline tables. Keys with points make tables
too. Each value keeps the place where it starts, for the faults that show only when it is made.
-/

namespace CorpusTally.Toml

/-- Places are numbers of bytes that are left. -/
inductive Expr where
  | plain (left : Nat) (value : Value)
  | date (left : Nat) (written : String)
  | list (left : Nat) (items : List Expr)
  | table (left : Nat) (dotted : Bool) (fields : List (String × Expr))

namespace Expr

def left : Expr → Nat
  | plain left _ | date left _ | list left _ | table left _ _ => left

mutual

/-- The value that is written. A key that is there twice is a fault of the innermost table. -/
def value : Expr → Except Fault Value
  | plain _ value => .ok value
  | date left written =>
    match DateTime.ofText? written with
    | some found => .ok (.date found)
    | none => faultLeft left .dateUnread
  | list _ items => (values items).map .list
  | table left _ written => (fields left [] written).map .table

def values : List Expr → Except Fault (List Value)
  | [] => .ok []
  | item :: rest => do
    let item ← item.value
    return item :: (← values rest)

def fields (left : Nat) (done : Fields) : List (String × Expr) → Except Fault Fields
  | [] => .ok done
  | (key, item) :: rest =>
    if (done.lookup key).isSome then faultLeft left (.duplicateKey key)
    else match item.value with
      | .error e => .error e
      | .ok found => fields left (done ++ [(key, found)]) rest

end

end Expr

structure Piece where
  chars : List Char
  left : Nat

def Piece.drop (p : Piece) (n : Nat) : Piece := ⟨p.chars.drop n, p.left - n⟩

def Piece.fault {α : Type} (p : Piece) : Except Fault α := faultLeft p.left .invalidNumber

structure Digits where
  done : List Char := []
  leadingZero : Bool := false
  underscore : Bool := false

def takeDigits (start : Piece) (leadingZeros : Bool) (base : Nat) (d : Digits) (left : Nat) :
    List Char → Except Fault (List Char × Piece)
  | [] => if d.done = [] || d.underscore then start.fault else .ok (d.done.reverse, ⟨[], left⟩)
  | c :: rest =>
    let here : Piece := ⟨c :: rest, left⟩
    let first := d.done = []
    if c = '0' && first then
      takeDigits start leadingZeros base { done := [c], leadingZero := true } (left - 1) rest
    else if (Numeral.digit? base c).isSome then
      if !first && d.leadingZero && !leadingZeros then here.fault
      else
        takeDigits start leadingZeros base { d with done := c :: d.done, underscore := false }
          (left - 1) rest
    else if c = '_' && first then here.fault
    else if c = '_' && !d.underscore then
      takeDigits start leadingZeros base { d with underscore := true } (left - 1) rest
    else if first || d.underscore then start.fault
    else .ok (d.done.reverse, here)

def takeWhole (signed leadingZeros : Bool) (base : Nat) (p : Piece) :
    Except Fault (List Char × Piece) :=
  let digits (p' : Piece) := takeDigits p leadingZeros base {} p'.left p'.chars
  match signed, p.chars with
  | true, '-' :: _ => (digits (p.drop 1)).map fun (found, rest) => ('-' :: found, rest)
  | true, '+' :: _ => digits (p.drop 1)
  | _, _ => digits p

def whole (signed leadingZeros : Bool) (base : Nat) (p : Piece) : Except Fault Value := do
  let (digits, rest) ← takeWhole signed leadingZeros base p
  match rest.chars, Numeral.readSigned? base digits with
  | [], some value => return .int value
  | _, _ => p.fault

/-- An exponent; where the piece ends with its letter, a plus sign and digits follow. -/
def readExponent (start p : Piece) (rest : List Char) : Except Fault (List Char × List Char) := do
  let finish (found : List Char × Piece) (rest : List Char) :
      Except Fault (List Char × List Char) :=
    if found.2.chars = [] then .ok ('E' :: found.1, rest) else start.fault
  match p.chars with
  | [] => return ([], rest)
  | [_] =>
    let (_, rest) ← eat (.sign '+') rest
    match ← readToken rest with
    | (some (.word digits), more) =>
      finish (← takeWhole false true 10 ⟨digits.toList, byteLength rest⟩) more
    | _ => start.fault
  | _ => finish (← takeWhole true true 10 (p.drop 1)) rest

def startsExponent (p : Piece) : Bool := p.chars.head?.any fun c => c = 'e' || c = 'E'

def readReal (p : Piece) (fraction : Option Piece) (rest : List Char) :
    Except Fault (Value × List Char) := do
  let (integral, suffix) ← takeWhole true false 10 p
  let (fraction, suffix) ←
    match fraction with
    | none => pure ([], suffix)
    | some digits =>
      if suffix.chars ≠ [] then p.fault
      else (takeWhole false true 10 digits).map fun (found, suffix) => ('.' :: found, suffix)
  if suffix.chars ≠ [] && !startsExponent suffix then p.fault
  let (exponent, rest) ← readExponent p suffix rest
  match Decimal.readFloat? (String.ofList (integral ++ fraction ++ exponent)) with
  | some value => if value.isFinite then return (.real value, rest) else p.fault
  | none => p.fault

def named? (word : String) : Option Value :=
  match word with
  | "inf" => some (.real (1 / 0))
  | "-inf" => some (.real (-1 / 0))
  | "nan" | "-nan" => some (.real (0 / 0))
  | _ => none

/-- A number whose first word is read, and perhaps a plus sign before it. A number with a point has its
place behind the point. -/
def readNumber (left : Nat) (start : List Char) (word : String) (rest : List Char) :
    Except Fault (Expr × List Char) := do
  let p : Piece := ⟨word.toList, byteLength start⟩
  match p.chars with
  | '0' :: 'x' :: _ => return (.plain left (← whole false true 16 (p.drop 2)), rest)
  | '0' :: 'o' :: _ => return (.plain left (← whole false true 8 (p.drop 2)), rest)
  | '0' :: 'b' :: _ => return (.plain left (← whole false true 2 (p.drop 2)), rest)
  | cs =>
    if cs.any fun c => c = 'e' || c = 'E' then
      let (value, rest) ← readReal p none rest
      return (.plain left value, rest)
    else
      match ← eat (.sign '.') rest with
      | (true, more) =>
        match ← readToken more with
        | (some (.word fraction), rest) =>
          let digits : Piece := ⟨fraction.toList, byteLength more⟩
          let (value, rest) ← readReal p (some digits) rest
          return (.plain digits.left value, rest)
        | _ => faultAt more .invalidNumber
      | (false, _) =>
        match named? word with
        | some value => return (.plain left value, rest)
        | none => return (.plain left (← whole true false 10 p), rest)

def looksLikeDate (word : List Char) : Bool :=
  let withoutPower := (word.zip (word.drop 1)).all fun (a, b) => !((a = 'e' || a = 'E') && b = '-')
  word.any (fun c => c = 'T' || c = 't') || ((word.drop 1).contains '-' && withoutPower)

def skipSpacedWord (rest : List Char) : List Char :=
  match rest with
  | ' ' :: more =>
    match readToken more with
    | .ok (some (.word _), behind) => behind
    | _ => rest
  | _ => rest

def dateWord (start cs : List Char) : Except Fault (List Char) := do
  match ← readToken cs with
  | (some (.word _), rest) => return rest
  | _ => faultAt start .invalidDate

def dateWordBehind (sign : Char) (start cs : List Char) : Except Fault (List Char) := do
  match ← eat (.sign sign) cs with
  | (true, rest) => dateWord start rest
  | (false, _) => return cs

def dateTail (start cs : List Char) : Except Fault (List Char) := do
  let cs ← dateWord start cs
  let ((), cs) ← expect (.sign ':') cs
  let cs ← dateWord start cs
  let cs ← dateWordBehind '.' start cs
  let cs ← dateWordBehind '+' start cs
  dateWordBehind ':' start cs

def readDate (start : List Char) (colon : Bool) (rest : List Char) :
    Except Fault (Expr × List Char) := do
  let rest := skipSpacedWord rest
  let (hasTime, rest) ← if colon then pure (true, rest) else eat (.sign ':') rest
  let rest ← if hasTime then dateTail start rest else pure rest
  let written := start.take (start.length - rest.length)
  return (.date (byteLength start) (String.ofList written), rest)

def readKey (cs : List Char) : Except Fault (String × List Char) := do
  match ← readToken cs with
  | (some (.word key), rest) => return (key, rest)
  | (some (.text key multiline), rest) =>
    if multiline then faultAt cs .multilineKey else return (key, rest)
  | (found, _) => faultAt cs (.wanted "a table key" (describe found))

def readKeys : Nat → List Char → Except Fault ((List String) × List Char)
  | 0, cs => faultAt cs .unexpectedEnd
  | steps + 1, cs => do
    let (key, cs) ← readKey cs
    let cs := skipBlanks cs
    match ← eat (.sign '.') cs with
    | (true, cs) =>
      let (keys, cs) ← readKeys steps (skipBlanks cs)
      return (key :: keys, cs)
    | (false, cs) => return ([key], cs)

def putField (key : String) (value : Expr) : List (String × Expr) → List (String × Expr)
  | [] => [(key, value)]
  | (k, v) :: rest => if k = key then (key, value) :: rest else (k, v) :: putField key value rest

/-- Puts a value under keys that lead from table to table. Only tables that such keys have made can be
extended. -/
def addField (value : Expr) : List String → List (String × Expr) →
    Except Fault (List (String × Expr))
  | [], fields => .ok fields
  | [key], fields => .ok (fields ++ [(key, value)])
  | key :: keys, fields =>
    match fields.lookup key with
    | none =>
      (addField value keys []).map fun inner => fields ++ [(key, .table value.left true inner)]
    | some (.table left true inner) =>
      (addField value keys inner).map fun inner => putField key (.table left true inner) fields
    | some other => faultLeft other.left .extendsNoTable

def skipLines : Nat → List Char → Except Fault (List Char)
  | 0, cs => .ok cs
  | steps + 1, cs =>
    match skipBlanks cs with
    | '\n' :: rest => skipLines steps rest
    | '#' :: rest => (eatComment ('#' :: rest)).bind fun (_, rest) => skipLines steps rest
    | rest => .ok rest

def readItems (item : List Char → Reading Expr) :
    Nat → List Char → Except Fault ((List Expr) × List Char)
  | 0, cs => faultAt cs .unexpectedEnd
  | steps + 1, cs => do
    let cs ← skipLines (cs.length + 1) cs
    match ← eat (.sign ']') cs with
    | (true, rest) => return ([], rest)
    | (false, cs) =>
      let (value, cs) ← item cs
      let cs ← skipLines (cs.length + 1) cs
      match ← eat (.sign ',') cs with
      | (true, rest) =>
        let (more, rest) ← readItems item steps rest
        return (value :: more, rest)
      | (false, cs) =>
        let ((), rest) ← expect (.sign ']') cs
        return ([value], rest)

def readAssignment (item : List Char → Reading Expr) (cs : List Char) :
    Except Fault ((List String × Expr) × List Char) := do
  let (keys, cs) ← readKeys (cs.length + 1) cs
  let ((), cs) ← expect (.sign '=') (skipBlanks cs)
  let (value, cs) ← item (skipBlanks cs)
  return ((keys, value), cs)

def readFields (item : List Char → Reading Expr) (fields : List (String × Expr)) :
    Nat → List Char → Except Fault ((List (String × Expr)) × List Char)
  | 0, cs => faultAt cs .unexpectedEnd
  | steps + 1, cs => do
    let ((keys, value), cs) ← readAssignment item cs
    let fields ← addField value keys fields
    let cs := skipBlanks cs
    match ← eat (.sign '\x7d') cs with
    | (true, rest) => return (fields, rest)
    | (false, cs) =>
      let ((), cs) ← expect (.sign ',') cs
      readFields item fields steps (skipBlanks cs)

def readNumberOrDate (start : List Char) (word : String) (rest : List Char) :
    Except Fault (Expr × List Char) := do
  if looksLikeDate word.toList then readDate start false rest
  else match ← eat (.sign ':') rest with
    | (true, rest) => readDate start true rest
    | (false, _) => readNumber (byteLength start) start word rest

def readWord (start : List Char) (word : String) (rest : List Char) :
    Except Fault (Expr × List Char) :=
  let plain (value : Value) : Expr := .plain (byteLength start) value
  match word with
  | "true" => .ok (plain (.bool true), rest)
  | "false" => .ok (plain (.bool false), rest)
  | "inf" | "nan" => readNumberOrDate start word rest
  | _ =>
    if word.toList.head?.any fun c => c = '-' || c.isDigit then readNumberOrDate start word rest
    else faultAt start .unquotedText

def readValue : Nat → List Char → Except Fault (Expr × List Char)
  | 0, cs => faultAt cs .unexpectedEnd
  | depth + 1, cs => do
    let left := byteLength cs
    match ← readToken cs with
    | (some (.text value _), rest) => return (.plain left (.text value), rest)
    | (some (.word word), rest) => readWord cs word rest
    | (some (.sign '+'), rest) =>
      match ← readToken rest with
      | (some (.word word), more) => readNumber left rest word more
      | _ => faultAt rest .invalidNumber
    | (some (.sign '['), rest) =>
      let (items, rest) ← readItems (readValue depth) (rest.length + 1) rest
      return (.list left items, rest)
    | (some (.sign '\x7b'), rest) =>
      match ← eat (.sign '\x7d') (skipBlanks rest) with
      | (true, rest) => return (.table left false [], rest)
      | (false, rest) =>
        let (fields, rest) ← readFields (readValue depth) [] (rest.length + 1) rest
        return (.table left false fields, rest)
    | (some token, _) => faultAt cs (.wanted "a value" token.describe)
    | (none, _) => faultAt cs .unexpectedEnd

end CorpusTally.Toml
