import CorpusTally.Json5.Miss
import CorpusTally.Numeral
import CorpusTally.Unicode.Letter
import CorpusTally.Unicode.NameMark

/-!
JSON5 as it is written. A value is tried as each kind in turn, and every part that is not found is noted;
numbers and texts are kept as they stand.
-/

namespace CorpusTally.Json5

/-- A character of a text, or a code of four digits that stands for one or for a half of one. The digits
or characters that spell it are kept. -/
inductive Piece where
  | char (value : Char) (spelling : List Char)
  | code (spelling : List Char)

inductive Expr where
  | null
  | bool (value : Bool)
  | number (text : List Char)
  | text (pieces : List Piece)
  | list (items : List Expr)
  | table (fields : List (List Piece × Expr))

/-- Reads a part or fails; what is missed is noted in both cases. -/
abbrev Attempt (α : Type) := OptionT (StateM Misses) α

def fail {α : Type} : Attempt α := OptionT.fail

def miss {α : Type} (part : Part) (at_ : Input) : Attempt α := do
  modify (·.add part at_.offset)
  fail

def found {α : Type} (part : Part) (at_ : Input) : Option α → Attempt α
  | some value => pure value
  | none => miss part at_

def within {α : Type} (part : Part) (at_ : Input) (read : Attempt α) : Attempt α :=
  read <|> miss part at_

def eat (sign : Char) (at_ : Input) : Attempt Input :=
  if at_.rest.head? = some sign then pure (at_.skip 1) else fail

def isLineTerminator (c : Char) : Bool :=
  isLineEnd c || c = '\u2028' || c = '\u2029'

def spaceRanges : Unicode.Ranges := [
  (0x9, 0x9), (0xb, 0xc), (0x20, 0x20), (0xa0, 0xa0), (0x1680, 0x1680), (0x2000, 0x200a),
  (0x202f, 0x202f), (0x205f, 0x205f), (0x3000, 0x3000), (0xfeff, 0xfeff)]

def isSpace (c : Char) : Bool := isLineTerminator c || spaceRanges.contains c.toNat

def commentEnd? (count : Nat) : List Char → Option (Nat × List Char)
  | '*' :: '/' :: rest => some (count + 2, rest)
  | _ :: rest => commentEnd? (count + 1) rest
  | [] => none

def comment? : List Char → Option Nat
  | '/' :: '*' :: rest => (commentEnd? 2 rest).map (·.1)
  | '/' :: '/' :: rest => some (2 + (rest.takeWhile fun c => !isLineTerminator c).length)
  | _ => none

def skipSpaceFrom (at_ : Input) : Nat → Input
  | 0 => at_
  | steps + 1 =>
    let at_ := at_.skip (at_.rest.takeWhile isSpace).length
    match comment? at_.rest with
    | some length => skipSpaceFrom (at_.skip length) steps
    | none => at_

def skipSpace (at_ : Input) : Input := skipSpaceFrom at_ (at_.rest.length + 1)

def word? (at_ : Input) (text : String) : Option Input :=
  if at_.startsWith text then some (at_.skip text.length) else none

def digits (cs : List Char) : List Char := cs.takeWhile Char.isDigit

def isHexDigit (c : Char) : Bool := (Numeral.digit? 16 c).isSome

def exponentLength (cs : List Char) : Nat :=
  match cs with
  | e :: rest =>
    let signs := if rest.head?.any fun c => c = '+' || c = '-' then 1 else 0
    let size := (digits (rest.drop signs)).length
    if (e = 'e' || e = 'E') && size > 0 then 1 + signs + size else 0
  | [] => 0

/-- The length of digits of which the first one is zero only if it is alone. -/
def wholeLength (cs : List Char) : Nat :=
  if cs.head? = some '0' then 1 else (digits cs).length

def decimalLength? (cs : List Char) : Option Nat :=
  let whole := wholeLength cs
  let exponentBehind (length : Nat) := length + exponentLength (cs.drop length)
  if cs[whole]? = some '.' then
    let fraction := (digits (cs.drop (whole + 1))).length
    if whole + fraction > 0 then some (exponentBehind (whole + 1 + fraction)) else none
  else if whole > 0 then some (exponentBehind whole)
  else none

def hexLength? (cs : List Char) : Option Nat :=
  match cs with
  | '0' :: x :: rest =>
    let size := (rest.takeWhile isHexDigit).length
    if (x = 'x' || x = 'X') && size > 0 then some (2 + size) else none
  | _ => none

def unsignedLength? (cs : List Char) : Option Nat :=
  let named (name : String) := if name.toList.isPrefixOf cs then some name.length else none
  (hexLength? cs).or <| (decimalLength? cs).or <| (named "Infinity").or (named "NaN")

def number? (at_ : Input) : Option (List Char × Input) :=
  let signs := if at_.rest.head?.any fun c => c = '+' || c = '-' then 1 else 0
  (unsignedLength? (at_.rest.drop signs)).map fun length =>
    (at_.rest.take (signs + length), at_.skip (signs + length))

def hexDigits? (count : Nat) (at_ : Input) : Option (List Char × Input) :=
  let found := at_.rest.take count
  if found.length = count && found.all isHexDigit then some (found, at_.skip count) else none

def escapedChar (c : Char) : Char :=
  match c with
  | 'b' => '\x08'
  | 'f' => '\x0c'
  | 'n' => '\n'
  | 'r' => '\r'
  | 't' => '\t'
  | 'v' => '\x0b'
  | c => c

def charEscape? (at_ : Input) : Option (Piece × Input) :=
  match at_.rest with
  | c :: _ =>
    if c.isDigit || c = 'x' || c = 'u' || isLineTerminator c then none
    else some (.char (escapedChar c) [c], at_.skip 1)
  | [] => none

def nulEscape? (at_ : Input) : Option (Piece × Input) :=
  (word? at_ "0").map fun behind => (.char '\x00' ['0'], behind)

def readUnicode (at_ : Input) : Attempt (Piece × Input) := do
  let (spelling, behind) ← found .unicodeEscape at_ (hexDigits? 4 at_)
  return (.code spelling, behind)

def readHex (at_ : Input) : Attempt (Piece × Input) := do
  let (spelling, behind) ← found .hexEscape at_ (hexDigits? 2 at_)
  let value := spelling.foldl (fun n c => n * 16 + (Numeral.digit? 16 c).getD 0) 0
  return (.char (Char.ofNat value) spelling, behind)

def readEscape (at_ : Input) : Attempt (Piece × Input) :=
  found .charEscape at_ (charEscape? at_)
    <|> found .nulEscape at_ (nulEscape? at_)
    <|> (eat 'x' at_ >>= readHex)
    <|> (eat 'u' at_ >>= readUnicode)

def breakLength? : List Char → Option Nat
  | '\r' :: '\n' :: _ => some 2
  | c :: _ => if isLineTerminator c then some 1 else none
  | [] => none

def charLiteral? (at_ : Input) : Option (Piece × Input) :=
  match at_.rest with
  | c :: _ =>
    if c = '\\' || isLineTerminator c then none else some (.char c [c], at_.skip 1)
  | [] => none

/-- A piece of a text, or an escaped line break, which is none. -/
def readPiece (quote : Char) (at_ : Input) : Attempt (List Piece × Input) :=
  let escape : Attempt (List Piece × Input) := do
    let (piece, behind) ← eat '\\' at_ >>= readEscape
    return ([piece], behind)
  let joint : Attempt (List Piece × Input) := do
    let behind ← eat '\\' at_
    match breakLength? behind.rest with
    | some length => return ([], behind.skip length)
    | none => fail
  let plain : Attempt (List Piece × Input) := do
    if at_.rest.head? = some quote then fail
    let (piece, behind) ← found .charLiteral at_ (charLiteral? at_)
    return ([piece], behind)
  escape <|> joint <|> plain

def readPieces (quote : Char) (done : List Piece) (at_ : Input) : Nat → Attempt (List Piece × Input)
  | 0 => pure (done.reverse, at_)
  | steps + 1 => do
    match ← optional (readPiece quote at_) with
    | some (pieces, behind) => readPieces quote (pieces.reverse ++ done) behind steps
    | none => return (done.reverse, at_)

def readString (at_ : Input) : Attempt (List Piece × Input) :=
  let quoted (quote : Char) : Attempt (List Piece × Input) := do
    let behind ← eat quote at_
    let (pieces, last) ← readPieces quote [] behind (behind.rest.length + 1)
    return (pieces, ← eat quote last)
  within .string at_ (quoted '"' <|> quoted '\'')

def isNameStart (c : Char) : Bool := c = '$' || c = '_' || Unicode.isLetter c

def isNameChar (c : Char) : Bool :=
  isNameStart c || Unicode.isNameMark c || c = '\u200C' || c = '\u200D'

def readNameChar (isChar : Char → Bool) (at_ : Input) : Attempt (Piece × Input) :=
  match at_.rest with
  | '\\' :: 'u' :: _ => readUnicode (at_.skip 2)
  | c :: _ => if isChar c then pure (.char c [c], at_.skip 1) else fail
  | [] => fail

def readNameRest (done : List Piece) (at_ : Input) : Nat → Attempt (List Piece × Input)
  | 0 => pure (done.reverse, at_)
  | steps + 1 => do
    match ← optional (readNameChar isNameChar at_) with
    | some (piece, behind) => readNameRest (piece :: done) behind steps
    | none => return (done.reverse, at_)

def readIdentifier (at_ : Input) : Attempt (List Piece × Input) :=
  within .identifier at_ do
    let (first, behind) ← readNameChar isNameStart at_
    readNameRest [first] behind (behind.rest.length + 1)

def readKey (at_ : Input) : Attempt (List Piece × Input) := readIdentifier at_ <|> readString at_

def readMore {α : Type} (item : Input → Attempt (α × Input)) (done : List α) (at_ : Input) :
    Nat → Attempt (List α × Input)
  | 0 => pure (done.reverse, at_)
  | steps + 1 => do
    match ← optional (eat ',' (skipSpace at_) >>= fun behind => item (skipSpace behind)) with
    | some (value, behind) => readMore item (value :: done) behind steps
    | none => return (done.reverse, at_)

def readItems {α : Type} (open_ close : Char) (item : Input → Attempt (α × Input)) (at_ : Input) :
    Attempt (List α × Input) := do
  let inside := skipSpace (← eat open_ at_)
  let empty : Attempt (List α × Input) := return ([], ← eat close inside)
  let filled : Attempt (List α × Input) := do
    let (first, behind) ← item inside
    let (items, last) ← readMore item [first] behind (behind.rest.length + 1)
    let last := skipSpace last
    let last := ((← optional (eat ',' last)).map skipSpace).getD last
    return (items, ← eat close last)
  empty <|> filled

def readPair (value : Input → Attempt (Expr × Input)) (at_ : Input) :
    Attempt ((List Piece × Expr) × Input) := do
  let (key, behind) ← readKey at_
  let behind ← eat ':' (skipSpace behind)
  let (expr, last) ← value (skipSpace behind)
  return ((key, expr), last)

def readValue (at_ : Input) : Nat → Attempt (Expr × Input)
  | 0 => fail
  | depth + 1 =>
    let value (at_ : Input) := readValue at_ depth
    let null := (word? at_ "null").map fun behind => (Expr.null, behind)
    let bool (text : String) (b : Bool) :=
      (word? at_ text).map fun behind => (Expr.bool b, behind)
    let number := (number? at_).map fun (text, behind) => (Expr.number text, behind)
    let string : Attempt (Expr × Input) := do
      let (pieces, behind) ← readString at_
      return (.text pieces, behind)
    let object : Attempt (Expr × Input) := within .object at_ do
      let (fields, behind) ← readItems '\x7b' '\x7d' (readPair value) at_
      return (.table fields, behind)
    let array : Attempt (Expr × Input) := within .array at_ do
      let (items, behind) ← readItems '[' ']' value at_
      return (.list items, behind)
    found .null at_ null
      <|> found .boolean at_ ((bool "true" true).or (bool "false" false))
      <|> string
      <|> found .number at_ number
      <|> object
      <|> array

def readDocument (cs : List Char) : Attempt Expr := do
  let (expr, behind) ← readValue (skipSpace { rest := cs }) (cs.length + 1)
  let last := skipSpace behind
  if last.rest = [] then return expr else miss .endOfText last

def Expr.ofText (text : String) : Except Picture Expr :=
  let cs := text.toList
  match (readDocument cs).run {} with
  | (some expr, _) => .ok expr
  | (none, misses) => .error (.ofMisses cs misses)

end CorpusTally.Json5
