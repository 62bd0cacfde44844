import CorpusTally.Utf8

/-!
The patterns of ignore files. They are matched against the bytes of a relative path; a star and a
question mark stop at slashes, two stars between slashes stand for any directories, and braces list
alternatives.
-/

namespace CorpusTally.IgnoreFile

open Utf8 (Bytes)

namespace Glob

def slash : UInt8 := 47

inductive Token where
  | byte (b : UInt8)
  | anyInName
  | textInName
  | leadingDirectories
  | innerDirectories
  | deeper
  | byteClass (negated : Bool) (ranges : List (UInt8 × UInt8))
  | alternatives (branches : List (List Token))

/-- A group of alternatives that is open: the branches that are finished and the tokens of the current
one, last ones first. -/
structure Group where
  branches : List (List Token) := []
  tokens : List Token := []

def Group.finish (g : Group) : List (List Token) := (g.tokens.reverse :: g.branches).reverse

/-- A pattern that is read in part: the innermost group, those around it, the last character, and how
many of the next characters are read already. Once a bracket has no end, the brackets behind it are
plain characters as well. -/
structure Reader where
  group : Group := {}
  outer : List Group := []
  previous? : Option Char := none
  skip : Nat := 0
  bracketsPlain : Bool := false

def Reader.emit (r : Reader) (tokens : List Token) (skip : Nat) : Reader :=
  { r with group := { r.group with tokens := tokens.reverse ++ r.group.tokens }, skip := skip }

def literal (c : Char) : List Token := (String.utf8EncodeChar c).map .byte

def Reader.inBraces (r : Reader) : Bool := !r.outer.isEmpty

def Reader.replaceLast (r : Reader) (token : Token) (skip : Nat) : Reader :=
  let kept : Token := match r.group.tokens with
    | .leadingDirectories :: _ => .leadingDirectories
    | .deeper :: _ => .deeper
    | _ => token
  { r with group := { r.group with tokens := kept :: r.group.tokens.drop 1 }, skip := skip }

def Reader.twoStars (r : Reader) (rest : List Char) : Reader :=
  let plain := r.emit [.textInName, .textInName] 1
  if r.group.tokens.isEmpty then
    match rest with
    | [] => r.emit [.leadingDirectories] 1
    | '/' :: _ => r.emit [.leadingDirectories] 2
    | _ => plain
  else if r.previous? ≠ some '/' &&
      !(r.inBraces && (r.previous? = some ',' || r.previous? = some '{')) then plain
  else match rest with
    | [] => r.replaceLast .deeper 1
    | '/' :: _ => r.replaceLast .innerDirectories 2
    | c :: _ => if r.inBraces && (c = ',' || c = '}') then r.replaceLast .deeper 1 else plain

structure ClassReader where
  ranges : List (Char × Char) := []
  first : Bool := true
  inRange : Bool := false

inductive ClassFault where
  | unclosed
  | reversedRange

def ClassReader.push (k : ClassReader) (c : Char) : Except ClassFault ClassReader :=
  match k.inRange, k.ranges with
  | true, (low, _) :: more =>
    if c < low then .error .reversedRange else .ok { ranges := (low, c) :: more, first := false }
  | _, ranges => .ok { ranges := (c, c) :: ranges, first := false }

def ClassReader.run (k : ClassReader) (length : Nat) :
    List Char → Except ClassFault (List (Char × Char) × Nat)
  | [] => .error .unclosed
  | c :: rest =>
    if c = ']' && !k.first then
      .ok ((if k.inRange then ('-', '-') :: k.ranges else k.ranges).reverse, length + 1)
    else if c = '-' && !k.first && !k.inRange then
      ({ k with inRange := true } : ClassReader).run (length + 1) rest
    else (k.push c).bind fun next => next.run (length + 1) rest

/-- A range of characters as ranges of bytes, where a character of several bytes is several bytes. -/
def byteRanges (range : Char × Char) : List (UInt8 × UInt8) :=
  let single (b : UInt8) := (b, b)
  let low := String.utf8EncodeChar range.1
  let high := String.utf8EncodeChar range.2
  if range.1 = range.2 then low.map single
  else low.dropLast.map single ++ [(low.getLastD 0, high.headD 0)] ++ (high.drop 1).map single

def readClass (rest : List Char) : Except ClassFault (Token × Nat) :=
  let negated := rest.head? = some '!' || rest.head? = some '^'
  let start := if negated then 1 else 0
  (ClassReader.run {} start (rest.drop start)).map fun found =>
    (.byteClass negated (found.1.flatMap byteRanges), found.2)

def Reader.openBrace (r : Reader) : Reader :=
  { r with group := {}, outer := r.group :: r.outer, skip := 0 }

def Reader.closeBrace? (r : Reader) : Option Reader :=
  match r.outer with
  | [] => none
  | around :: outer =>
    some { r with
      group := { around with tokens := .alternatives r.group.finish :: around.tokens }
      outer := outer
      skip := 0 }

def Reader.comma (r : Reader) : Reader :=
  if r.inBraces then
    { r with group := { branches := r.group.tokens.reverse :: r.group.branches }, skip := 0 }
  else r.emit (literal ',') 0

/-- A class, or a plain bracket if the class does not end. -/
def Reader.openBracket? (r : Reader) (rest : List Char) : Option Reader :=
  if r.bracketsPlain then some (r.emit (literal '[') 0)
  else match readClass rest with
    | .ok (token, used) => some (r.emit [token] used)
    | .error .unclosed => some ({ r with bracketsPlain := true }.emit (literal '[') 0)
    | .error .reversedRange => none

def Reader.step (r : Reader) (c : Char) (rest : List Char) : Option Reader :=
  match c with
  | '?' => some (r.emit [.anyInName] 0)
  | '*' =>
    match rest with
    | '*' :: more => some (r.twoStars more)
    | _ => some (r.emit [.textInName] 0)
  | '[' => r.openBracket? rest
  | '{' => some r.openBrace
  | '}' => r.closeBrace?
  | ',' => some r.comma
  | '\\' =>
    match rest with
    | escaped :: _ => some (r.emit (literal escaped) 1)
    | [] => none
  | c => some (r.emit (literal c) 0)

def Reader.run (r : Reader) : List Char → Option (List Token)
  | [] => if r.inBraces then none else some r.group.tokens.reverse
  | c :: rest =>
    match r.skip with
    | n + 1 => { r with skip := n, previous? := some c : Reader }.run rest
    | 0 => (r.step c rest).bind fun next => { next with previous? := some c : Reader }.run rest

def parse? (pattern : String) : Option (List Token) := Reader.run {} pattern.toList

def afterSlashes : Bytes → List Bytes
  | [] => []
  | b :: rest => if b = slash then rest :: afterSlashes rest else afterSlashes rest

def withinName : Bytes → List Bytes
  | [] => [[]]
  | b :: rest => if b = slash then [b :: rest] else (b :: rest) :: withinName rest

def suffixes : Bytes → List Bytes
  | [] => [[]]
  | b :: rest => (b :: rest) :: suffixes rest

def inRanges (ranges : List (UInt8 × UInt8)) (b : UInt8) : Bool :=
  ranges.any fun range => range.1 ≤ b && b ≤ range.2

def takeByte (accepts : UInt8 → Bool) : Bytes → List Bytes
  | [] => []
  | b :: rest => if accepts b then [rest] else []

mutual

def Token.rests (bytes : Bytes) : Token → List Bytes
  | .byte b => takeByte (· = b) bytes
  | .anyInName => takeByte (· ≠ slash) bytes
  | .textInName => withinName bytes
  | .leadingDirectories => bytes :: afterSlashes bytes
  | .innerDirectories => (takeByte (· = slash) bytes).flatMap fun rest => rest :: afterSlashes rest
  | .deeper => (takeByte (· = slash) bytes).flatMap suffixes
  | .byteClass negated ranges => takeByte (fun b => inRanges ranges b != negated) bytes
  | .alternatives branches =>
    if allEmpty branches then [bytes] else (branchRests bytes branches).eraseDups

def seqRests (bytes : Bytes) : List Token → List Bytes
  | [] => [bytes]
  | token :: tokens =>
    ((token.rests bytes).flatMap fun rest => seqRests rest tokens).eraseDups

/-- What can be left after one of the branches; a branch that says nothing is no choice. -/
def branchRests (bytes : Bytes) : List (List Token) → List Bytes
  | [] => []
  | branch :: branches =>
    (if saysNothing branch then [] else seqRests bytes branch) ++ branchRests bytes branches

def saysNothing : List Token → Bool
  | [] => true
  | .alternatives branches :: tokens => allEmpty branches && saysNothing tokens
  | _ :: _ => false

def allEmpty : List (List Token) → Bool
  | [] => true
  | branch :: branches => saysNothing branch && allEmpty branches

end

/-- Two stars alone match everything; any other pattern has to use up the path. -/
def isMatch (tokens : List Token) (path : Bytes) : Bool :=
  match tokens with
  | [.leadingDirectories] => true
  | _ => (seqRests path tokens).contains []

end Glob

end CorpusTally.IgnoreFile
