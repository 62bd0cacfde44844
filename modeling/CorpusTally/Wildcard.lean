/-!
Wildcard patterns for whole paths. A question mark stands for any character, a star for any text, also
across slashes; two stars, alone between slashes, stand for any directories; brackets list characters.
-/

namespace CorpusTally

namespace Wildcard

inductive CharClass where
  | single (c : Char)
  | range (first last : Char)
  deriving DecidableEq

def CharClass.has (c : Char) : CharClass → Bool
  | .single d => c = d
  | .range first last => first ≤ c && c ≤ last

inductive Token where
  | literal (c : Char)
  | anyChar
  | anyText
  | anyDirectories
  | oneOf (classes : List CharClass)
  | noneOf (classes : List CharClass)
  deriving DecidableEq

inductive Fault where
  | tooManyStars
  | starsInComponent
  | badBrackets

def Fault.message : Fault → String
  | .tooManyStars => "wildcards are either regular `*` or recursive `**`"
  | .starsInComponent => "recursive wildcards must form a single path component"
  | .badBrackets => "invalid range pattern"

structure Error where
  position : Nat
  fault : Fault

def Error.message (e : Error) : String :=
  s!"Pattern syntax error near position {e.position}: {e.fault.message}"

def classes : List Char → List CharClass
  | first :: '-' :: last :: rest => .range first last :: classes rest
  | c :: rest => .single c :: classes rest
  | [] => []

/-- The characters up to the closing bracket; a bracket in first place is one of them. Given with the
number of characters read. -/
def bracketed? : List Char → Option (List Char × Nat)
  | [] => none
  | first :: rest =>
    if rest.contains ']' then
      let listed := first :: rest.takeWhile (· ≠ ']')
      some (listed, listed.length + 1)
    else none

def bracketToken? : List Char → Option (Token × Nat)
  | '!' :: rest => (bracketed? rest).map fun found => (.noneOf (classes found.1), found.2 + 1)
  | rest => (bracketed? rest).map fun found => (.oneOf (classes found.1), found.2)

/-- A pattern that is read in part: its tokens, last one first, the characters read, the last of them,
and how many of the next ones are read already. -/
structure Reader where
  done : List Token := []
  position : Nat := 0
  previous? : Option Char := none
  skip : Nat := 0

def Reader.pass (r : Reader) (c : Char) : Reader :=
  { r with position := r.position + 1, previous? := some c }

def Reader.emit (r : Reader) (token : Token) (skip : Nat) : Reader :=
  { r with done := token :: r.done, skip := skip }

/-- Directories follow directories only at the start of a pattern. -/
def Reader.emitDirectories (r : Reader) (skip : Nat) : Reader :=
  match r.done with
  | .anyDirectories :: _ :: _ => { r with skip := skip }
  | _ => r.emit .anyDirectories skip

def Reader.stars (r : Reader) (rest : List Char) : Except Error Reader :=
  let more := (rest.takeWhile (· = '*')).length
  let startsComponent := r.previous? = none || r.previous? = some '/'
  if more = 0 then .ok (r.emit .anyText 0)
  else if more > 1 then .error ⟨r.position + 2, .tooManyStars⟩
  else if !startsComponent then .error ⟨r.position - 1, .starsInComponent⟩
  else match rest.drop 1 with
    | [] => .ok (r.emitDirectories 1)
    | '/' :: _ => .ok (r.emitDirectories 2)
    | _ => .error ⟨r.position + 2, .starsInComponent⟩

def Reader.step (r : Reader) (c : Char) (rest : List Char) : Except Error Reader :=
  match c with
  | '?' => .ok (r.emit .anyChar 0)
  | '*' => r.stars rest
  | '[' =>
    match bracketToken? rest with
    | some (token, length) => .ok (r.emit token length)
    | none => .error ⟨r.position, .badBrackets⟩
  | c => .ok (r.emit (.literal c) 0)

def Reader.run (r : Reader) : List Char → Except Error (List Token)
  | [] => .ok r.done.reverse
  | c :: rest =>
    match r.skip with
    | n + 1 => ({ r with skip := n }.pass c).run rest
    | 0 =>
      match r.step c rest with
      | .error e => .error e
      | .ok next => (next.pass c).run rest

def parse (pattern : String) : Except Error (List Token) := Reader.run {} pattern.toList

/-- How a match ends. When the text is too short, no later start of an earlier part can help. -/
inductive Verdict where
  | matched
  | mismatch
  | tooShort
  deriving DecidableEq

def tryAll (next : List Char → Verdict) : List Char → Verdict
  | [] => next []
  | c :: rest =>
    match next (c :: rest) with
    | .mismatch => tryAll next rest
    | settled => settled

def tryDirectories (next : List Char → Verdict) : List Char → Verdict
  | [] => next []
  | c :: rest =>
    if c = '/' then
      match next rest with
      | .mismatch => tryDirectories next rest
      | settled => settled
    else tryDirectories next rest

def Token.takes (c : Char) : Token → Bool
  | .literal d => c = d
  | .anyChar | .anyText | .anyDirectories => true
  | .oneOf listed => listed.any (·.has c)
  | .noneOf listed => !listed.any (·.has c)

def run : List Token → List Char → Verdict
  | [], [] => .matched
  | [], _ :: _ => .mismatch
  | .anyText :: tokens, cs => tryAll (run tokens) cs
  | .anyDirectories :: tokens, cs =>
    match run tokens cs with
    | .mismatch => tryDirectories (run tokens) cs
    | settled => settled
  | _ :: _, [] => .tooShort
  | token :: tokens, c :: rest => if token.takes c then run tokens rest else .mismatch

def isMatch (tokens : List Token) (text : String) : Bool := run tokens text.toList = .matched

end Wildcard

end CorpusTally
