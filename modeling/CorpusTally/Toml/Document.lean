import CorpusTally.Toml.Section

/-!
TOML documents: the table that the sections of a text make together. The section of a table may come
before or behind those of the tables in it; no table has two.
-/

namespace CorpusTally.Toml

/-- A fault with its place; lines and columns are counted from one, columns in bytes. -/
structure Error where
  cause : Cause
  keys : List String
  line : Nat
  column : Nat

def Error.message (e : Error) : String :=
  let keys := ".".intercalate e.keys
  let forKey := if e.keys = [] then "" else s!" for key \x60{keys}\x60"
  s!"{e.cause.message}{forKey} at line {e.line} column {e.column}"

def placeOf (offset : Nat) : Nat → List (List Char) → Nat × Nat
  | line, [] => (line, 1)
  | line, [[]] => (line, 1)
  | line, text :: rest =>
    if offset ≤ byteLength text then (line, offset + 1)
    else placeOf (offset - byteLength text - 1) (line + 1) rest

/-- Where the making of a table stands: how many keys lead to it, the number of a section whose keys
begin with these, the section to look at next, and the one at which the table ends. -/
structure Scope where
  depth : Nat
  home : Nat
  next : Nat := 0
  stop : Nat

structure Draft where
  fields : Fields := []
  used : List Nat

namespace Draft

def has (d : Draft) (key : String) : Bool := (d.fields.lookup key).isSome

def put (d : Draft) (key : String) (value : Value) : Draft :=
  { d with fields := d.fields ++ [(key, value)] }

end Draft

structure Sections where
  all : Array Section

namespace Sections

def get (s : Sections) (n : Nat) : Section := s.all.getD n { left := 0 }

/-- A key that is there twice is reported at the last section. -/
def duplicate {α : Type} (s : Sections) (key : String) : Except Fault α :=
  faultLeft (s.get (s.all.size - 1)).left (.duplicateKey key)

def findFrom? (s : Sections) (start stop : Nat) (holds : Nat → Section → Bool) : Option Nat :=
  (List.range' start (stop - start)).find? fun n => holds n (s.get n)

def nextSection? (s : Sections) (scope : Scope) (used : List Nat) : Option Nat :=
  let keys := (s.get scope.home).keys.take scope.depth
  s.findFrom? scope.next scope.stop fun n found =>
    keys.isPrefixOf found.keys && !used.contains n

def nextItem (s : Sections) (scope : Scope) : Nat :=
  let home := s.get scope.home
  (s.findFrom? (scope.home + 1) scope.stop fun _ found =>
    found.keys = home.keys && found.repeats).getD scope.stop

def addFields (s : Sections) (d : Draft) : List (String × Expr) → Except Fault Draft
  | [] => .ok d
  | (key, expr) :: rest => do
    if d.has key then s.duplicate key
    let value ← expr.value.mapError (·.under key)
    s.addFields (d.put key value) rest

def useFields (s : Sections) (d : Draft) (n : Nat) : Except Fault Draft :=
  s.addFields { d with used := n :: d.used } (s.get n).fields

mutual

def makeTable (s : Sections) (scope : Scope) (d : Draft) : Nat → Except Fault Draft
  | 0 => .ok d
  | steps + 1 => do
    if scope.home = scope.stop || scope.next = scope.stop then return d
    match s.nextSection? scope d.used with
    | none => return d
    | some n =>
      let found := s.get n
      let home := s.get scope.home
      if n ≠ scope.home && found.keys = home.keys then
        faultLeft found.left (.redefinedTable found.name)
      let nearer := if found.keys.length < home.keys.length then n else scope.home
      match found.keys.drop scope.depth with
      | [] =>
        if found.repeats then faultLeft found.left .redefinedAsArray
        let d ← s.useFields d n
        s.makeTable { scope with home := nearer, next := n } d steps
      | key :: deeper =>
        if d.has key then s.duplicate key
        let (value, used) ←
          (s.makeInner { scope with home := n, next := 0 } (found.repeats && deeper = []) d.used
            steps).mapError (·.under key)
        s.makeTable { scope with home := nearer, next := n + 1 } { d.put key value with used } steps

def makeInner (s : Sections) (scope : Scope) (isList : Bool) (used : List Nat) :
    Nat → Except Fault (Value × List Nat)
  | 0 => .ok (.table [], used)
  | steps + 1 => do
    if isList then
      let (items, used) ← s.makeList scope used steps
      return (.list items, used)
    else
      let d ← s.makeTable { scope with depth := scope.depth + 1 } { used } steps
      return (.table d.fields, d.used)

def makeList (s : Sections) (scope : Scope) (used : List Nat) :
    Nat → Except Fault (List Value × List Nat)
  | 0 => .ok ([], used)
  | steps + 1 => do
    if scope.home = scope.stop then return ([], used)
    let next := s.nextItem scope
    let d ← s.useFields { used } scope.home
    let d ← s.makeTable { scope with depth := scope.depth + 1, next := 0, stop := next } d steps
    let (items, used) ← s.makeList { scope with home := next } d.used steps
    return (.table d.fields :: items, used)

end

/-- Each level of keys takes three steps for each section at most. -/
def stepBound (s : Sections) : Nat :=
  let deepest := s.all.foldl (fun n found => max n found.keys.length) 0
  (3 * s.all.size + 6) * (deepest + 2)

def table (s : Sections) : Except Fault Fields := do
  let d ← s.makeTable { depth := 0, home := 0, stop := s.all.size } { used := [] } s.stepBound
  return d.fields

end Sections

def foldBreaks : List Char → List Char
  | '\r' :: '\n' :: rest => '\n' :: foldBreaks rest
  | c :: rest => c :: foldBreaks rest
  | [] => []

def splitLines (cs : List Char) : List (List Char) :=
  cs.foldr (fun c lines =>
    if c = '\n' then [] :: lines
    else match lines with
      | [] => [[c]]
      | line :: rest => (c :: line) :: rest) [[]]

def read (text : String) : Except Error Fields :=
  let cs := foldBreaks text.toList
  let fields := do
    let sections ← readSections cs
    (Sections.mk sections.toArray).table
  fields.mapError fun e =>
    let (line, column) := placeOf (byteLength cs - e.bytesLeft) 1 (splitLines cs)
    ⟨e.cause, e.keys, line, column⟩

end CorpusTally.Toml
