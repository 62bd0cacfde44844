import CorpusTally.Toml.Expr

/-!
The lines of a TOML text as sections: the fields before the first header, and each header with the fields
below it.
-/

namespace CorpusTally.Toml

/-- A section, where it starts, and the keys of its header, which may stand for one more of a list of
tables. -/
structure Section where
  left : Nat
  keys : List String := []
  repeats : Bool := false
  fields : List (String × Expr) := []

namespace Section

def name (s : Section) : String := ".".intercalate s.keys

/-- A section without a header counts only if it has fields. -/
def isGiven (s : Section) : Bool := s.keys ≠ [] || !s.fields.isEmpty

end Section

def readHeader (start : List Char) : Except Fault (Section × List Char) := do
  let ((), cs) ← expect (.sign '[') start
  let (repeats, cs) ← eat (.sign '[') cs
  let cs := skipBlanks cs
  let (keys, cs) ← readKeys (cs.length + 1) cs
  let ((), cs) ← expect (.sign ']') cs
  let ((), cs) ← if repeats then expect (.sign ']') cs else pure ((), cs)
  let ((), cs) ← endLineOrComment (skipBlanks cs)
  return ({ left := byteLength start, keys, repeats }, cs)

def readLine (depth : Nat) (s : Section) (cs : List Char) : Except Fault (Section × List Char) := do
  let ((keys, value), cs) ← readAssignment (readValue depth) cs
  let ((), cs) ← endLineOrComment (skipBlanks cs)
  let fields ← addField value keys s.fields
  return ({ s with fields }, cs)

def readLines (depth : Nat) (last : Section) (done : List Section) :
    Nat → List Char → Except Fault (List Section)
  | 0, _ => .ok (last :: done)
  | steps + 1, cs => do
    match ← skipLines (cs.length + 1) cs with
    | [] => return last :: done
    | '[' :: rest =>
      let (header, more) ← readHeader ('[' :: rest)
      readLines depth header (last :: done) steps more
    | line =>
      let (last, rest) ← readLine depth last line
      readLines depth last done steps rest

def dropMark : List Char → List Char
  | '\uFEFF' :: rest => rest
  | cs => cs

def readSections (cs : List Char) : Except Fault (List Section) := do
  let steps := cs.length + 1
  let sections ← readLines steps { left := byteLength cs } [] steps (dropMark cs)
  return sections.reverse.filter Section.isGiven

end CorpusTally.Toml
