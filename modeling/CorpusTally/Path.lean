import CorpusTally.Split
import CorpusTally.Utf8

/-!
Names of files as bytes. Two paths are the same place in a tree of names when their components agree:
repeated and trailing slashes and inner dots do not count, a leading dot does. Paths are ordered by
their components, so that a directory stands before its siblings with longer names.
-/

namespace CorpusTally

open Utf8 (Bytes)

/-- The order of the constructors is the order of the components. -/
inductive Component where
  | root
  | current
  | parent
  | normal (name : Bytes)
  deriving DecidableEq, Ord

structure Path where
  bytes : Bytes
  deriving DecidableEq

namespace Path

def slash : UInt8 := 47

def dot : UInt8 := 46

def ofString (s : String) : Path := ⟨Utf8.encode s⟩

def display (p : Path) : String := Utf8.decodeLossy p.bytes

def isAbsolute (p : Path) : Bool := p.bytes.head? == some slash

def component? (name : Bytes) : Option Component :=
  if name = [] || name = [dot] then none
  else if name = [dot, dot] then some .parent
  else some (.normal name)

def components (p : Path) : List Component :=
  let names := split slash p.bytes
  let start :=
    if p.isAbsolute then [.root]
    else if names.head? = some [dot] then [.current]
    else []
  start ++ names.filterMap component?

def same (p q : Path) : Bool := p.components = q.components

def le (p q : Path) : Bool := (compare p.components q.components).isLE

def join (base other : Path) : Path :=
  if other.isAbsolute || base.bytes = [] then other
  else if base.bytes.getLast? = some slash then ⟨base.bytes ++ other.bytes⟩
  else ⟨base.bytes ++ slash :: other.bytes⟩

def extend (p : Path) (names : List Bytes) : Path := names.foldl (fun path name => path.join ⟨name⟩) p

private def componentBytes : Component → Bytes
  | .root => []
  | .current => [dot]
  | .parent => [dot, dot]
  | .normal name => name

def ofComponents (cs : List Component) : Path :=
  if cs = [.root] then ⟨[slash]⟩
  else ⟨(List.intersperse [slash] (cs.map componentBytes)).flatten⟩

def fileName? (p : Path) : Option Bytes :=
  match p.components.getLast? with
  | some (.normal name) => some name
  | _ => none

def parent? (p : Path) : Option Path :=
  match p.components.getLast? with
  | none | some .root => none
  | some _ => some (ofComponents p.components.dropLast)

/-- A name up to its last dot and the rest after it; a dot at the start does not count. -/
def splitExtension (name : Bytes) : Bytes × Option Bytes :=
  let after := (name.reverse.takeWhile (· ≠ dot)).reverse
  let before := name.take (name.length - after.length - 1)
  if name = [dot, dot] || after.length = name.length || before = [] then (name, none)
  else (before, some after)

def extension? (p : Path) : Option Bytes := p.fileName?.bind fun name => (splitExtension name).2

def withFileName (p : Path) (name : Bytes) : Path :=
  match p.fileName? with
  | some _ => (p.parent?.getD ⟨[]⟩).join ⟨name⟩
  | none => p.join ⟨name⟩

end Path

end CorpusTally
