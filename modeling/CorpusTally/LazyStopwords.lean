import CorpusTally.Log
import CorpusTally.Path
import CorpusTally.StopwordSet

/-!
The stopwords of a run. The set is built from its source when it is first asked for and stays the
same from then on, whatever happens to the source.
-/

namespace CorpusTally

abbrev ReadFile := Path → Except IoError Utf8.Bytes

inductive StopwordOrigin where
  | none
  | words (listed : List String)
  | file (path : Path)

def StopwordOrigin.ofPath? : Option Path → StopwordOrigin
  | some path => .file path
  | Option.none => .none

def StopwordSet.ofFile (read : ReadFile) (path : Path) : Except IoError StopwordSet :=
  (read path).bind StopwordSet.ofBytes

def loadedEvent (path : Path) (set : StopwordSet) : LogEvent :=
  ⟨.debug, s!"Loaded {set.size} stopwords from {path.display}"⟩

def notLoadedEvent (path : Path) (e : IoError) : LogEvent :=
  ⟨.warn, s!"Could not load stopwords from {path.display}: {e.message}; no words will be filtered"⟩

/-- A list that cannot be loaded filters nothing. -/
def StopwordOrigin.toSet (read : ReadFile) : StopwordOrigin → StopwordSet × Log
  | .none => (.empty, [])
  | .words listed => (.ofWords listed, [])
  | .file path =>
    match StopwordSet.ofFile read path with
    | .ok set => (set, [loadedEvent path set])
    | .error e => (.empty, [notLoadedEvent path e])

structure LazyStopwords where
  origin : StopwordOrigin
  built? : Option StopwordSet := none

namespace LazyStopwords

def isBuilt (s : LazyStopwords) : Bool := s.built?.isSome

def view (read : ReadFile) (s : LazyStopwords) : StopwordSet :=
  s.built?.getD (s.origin.toSet read).1

/-- A query, with the set that answers it: the handle afterwards and the events of building. -/
def force (read : ReadFile) (s : LazyStopwords) : LazyStopwords × Log :=
  match s.built? with
  | some _ => (s, [])
  | none => ({ s with built? := some (s.origin.toSet read).1 }, (s.origin.toSet read).2)

end LazyStopwords

end CorpusTally
