import CorpusTally.IoError
import CorpusTally.Split
import CorpusTally.Unicode.Blank
import CorpusTally.Unicode.Lowercase
import CorpusTally.Utf8

/-!
Sets of words that are left out of a count. A listed word is taken without the blanks around it and in
small letters; what is empty then is no word.
-/

namespace CorpusTally

def listedForm (word : String) : String := Unicode.lowercase (Unicode.trim word)

structure StopwordSet where
  words : List String := []
  distinct : words.Nodup := by simp

namespace StopwordSet

def empty : StopwordSet := {}

def contains (s : StopwordSet) (word : String) : Bool := s.words.contains word

def insert (s : StopwordSet) (word : String) : StopwordSet :=
  if h : word ∈ s.words then s
  else ⟨word :: s.words, List.nodup_cons.mpr ⟨h, s.distinct⟩⟩

theorem contains_insert (s : StopwordSet) (word query : String) :
    (s.insert word).contains query = (query == word || s.contains query) := by
  unfold insert contains
  split
  · next listed => by_cases h : query = word <;> simp_all
  · simp [Bool.beq_eq_decide_eq]

def add (s : StopwordSet) (listed : String) : StopwordSet :=
  if listedForm listed = "" then s else s.insert (listedForm listed)

def ofWords (listed : List String) : StopwordSet := listed.foldl add empty

def size (s : StopwordSet) : Nat := s.words.length

def isEmpty (s : StopwordSet) : Bool := s.words.isEmpty

/-- One listed word a line; a line may end in a carriage return, which is a blank. -/
def ofBytes (bytes : Utf8.Bytes) : Except IoError StopwordSet :=
  match Utf8.decode? bytes with
  | none => .error .notText
  | some text => .ok (ofWords (lines text))

end StopwordSet

end CorpusTally
