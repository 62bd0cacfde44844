import CorpusTally.WordCount

/-!
Counts of words. The entries are kept in the order of their words, so that two maps with the same
counts are equal. Every sum is checked.
-/

namespace CorpusTally

abbrev Entries := List (String × UInt64)

namespace Entries

def Ascending (es : Entries) : Prop := es.Pairwise fun a b => a.1 < b.1

def get? (word : String) : Entries → Option UInt64
  | [] => none
  | (w, n) :: rest => if w = word then some n else get? word rest

def put (word : String) (count : UInt64) : Entries → Entries
  | [] => [(word, count)]
  | (w, n) :: rest =>
    if word < w then (word, count) :: (w, n) :: rest
    else if word = w then (word, count) :: rest
    else (w, n) :: put word count rest

theorem get?_put (word other : String) (count : UInt64) (es : Entries) :
    get? other (put word count es) = if other = word then some count else get? other es := by
  induction es with
  | nil => simp [put, get?, eq_comm]
  | cons head rest ih => grind [put, get?]

theorem fst_mem_put {word : String} {count : UInt64} {es : Entries} {e : String × UInt64}
    (mem : e ∈ put word count es) : e.1 = word ∨ e ∈ es := by
  induction es with
  | nil => simp_all [put]
  | cons head rest ih => grind [put]

theorem ascending_put (word : String) (count : UInt64) {es : Entries} (sorted : Ascending es) :
    Ascending (put word count es) := by
  induction es with
  | nil => simp [put, Ascending]
  | cons head rest ih =>
    have parts := List.pairwise_cons.mp sorted
    simp only [put]
    split
    · next before =>
      refine List.pairwise_cons.mpr ⟨fun e mem => ?_, sorted⟩
      rcases List.mem_cons.mp mem with rfl | later
      · exact before
      · exact String.lt_trans before (parts.1 e later)
    · split
      · next equal =>
        subst equal
        exact List.pairwise_cons.mpr ⟨parts.1, parts.2⟩
      · next after different =>
        refine List.pairwise_cons.mpr ⟨fun e mem => ?_, ih parts.2⟩
        rcases fst_mem_put mem with here | later
        · exact here ▸ String.not_le.mp fun le =>
            different (String.le_antisymm (String.not_lt.mp after) le).symm
        · exact parts.1 e later

end Entries

structure Tally where
  entries : Entries := []
  ascending : entries.Ascending := by exact List.Pairwise.nil

namespace Tally

def empty : Tally := {}

def count? (m : Tally) (word : String) : Option UInt64 := m.entries.get? word

def count (m : Tally) (word : String) : UInt64 := (m.count? word).getD 0

def put (m : Tally) (word : String) (count : UInt64) : Tally :=
  ⟨m.entries.put word count, Entries.ascending_put word count m.ascending⟩

/-- Adds occurrences of a word; adding none makes an entry all the same. -/
def add (m : Tally) (word : String) (count : UInt64) : Except Crash Tally :=
  (checkedAdd (m.count word) count).map (m.put word)

def addOne (m : Tally) (word : String) : Except Crash Tally := m.add word 1

/-- Adds every entry of the other map; to an empty map nothing is added, it becomes the other one. -/
def merge (m other : Tally) : Except Crash Tally :=
  if m.entries.isEmpty then .ok other
  else other.entries.foldlM (fun m entry => m.add entry.1 entry.2) m

def ofWords (words : List String) : Except Crash Tally := words.foldlM addOne empty

def ofWordCounts (words : List WordCount) : Except Crash Tally :=
  words.foldlM (fun m w => m.add w.word w.count) empty

def total (m : Tally) : Except Crash UInt64 := checkedSum (m.entries.map (·.2))

def size (m : Tally) : Nat := m.entries.length

def isEmpty (m : Tally) : Bool := m.entries.isEmpty

def equal (a b : Tally) : Bool := a.entries = b.entries

def toWordCounts (m : Tally) : List WordCount :=
  m.entries.map fun entry => ⟨entry.1, entry.2⟩

end Tally

end CorpusTally
