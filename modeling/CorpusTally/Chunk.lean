import CorpusTally.Split

/-!
Cutting a text into chunks of whole lines, at most as many as there are counters. Each group but the
last has the same number of lines; groups without text are left out, and the others keep their number.
-/

namespace CorpusTally

structure Chunk where
  index : Nat
  text : String
  deriving DecidableEq

namespace Chunk

/-- Groups of `size` lines, numbered from `index`; the last group that is allowed takes all lines that
remain. -/
def groups (size : Nat) : Nat → Nat → List String → List (Nat × List String)
  | _, _, [] => []
  | 0, _, _ :: _ => []
  | 1, index, line :: more => [(index, line :: more)]
  | groupsLeft + 2, index, line :: more =>
    (index, (line :: more).take size) ::
      groups size (groupsLeft + 1) (index + 1) ((line :: more).drop size)

def groupSize (lineCount counters : Nat) : Nat := max 1 (lineCount / counters)

def ofText (text : String) (counters : Nat) : List Chunk :=
  let counters := max 1 counters
  let all := lines text
  let grouped := groups (groupSize all.length counters) counters 0 all
  (grouped.map fun group => ⟨group.1, joinLines group.2⟩).filter fun chunk => chunk.text ≠ ""

end Chunk

end CorpusTally
