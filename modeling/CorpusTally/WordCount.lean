import CorpusTally.Crash

/-!
A word with its number of occurrences, and the order in which such pairs are shown: the larger count
first, and of equal counts the smaller word.
-/

namespace CorpusTally

structure WordCount where
  word : String
  count : UInt64
  deriving DecidableEq

def WordCount.le (a b : WordCount) : Bool :=
  b.count < a.count || (a.count = b.count && a.word ≤ b.word)

def WordCount.sort (words : List WordCount) : List WordCount := words.mergeSort WordCount.le

end CorpusTally
