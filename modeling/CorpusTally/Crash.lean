/-!
Failures that end a computation on the spot instead of being returned as an error: a sum that needs
more than 64 bits, a difference below zero, a number whose negative needs more than 64 bits, a list that
no memory can hold, or a corpus that gives up on a file.
-/

namespace CorpusTally

inductive Crash where
  | sumTooLarge
  | differenceTooSmall
  | negationTooLarge
  | listTooLong
  | raised (message : String)
  | unnamed
  deriving DecidableEq

def Crash.message : Crash → String
  | .sumTooLarge => "attempt to add with overflow"
  | .differenceTooSmall => "attempt to subtract with overflow"
  | .negationTooLarge => "attempt to negate with overflow"
  | .listTooLong => "capacity overflow"
  | .raised message => message
  | .unnamed => "unknown panic"

def checkedAdd (a b : UInt64) : Except Crash UInt64 :=
  if a.toNat + b.toNat < UInt64.size then .ok (a + b) else .error .sumTooLarge

def checkedSum (counts : List UInt64) : Except Crash UInt64 := counts.foldlM checkedAdd 0

end CorpusTally
