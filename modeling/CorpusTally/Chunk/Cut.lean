import CorpusTally.Chunk
import CorpusTally.Crash

/-!
Cutting a text into chunks by line numbers of 64 bits. The first and the last line of every chunk are
computed, and the cut ends in a crash where a number is out of range.
-/

namespace CorpusTally

def checkedProduct (a b : UInt64) : Except Crash UInt64 :=
  if a.toNat * b.toNat < UInt64.size then .ok (a * b)
  else .error (.raised "attempt to multiply with overflow")

def checkedDifference (a b : UInt64) : Except Crash UInt64 :=
  if b ≤ a then .ok (a - b) else .error .differenceTooSmall

def checkedQuotient (a b : UInt64) : Except Crash UInt64 :=
  if b = 0 then .error (.raised "attempt to divide by zero") else .ok (a / b)

def checkedSlice {α : Type} (items : List α) (start stop : UInt64) : Except Crash (List α) :=
  if stop < start then
    .error (.raised s!"slice index starts at {start} but ends at {stop}")
  else if items.length < stop.toNat then
    .error (.raised s!"range end index {stop} out of range for slice of length {items.length}")
  else .ok ((items.take stop.toNat).drop start.toNat)

namespace Chunk

def groupEnd (lineCount counters size index start : UInt64) : Except Crash UInt64 := do
  let last ← checkedDifference counters 1
  if index = last then return lineCount
  let stop ← checkedAdd start size
  return min stop lineCount

def cutGroup (all : List String) (counters size index : UInt64) : Except Crash (Option Chunk) := do
  let lineCount := all.length.toUInt64
  let start ← checkedProduct index size
  if lineCount ≤ start then return none
  let stop ← groupEnd lineCount counters size index start
  let group ← checkedSlice all start stop
  let text := joinLines group
  return if text = "" then none else some ⟨index.toNat, text⟩

def cut (text : String) (counters : UInt64) : Except Crash (List Chunk) := do
  let counters := max counters 1
  let all := lines text
  let quotient ← checkedQuotient all.length.toUInt64 counters
  let size := max quotient 1
  let found ← (List.range counters.toNat).mapM fun index =>
    cutGroup all counters size index.toUInt64
  return found.reduceOption

end Chunk

end CorpusTally
