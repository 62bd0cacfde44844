/-!
A barrier at which one waits until all workers that entered have left. A worker holds a guard, and
giving the guard up counts it out.
-/

namespace CorpusTally

structure Barrier where
  active : Nat := 0
  deriving DecidableEq

namespace Barrier

def enter (b : Barrier) : Barrier := ⟨b.active + 1⟩

def leave (b : Barrier) : Barrier := ⟨b.active - 1⟩

def isOpen (b : Barrier) : Bool := b.active = 0

end Barrier

/-- A barrier with the guards that are held, each under a number. -/
structure GuardedBarrier where
  barrier : Barrier := {}
  guards : List Nat := []

namespace GuardedBarrier

def holds (g : GuardedBarrier) (guard : Nat) : Bool := g.guards.contains guard

def drop (g : GuardedBarrier) (guard : Nat) : GuardedBarrier :=
  if g.holds guard then ⟨g.barrier.leave, g.guards.erase guard⟩ else g

def enter (g : GuardedBarrier) (guard : Nat) : GuardedBarrier :=
  let replaced := { g with barrier := g.barrier.enter }.drop guard
  { replaced with guards := guard :: replaced.guards }

def run (g : GuardedBarrier) : Nat → GuardedBarrier
  | 0 => g
  | workers + 1 => { (g.run workers) with barrier := (g.run workers).barrier.enter.leave }

end GuardedBarrier

end CorpusTally
