import CorpusTally.Token

/-!
Text buffers that are lent out and taken back. The buffer that came back last is lent first; a buffer
is emptied when it comes back, and dropped when enough of them lie idle.
-/

namespace CorpusTally

structure Buffers where
  idle : List String := []
  hits : UInt64 := 0
  misses : UInt64 := 0

namespace Buffers

def maxIdle : Nat := 64

def lend (p : Buffers) : String × Buffers :=
  match p.idle with
  | buffer :: rest => (buffer, { p with idle := rest, hits := p.hits + 1 })
  | [] => ("", { p with misses := p.misses + 1 })

def takeBack (p : Buffers) : Buffers :=
  if p.idle.length < maxIdle then { p with idle := "" :: p.idle } else p

end Buffers

/-- The buffers at hand, and those lent out under the numbers of their holders. -/
structure Lending where
  buffers : Buffers := {}
  held : List (Nat × String) := []

namespace Lending

def content? (l : Lending) (holder : Nat) : Option String := l.held.lookup holder

def takeBack (l : Lending) (holder : Nat) : Lending :=
  match l.content? holder with
  | some _ => { buffers := l.buffers.takeBack, held := l.held.filter (·.1 ≠ holder) }
  | none => l

def takeBackAll (l : Lending) : Lending := l.held.foldl (fun l entry => l.takeBack entry.1) l

def lend (l : Lending) (holder : Nat) : String × Lending :=
  let (buffer, buffers) := l.buffers.lend
  let returned := { l with buffers := buffers }.takeBack holder
  (buffer, { returned with held := (holder, buffer) :: returned.held })

def lendMany (l : Lending) (holder : Nat) : Nat → List String × Lending
  | 0 => ([], l)
  | count + 1 =>
    let (buffer, next) := l.lend holder
    let (others, last) := next.lendMany (holder + 1) count
    (buffer :: others, last)

def push (l : Lending) (holder : Nat) (text : String) : Lending :=
  { l with held := l.held.map fun entry =>
      if entry.1 = holder then (entry.1, entry.2 ++ text) else entry }

def pushFolded (l : Lending) (holder : Nat) (text : String) : Lending :=
  l.push holder (foldText text)

end Lending

end CorpusTally
