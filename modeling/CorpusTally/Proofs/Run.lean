import Mathlib.Logic.Relation

/-!
Runs of things that go on step by step, in whatever order their parts take turns. A measure that every
step lowers, and a step from each state that is not over, make every run end in a state that is over.
-/

namespace CorpusTally

variable {α β : Type}

abbrev Reaches (step : α → α → Prop) : α → α → Prop := Relation.ReflTransGen step

theorem mem_mid {a b : α} {pre post : List α} : b ∈ pre ++ a :: post ↔ b = a ∨ b ∈ pre ++ post :=
  List.perm_middle.mem_iff.trans List.mem_cons

theorem flatMap_mid_perm (has : α → List β) (pre post : List α) (a : α) :
    ((pre ++ a :: post).flatMap has).Perm (has a ++ (pre ++ post).flatMap has) :=
  List.perm_middle.flatMap_right has

/-- No run from a state goes on for ever. -/
def Ends (step : α → α → Prop) (start : α) : Prop :=
  ¬ ∃ run : Nat → α, run 0 = start ∧ ∀ n, step (run n) (run (n + 1))

/-- What steps keep and lower, and where they stop. -/
structure Settles (step : α → α → Prop) (good isOver : α → Prop) where
  rank : α → Nat
  keeps : ∀ {a b}, good a → step a b → good b
  drops : ∀ {a b}, good a → step a b → rank b < rank a
  moves : ∀ {a}, good a → ¬ isOver a → ∃ b, step a b

theorem Reaches.keeps {step : α → α → Prop} {good : α → Prop} {a b : α} (run : Reaches step a b)
    (keeps : ∀ {a b}, good a → step a b → good b) (ok : good a) : good b := by
  induction run with
  | refl => exact ok
  | tail _ last ih => exact keeps ih last

theorem Reaches.within {step : α → α → Prop} {outer : β → β → Prop} {a b : α} (run : Reaches step a b)
    (whole : α → β) (lifted : ∀ {a b}, step a b → outer (whole a) (whole b)) :
    Reaches outer (whole a) (whole b) :=
  Relation.ReflTransGen.lift whole (fun _ _ => lifted) _ _ run

namespace Settles

variable {step : α → α → Prop} {good isOver : α → Prop} {a : α}

/-- A run from a good state has no more steps than the rank of the state. -/
theorem ends (law : Settles step good isOver) (ok : good a) : Ends step a := by
  rintro ⟨run, rfl, steps⟩
  have goods : ∀ n, good (run n) := by
    intro n
    induction n with
    | zero => exact ok
    | succ n ih => exact law.keeps ih (steps n)
  have bound : ∀ n, law.rank (run n) + n ≤ law.rank (run 0) := by
    intro n
    induction n with
    | zero => omega
    | succ n ih =>
      have lower := law.drops (goods n) (steps n)
      omega
  have last := bound (law.rank (run 0) + 1)
  omega

/-- What a run reaches is good, and it goes on from there until it is over. -/
theorem of_reaches (law : Settles step good isOver) (ok : good a) {b : α} (run : Reaches step a b) :
    good b ∧ ((∃ c, step b c) ∨ isOver b) := by
  have okb : good b := run.keeps law.keeps ok
  by_cases done : isOver b
  · exact ⟨okb, .inr done⟩
  · exact ⟨okb, .inl (law.moves okb done)⟩

theorem reaches_over (law : Settles step good isOver) (ok : good a) :
    ∃ b, Reaches step a b ∧ good b ∧ isOver b := by
  induction hr : law.rank a using Nat.strongRecOn generalizing a with
  | ind r ih =>
    by_cases done : isOver a
    · exact ⟨a, .refl, ok, done⟩
    · obtain ⟨b, first⟩ := law.moves ok done
      obtain ⟨c, rest, okc, overc⟩ :=
        ih (law.rank b) (hr ▸ law.drops ok first) (law.keeps ok first) rfl
      exact ⟨c, .head first rest, okc, overc⟩

end Settles

end CorpusTally
