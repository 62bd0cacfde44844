import CorpusTally.Proofs.Counting.Entries

/-!
What a map says, as an amount for each of its words, without a bound. Adding to a map and merging maps is
adding amounts, and it crashes exactly if one of them has no place in 64 bits.
-/

namespace CorpusTally

/-- How often each word counts, without a bound; a word may also be there and count zero. -/
abbrev Amounts := String → Option Nat

namespace Amounts

def zero : Amounts := fun _ => none

def single (word : String) (amount : Nat) : Amounts := fun other =>
  if other = word then some amount else none

def plus (f g : Amounts) : Amounts := fun word => (f word).merge (· + ·) (g word)

def Fits (f : Amounts) : Prop := ∀ word, (f word).getD 0 < 2 ^ 64

def ofEntries : Entries → Amounts
  | [] => zero
  | entry :: entries => (single entry.1 entry.2.toNat).plus (ofEntries entries)

def ofWords (words : List String) : Amounts := ofEntries (words.map fun word => (word, 1))

variable {f g h : Amounts}

theorem plus_zero (f : Amounts) : f.plus zero = f := by
  funext word
  exact Option.merge_none_right

theorem zero_plus (f : Amounts) : zero.plus f = f := by
  funext word
  exact Option.merge_none_left

theorem plus_comm (f g : Amounts) : f.plus g = g.plus f := by
  funext word
  exact Std.Commutative.comm _ _

theorem plus_assoc (f g h : Amounts) : (f.plus g).plus h = f.plus (g.plus h) := by
  funext word
  exact Std.Associative.assoc _ _ _

theorem getD_plus (f g : Amounts) (word : String) :
    ((f.plus g) word).getD 0 = (f word).getD 0 + (g word).getD 0 := by
  unfold plus
  cases f word <;> cases g word <;> simp

theorem Fits.left (fits : (f.plus g).Fits) : f.Fits := by
  intro word
  have sum := fits word
  rw [getD_plus] at sum
  omega

theorem Fits.right (fits : (f.plus g).Fits) : g.Fits := by
  rw [plus_comm] at fits
  exact fits.left

theorem ofEntries_append (es fs : Entries) :
    ofEntries (es ++ fs) = (ofEntries es).plus (ofEntries fs) := by
  induction es with
  | nil => rw [List.nil_append, ofEntries, zero_plus]
  | cons entry es ih => rw [List.cons_append, ofEntries, ofEntries, ih, plus_assoc]

theorem ofEntries_perm {es fs : Entries} (order : es.Perm fs) : ofEntries es = ofEntries fs := by
  induction order with
  | nil => rfl
  | cons entry _ ih => rw [ofEntries, ofEntries, ih]
  | swap first second rest =>
    simp only [ofEntries]
    rw [← plus_assoc, plus_comm (single _ _), plus_assoc]
  | trans _ _ ih ih' => rw [ih, ih']

theorem ofWords_append (words more : List String) :
    ofWords (words ++ more) = (ofWords words).plus (ofWords more) := by
  rw [ofWords, List.map_append, ofEntries_append]
  rfl

theorem ofWords_eq (words : List String) (word : String) :
    ofWords words word = if word ∈ words then some (words.count word) else none := by
  induction words with
  | nil => rfl
  | cons first words ih =>
    have split : ofWords (first :: words) = (single first 1).plus (ofWords words) := rfl
    rw [split, plus, ih, single]
    by_cases here : word = first
    · subst here
      by_cases later : word ∈ words
      · simp [later, Nat.add_comm]
      · simp [later, List.count_eq_zero_of_not_mem later]
    · simp [here, Ne.symm here]

theorem fits_ofWords {words : List String} (fits : words.length < 2 ^ 64) : (ofWords words).Fits := by
  intro word
  have atMost : words.count word ≤ words.length := List.count_le_length
  rw [ofWords_eq]
  split
  · rw [Option.getD_some]
    omega
  · rw [Option.getD_none]
    omega

end Amounts

namespace Tally

def addAll (m : Tally) (entries : Entries) : Except Crash Tally :=
  entries.foldlM (fun m entry => m.add entry.1 entry.2) m

def amounts (m : Tally) : Amounts := fun word => (m.count? word).map UInt64.toNat

variable {a b m : Tally}

theorem amounts_injective : Function.Injective amounts := by
  intro a b same
  apply ext_count?
  intro word
  exact Option.map_injective (fun _ _ => UInt64.toNat_inj.mp) (congrFun same word)

theorem amounts_empty : empty.amounts = .zero := rfl

theorem getD_amounts (m : Tally) (word : String) : (m.amounts word).getD 0 = (m.count word).toNat := by
  unfold amounts count
  cases m.count? word <;> rfl

theorem fits_amounts (m : Tally) : m.amounts.Fits := by
  intro word
  rw [getD_amounts]
  exact UInt64.toNat_lt _

theorem fits_plus_iff :
    (a.amounts.plus b.amounts).Fits ↔ ∀ word, (a.count word).toNat + (b.count word).toNat < 2 ^ 64 := by
  unfold Amounts.Fits
  simp only [Amounts.getD_plus, getD_amounts]

theorem ofEntries_entries (m : Tally) : Amounts.ofEntries m.entries = m.amounts := by
  obtain ⟨es, sorted⟩ := m
  induction es with
  | nil => rfl
  | cons head rest ih =>
    obtain ⟨first, later⟩ := List.pairwise_cons.mp sorted
    rw [Amounts.ofEntries, ih later]
    funext word
    simp only [amounts, count?, Amounts.plus, Amounts.single, Entries.get?]
    by_cases here : word = head.1
    · have absent : Entries.get? word rest = none := by
        apply Entries.get?_eq_none_of_before
        intro entry mem
        rw [here]
        exact first entry mem
      simp [here ▸ absent, here]
    · simp [here, Ne.symm here]

/-- What comes of a computation whose exact outcome is known: the map with these amounts, or a crash if one
of them has no place. -/
structure Yields (f : Amounts) (r : Except Crash Tally) : Prop where
  counted : f.Fits → ∃ m, r = .ok m ∧ m.amounts = f
  crashed : ¬ f.Fits → r = .error .sumTooLarge

namespace Yields

variable {f g : Amounts} {r s : Except Crash Tally}

theorem of_amounts (m : Tally) : Yields m.amounts (.ok m) where
  counted := fun _ => ⟨m, rfl, rfl⟩
  crashed := fun large => absurd m.fits_amounts large

theorem unique (first : Yields f r) (second : Yields f s) : r = s := by
  by_cases fits : f.Fits
  · obtain ⟨m, rfl, left⟩ := first.counted fits
    obtain ⟨n, rfl, right⟩ := second.counted fits
    rw [amounts_injective (left.trans right.symm)]
  · rw [first.crashed fits, second.crashed fits]

theorem bind {next : Tally → Except Crash Tally} (first : Yields f r) (grows : g.Fits → f.Fits)
    (later : ∀ m, m.amounts = f → Yields g (next m)) : Yields g (r >>= next) := by
  by_cases fits : f.Fits
  · obtain ⟨m, rfl, same⟩ := first.counted fits
    exact later m same
  · rw [first.crashed fits]
    exact ⟨fun small => absurd (grows small) fits, fun _ => rfl⟩

theorem eq_ok_iff (yields : Yields f r) : r = .ok m ↔ m.amounts = f := by
  constructor
  · intro ok
    by_cases fits : f.Fits
    · obtain ⟨n, made, same⟩ := yields.counted fits
      rw [ok, Except.ok.injEq] at made
      rw [made, same]
    · rw [yields.crashed fits] at ok
      cases ok
  · intro same
    obtain ⟨n, made, amounts⟩ := yields.counted (same ▸ m.fits_amounts)
    rw [made, amounts_injective (amounts.trans same.symm)]

theorem error_iff (yields : Yields f r) : (∃ e, r = .error e) ↔ ¬ f.Fits := by
  constructor
  · rintro ⟨e, failed⟩ fits
    obtain ⟨n, made, -⟩ := yields.counted fits
    rw [failed] at made
    cases made
  · intro large
    exact ⟨_, yields.crashed large⟩

end Yields

theorem yields_add (m : Tally) (word : String) (n : UInt64) :
    Yields (m.amounts.plus (.single word n.toNat)) (m.add word n) := by
  have here : ((m.amounts.plus (.single word n.toNat)) word).getD 0 = (m.count word).toNat + n.toNat := by
    rw [Amounts.getD_plus, getD_amounts]
    simp [Amounts.single]
  by_cases sum : (m.count word).toNat + n.toNat < 2 ^ 64
  · have made : (m.put word (m.count word + n)).amounts = m.amounts.plus (.single word n.toNat) := by
      funext other
      unfold amounts
      rw [count?_put]
      by_cases same : other = word
      · subst same
        rw [if_pos rfl, Option.map_some, toNat_add_of_fits sum]
        unfold count at sum ⊢
        cases found : m.count? other <;> simp [Amounts.plus, Amounts.single, found]
      · simp [same, Amounts.plus, Amounts.single]
    rw [add_ok sum, ← made]
    exact .of_amounts _
  · have fails : checkedAdd (m.count word) n = .error .sumTooLarge := if_neg sum
    refine ⟨fun fits => absurd (here ▸ fits word) sum, fun _ => ?_⟩
    rw [add, fails]
    rfl

theorem yields_addAll (m : Tally) (entries : Entries) :
    Yields (m.amounts.plus (.ofEntries entries)) (m.addAll entries) := by
  induction entries generalizing m with
  | nil =>
    rw [Amounts.ofEntries, Amounts.plus_zero]
    exact .of_amounts m
  | cons entry entries ih =>
    rw [addAll, List.foldlM_cons, Amounts.ofEntries, ← Amounts.plus_assoc]
    apply (m.yields_add entry.1 entry.2).bind Amounts.Fits.left
    intro next same
    rw [← same]
    exact ih next

theorem yields_addAll_of_perm (a b : Tally) {order : Entries} (perm : order.Perm b.entries) :
    Yields (a.amounts.plus b.amounts) (a.addAll order) := by
  have same := Amounts.ofEntries_perm perm
  rw [ofEntries_entries] at same
  rw [← same]
  exact a.yields_addAll order

theorem yields_merge (a b : Tally) : Yields (a.amounts.plus b.amounts) (a.merge b) := by
  unfold merge
  split
  · next nothing =>
    have blank : a = empty := by
      obtain ⟨entries, _⟩ := a
      have none : entries = [] := List.isEmpty_iff.mp nothing
      subst none
      rfl
    rw [blank, amounts_empty, Amounts.zero_plus]
    exact .of_amounts b
  · exact a.yields_addAll_of_perm b (List.Perm.refl _)

theorem ofWords_eq_addAll (words : List String) :
    ofWords words = empty.addAll (words.map fun word => (word, 1)) := by
  rw [addAll, List.foldlM_map]
  rfl

theorem yields_ofWords (words : List String) : Yields (.ofWords words) (ofWords words) := by
  have collected := empty.yields_addAll (words.map fun word => (word, 1))
  rwa [amounts_empty, Amounts.zero_plus, ← ofWords_eq_addAll] at collected

end Tally

end CorpusTally
