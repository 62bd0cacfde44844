import CorpusTally.Proofs.Counting.Cut
import CorpusTally.Proofs.Pieces

/-!
How the lines of a text are divided among chunks. They fall into groups that follow each other, all of one
size but the last that is allowed; the chunks are the groups that have text.
-/

namespace CorpusTally

def nonemptyLines (group : List String) : List String := group.filter fun line => line ≠ ""

namespace Chunk

/-- Groups that have all lines of a text, one group after the other. -/
structure IsDivision (text : String) (counters : Nat) (groups : List (List String)) : Prop where
  whole : groups.flatten = lines text
  filled : ∀ group ∈ groups, group ≠ []
  few : groups.length ≤ max 1 counters
  even : ∀ i group, groups[i]? = some group → i ≠ max 1 counters - 1 →
    group.length = max 1 ((lines text).length / counters)

def ofDivision (groups : List (List String)) : List Chunk :=
  (groups.zipIdx.filter fun group => joinLines group.1 ≠ "").map fun group =>
    ⟨group.2, joinLines group.1⟩

variable {size counters : Nat} {all group : List String} {i : Nat}

theorem zipIdx_groups (size counters index : Nat) (all : List String) :
    ((groups size counters index all).map (·.2)).zipIdx index =
      (groups size counters index all).map Prod.swap := by
  induction counters generalizing index all with
  | zero => cases all <;> rfl
  | succ left ih =>
    cases all with
    | nil => rfl
    | cons line more =>
      cases left with
      | zero => rfl
      | succ left =>
        have later := ih (index + 1) ((line :: more).drop size)
        rw [groups, List.map_cons, List.zipIdx_cons, List.map_cons, later]
        rfl

theorem mem_groups : (i, group) ∈ groups size counters 0 all ↔
    i < counters ∧ linesAt size counters all i = some group := by
  rw [groups_eq, List.mem_filterMap]
  constructor
  · rintro ⟨j, inside, found⟩
    obtain ⟨lines, here, same⟩ := Option.map_eq_some_iff.mp found
    obtain ⟨number, rfl⟩ := Prod.mk.inj same
    rw [Nat.zero_add] at number
    subst number
    exact ⟨List.mem_range.mp inside, here⟩
  · rintro ⟨inside, here⟩
    refine ⟨i, List.mem_range.mpr inside, ?_⟩
    rw [here, Option.map_some, Nat.zero_add]

theorem linesAt_ne_nil (positive : 0 < size) (here : linesAt size counters all i = some group) :
    group ≠ [] := by
  rw [linesAt, Option.ite_none_left_eq_some, Option.some.injEq] at here
  obtain ⟨begins, rfl⟩ := here
  split
  · rw [ne_eq, List.drop_eq_nil_iff]
    exact begins
  · rw [ne_eq, List.take_eq_nil_iff, List.drop_eq_nil_iff]
    omega

theorem length_of_linesAt (inside : i < counters) (early : i + 1 ≠ counters)
    (here : linesAt (groupSize all.length counters) counters all i = some group) :
    group.length = groupSize all.length counters := by
  rw [linesAt, Option.ite_none_left_eq_some, Option.some.injEq, if_neg early] at here
  obtain ⟨begins, rfl⟩ := here
  rw [List.length_take, List.length_drop, Nat.min_eq_left]
  generalize sized : groupSize all.length counters = size at begins
  rw [groupSize] at sized
  rcases Nat.le_total (all.length / counters) 1 with single | several
  · have one : size = 1 := by omega
    subst one
    omega
  · have quotient : size = all.length / counters := by omega
    have room : (i + 1) * size ≤ all.length :=
      calc (i + 1) * size
        _ ≤ counters * size := Nat.mul_le_mul_right _ inside
        _ ≤ all.length := by
          rw [quotient]
          exact Nat.mul_div_le _ _
    rw [Nat.succ_mul] at room
    omega

theorem length_groups_le (size counters index : Nat) (all : List String) :
    (groups size counters index all).length ≤ counters := by
  rw [groups_eq]
  have bound := List.length_filterMap_le
    (fun i => (linesAt size counters all i).map (index + i, ·)) (List.range counters)
  rwa [List.length_range] at bound

def division (text : String) (counters : Nat) : List (List String) :=
  (groups (groupSize (lines text).length (max 1 counters)) (max 1 counters) 0 (lines text)).map (·.2)

theorem isDivision_division (text : String) (counters : Nat) :
    IsDivision text counters (division text counters) where
  whole := by
    rw [division, ← List.flatMap_def]
    exact flatMap_groups _ _ (by omega) _
  filled := by
    intro group mem
    obtain ⟨numbered, among, rfl⟩ := List.mem_map.mp mem
    have positive : 0 < groupSize (lines text).length (max 1 counters) := by
      rw [groupSize]
      omega
    exact linesAt_ne_nil positive (mem_groups.mp among).2
  few := by
    rw [division, List.length_map]
    exact length_groups_le _ _ _ _
  even := by
    intro i group place early
    have among : (group, i) ∈ (division text counters).zipIdx := List.mem_zipIdx_iff_getElem?.mpr place
    rw [division, zipIdx_groups] at among
    obtain ⟨numbered, member, same⟩ := List.mem_map.mp among
    obtain ⟨rfl, rfl⟩ := Prod.mk.inj same
    obtain ⟨inside, here⟩ := mem_groups.mp member
    have full := length_of_linesAt inside (by omega) here
    -- Without counters there is a single group, which is the last.
    have same : max 1 counters = counters := by omega
    rwa [same, groupSize] at full

theorem ofText_eq_ofDivision (text : String) (counters : Nat) :
    ofText text counters = ofDivision (division text counters) := by
  rw [ofDivision, division, zipIdx_groups, ofText, List.filter_map, List.filter_map, List.map_map]
  rfl

theorem map_index_ofDivision (groups : List (List String)) :
    ((ofDivision groups).map (·.index)).Sublist (List.range groups.length) := by
  have places : groups.zipIdx.map (·.2) = List.range groups.length := by
    rw [List.zipIdx_map_snd, List.range_eq_range']
  rw [ofDivision, List.map_map, ← places]
  exact List.filter_sublist.map _

private theorem nonemptyLines_append (group more : List String) :
    nonemptyLines (group ++ more) = nonemptyLines group ++ nonemptyLines more := List.filter_append ..

private theorem nonemptyLines_ofPlaces {places : List (List String × Nat)}
    (filled : ∀ place ∈ places, place.1 ≠ [])
    (whole : ∀ place ∈ places, ∀ line ∈ place.1, '\n' ∉ line.toList) :
    ((places.filter fun group => joinLines group.1 ≠ "").map fun group =>
        (⟨group.2, joinLines group.1⟩ : Chunk)).flatMap (fun chunk => nonemptyLines (lines chunk.text)) =
      nonemptyLines (places.map (·.1)).flatten := by
  induction places with
  | nil => rfl
  | cons place places ih =>
    have here := filled place List.mem_cons_self
    have later := ih (fun other mem => filled other (List.mem_cons_of_mem _ mem))
      fun other mem => whole other (List.mem_cons_of_mem _ mem)
    rw [List.map_cons, List.flatten_cons, nonemptyLines_append, ← later]
    by_cases nothing : joinLines place.1 = ""
    · have single := eq_singleton_of_joinLines_eq_empty here nothing
      have blank : nonemptyLines place.1 = [] := by rw [single]; rfl
      rw [List.filter_cons_of_neg (by simpa using nothing), blank, List.nil_append]
    · have same := lines_joinLines here (whole place List.mem_cons_self)
      rw [List.filter_cons_of_pos (by simpa using nothing), List.map_cons, List.flatMap_cons, same]

/-- The groups that are left out have no line with text, so that the chunks have all lines that do. -/
theorem nonemptyLines_ofDivision {groups : List (List String)} (filled : ∀ group ∈ groups, group ≠ [])
    (whole : ∀ group ∈ groups, ∀ line ∈ group, '\n' ∉ line.toList) :
    (ofDivision groups).flatMap (fun chunk => nonemptyLines (lines chunk.text)) =
      nonemptyLines groups.flatten := by
  have inside : ∀ place ∈ groups.zipIdx, place.1 ∈ groups := by
    intro place mem
    exact List.fst_mem_of_mem_zipIdx mem
  rw [ofDivision, nonemptyLines_ofPlaces, List.zipIdx_map_fst]
  · intro place mem
    exact filled place.1 (inside place mem)
  · intro place mem
    exact whole place.1 (inside place mem)

/-- The lines of a text fall into groups that follow each other. The chunks are the groups that have text,
under their places; what is left out is single empty lines, so that the lines with text are all there, in
their order. -/
theorem exists_division (text : String) (counters : Nat) :
    ∃ groups, IsDivision text counters groups ∧
      ofText text counters = ofDivision groups ∧
      (∀ group ∈ groups, joinLines group = "" → group = [""]) ∧
      ((ofText text counters).map (·.index)).Pairwise (· < ·) ∧
      (∀ chunk ∈ ofText text counters, chunk.index < max 1 counters) ∧
      (ofText text counters).flatMap (fun chunk => nonemptyLines (lines chunk.text)) =
        nonemptyLines (lines text) := by
  have divides := isDivision_division text counters
  have places := map_index_ofDivision (division text counters)
  refine ⟨division text counters, divides, ofText_eq_ofDivision text counters, ?_, ?_, ?_, ?_⟩
  · intro group mem nothing
    exact eq_singleton_of_joinLines_eq_empty (divides.filled group mem) nothing
  · rw [ofText_eq_ofDivision]
    exact List.pairwise_lt_range.sublist places
  · intro chunk mem
    rw [ofText_eq_ofDivision] at mem
    have place := List.mem_range.mp (places.subset (List.mem_map_of_mem mem))
    exact Nat.lt_of_lt_of_le place divides.few
  · rw [ofText_eq_ofDivision, nonemptyLines_ofDivision divides.filled, divides.whole]
    intro group mem line inside
    have among : line ∈ lines text := divides.whole ▸ List.mem_flatten_of_mem mem inside
    exact newline_not_mem_of_mem_lines among

/-- Five lines for three counters: the second group is an empty line, and the last one takes three lines,
the first of which is empty as well. -/
theorem exists_division_with_gap :
    ∃ groups, IsDivision "alpha\n\n\nbeta\ngamma" 3 groups ∧
      [⟨0, "alpha"⟩, ⟨2, "\nbeta\ngamma"⟩] = ofDivision groups ∧
      (∀ group ∈ groups, joinLines group = "" → group = [""]) ∧
      (⟨2, "\nbeta\ngamma"⟩ : Chunk).index < max 1 3 ∧
      ["alpha", "beta", "gamma"] = nonemptyLines (lines "alpha\n\n\nbeta\ngamma") := by
  have chunks : ofText "alpha\n\n\nbeta\ngamma" 3 = [⟨0, "alpha"⟩, ⟨2, "\nbeta\ngamma"⟩] := by decide +kernel
  obtain ⟨groups, divides, made, single, -, below, kept⟩ := exists_division "alpha\n\n\nbeta\ngamma" 3
  rw [chunks] at made below kept
  refine ⟨groups, divides, made, single, ?_, ?_⟩
  · exact below ⟨2, "\nbeta\ngamma"⟩ (by simp)
  · rw [← kept]
    decide +kernel

end Chunk

end CorpusTally
