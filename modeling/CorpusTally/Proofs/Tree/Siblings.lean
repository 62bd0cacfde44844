import CorpusTally.Proofs.Resolution
import CorpusTally.Report

/-!
The path beside a path. It has the same names, but for inner dots, and another one in last place. The path of
the temporary file is of this kind wherever the target can be an entry; whatever the target is, it ends with a
name of its own.
-/

namespace CorpusTally

open Utf8 (Bytes)

open FileTree (IsName here up namesOf)

namespace Path

private def nameOf : Component → Bytes
  | .root => []
  | .current => [dot]
  | .parent => [dot, dot]
  | .normal name => name

private def front (p : Path) : List Component :=
  if p.isAbsolute then [.root] else if (split slash p.bytes).head? = some [dot] then [.current] else []

private theorem components_eq (p : Path) : p.components = p.front ++ (namesOf p).filterMap component? := by
  have skip : (fun name => if decide (name ≠ []) = true then component? name else none) = component? := by
    funext name
    by_cases empty : name = []
    · simp [empty, component?]
    · simp [empty]
  rw [components, front, namesOf, List.filterMap_filter, skip]

private theorem bytes_ofComponents {cs : List Component} (other : cs ≠ [.root]) :
    (ofComponents cs).bytes = joinPieces slash (cs.map nameOf) := by
  rw [ofComponents, if_neg other, joinPieces]
  rfl

private theorem slash_not_mem_nameOf {cs : List Component} (whole : ∀ name, .normal name ∈ cs → slash ∉ name) :
    ∀ piece ∈ cs.map nameOf, slash ∉ piece := by
  intro piece mem
  obtain ⟨c, among, rfl⟩ := List.mem_map.mp mem
  cases c with
  | root | current | parent => simp [nameOf, slash, dot]
  | normal name => exact whole name among

private theorem namesOf_ofComponents {cs : List Component} (whole : ∀ name, .normal name ∈ cs → slash ∉ name) :
    namesOf (ofComponents cs) = (cs.map nameOf).filter (· ≠ []) := by
  by_cases root : cs = [.root]
  · subst root
    decide
  by_cases none : cs = []
  · subst none
    decide
  rw [namesOf, bytes_ofComponents root,
    split_joinPieces (by simpa using none) (slash_not_mem_nameOf whole)]

private theorem isAbsolute_ofComponents {cs : List Component}
    (whole : ∀ name, .normal name ∈ cs → slash ∉ name ∧ name ≠ []) :
    (ofComponents cs).isAbsolute = (cs.head? == some .root) := by
  by_cases root : cs = [.root]
  · subst root
    decide
  have bytes := bytes_ofComponents root
  have relative {name : Bytes} (absent : slash ∉ name) : name.head? ≠ some slash := fun first =>
    absent (List.mem_of_mem_head? first)
  match cs with
  | [] => decide
  | [c] =>
    have single : ∀ name, .normal name ∈ [c] → slash ∉ name := fun name mem => (whole name mem).1
    have absent := slash_not_mem_nameOf single (nameOf c) (by simp)
    have other : c ≠ .root := fun same => root (by rw [same])
    have alone : joinPieces slash ([c].map nameOf) = nameOf c := by simp [joinPieces]
    rw [isAbsolute, bytes, alone]
    simp [relative absent, other]
  | c :: d :: cs =>
    have joined : joinPieces slash ((c :: d :: cs).map nameOf) =
        nameOf c ++ slash :: joinPieces slash ((d :: cs).map nameOf) := by simp [joinPieces]
    rw [isAbsolute, bytes, joined]
    cases c with
    | root => rfl
    | current | parent => rfl
    | normal name =>
      obtain ⟨absent, nonempty⟩ := whole name List.mem_cons_self
      obtain ⟨b, more, rfl⟩ := List.exists_cons_of_ne_nil nonempty
      simpa [nameOf] using relative absent

private theorem filter_nameOf {names : List Bytes} (nonempty : ∀ name ∈ names, name ≠ []) :
    ((names.filterMap component?).map nameOf).filter (· ≠ []) = names.filter (· ≠ here) := by
  induction names with
  | nil => rfl
  | cons name names ih =>
    have rest := ih fun other mem => nonempty other (List.mem_cons_of_mem _ mem)
    have some := nonempty name List.mem_cons_self
    by_cases isHere : name = here
    · subst isHere
      simpa [component?, here] using rest
    · have notDot : name ≠ [dot] := isHere
      by_cases isUp : name = [dot, dot]
      · subst isUp
        simpa [component?, nameOf, here] using rest
      · simpa [component?, nameOf, some, notDot, isUp, isHere] using rest

private theorem component_ne_root (name : Bytes) : component? name ≠ some .root := by
  unfold component?
  split
  · simp
  · split <;> simp

private theorem mem_of_component {names : List Bytes} {name : Bytes}
    (mem : .normal name ∈ names.filterMap component?) : name ∈ names := by
  obtain ⟨other, among, counts⟩ := List.mem_filterMap.mp mem
  unfold component? at counts
  split at counts
  · cases counts
  · split at counts
    · simp at counts
    · obtain rfl := Component.normal.inj (Option.some.inj counts)
      exact among

private theorem front_cases (p : Path) : (p.isAbsolute = true ∧ p.front = [.root]) ∨
    (p.isAbsolute = false ∧ (p.front = [.current] ∨ p.front = [])) := by
  unfold front
  cases p.isAbsolute with
  | true => exact .inl ⟨rfl, rfl⟩
  | false =>
    by_cases first : (split slash p.bytes).head? = some [dot] <;> simp [first]

private theorem head_front (p : Path) (names : List Bytes) :
    ((p.front ++ names.filterMap component?).head? == some .root) = p.isAbsolute := by
  rcases p.front_cases with ⟨absolute, front⟩ | ⟨relative, front | front⟩
  · rw [absolute, front]
    rfl
  · rw [relative, front]
    rfl
  · rw [relative, front, List.nil_append, beq_eq_false_iff_ne]
    intro first
    obtain ⟨name, -, counts⟩ := List.mem_filterMap.mp (List.mem_of_mem_head? first)
    exact component_ne_root name counts

private theorem join_names (base : Path) {name : Bytes} (isName : IsName name) :
    (base.join ⟨name⟩).isAbsolute = base.isAbsolute ∧ namesOf (base.join ⟨name⟩) = namesOf base ++ [name] := by
  by_cases nothing : base.bytes = []
  · have alone : base.join ⟨name⟩ = ⟨name⟩ := by simp [join, nothing]
    have relative : name.head? ≠ some slash := fun first => isName.single (List.mem_of_mem_head? first)
    have empty : namesOf base = [] := by
      rw [namesOf, nothing]
      decide
    have own : namesOf ⟨name⟩ = [name] := by
      simp [namesOf, split_of_not_mem isName.single, isName.nonempty]
    rw [alone, empty, own]
    simp [isAbsolute, nothing, relative]
  · exact ⟨isAbsolute_join nothing isName, namesOf_join nothing isName⟩

theorem withFileName_names {p : Path} {names : List Bytes} {name other : Bytes}
    (ends : namesOf p = names ++ [name]) (notHere : name ≠ here) (notUp : name ≠ up) (isName : IsName other) :
    p.fileName? = some name ∧ (p.withFileName other).isAbsolute = p.isAbsolute ∧
      ∃ others, namesOf (p.withFileName other) = others ++ [other] ∧
        others.filter (· ≠ here) = names.filter (· ≠ here) := by
  have parts : ∀ name ∈ namesOf p, slash ∉ name ∧ name ≠ [] := by
    intro name mem
    obtain ⟨piece, some⟩ := List.mem_filter.mp mem
    exact ⟨not_mem_of_mem_split piece, by simpa using some⟩
  have counts : component? name = some (.normal name) := by
    have some := (parts name (by simp [ends])).2
    have notDot : name ≠ [dot] := notHere
    have notDots : name ≠ [dot, dot] := notUp
    simp [component?, some, notDot, notDots]
  have components : p.components = (p.front ++ names.filterMap component?) ++ [.normal name] := by
    rw [components_eq, ends, List.filterMap_append, ← List.append_assoc]
    simp [counts]
  have file : p.fileName? = some name := by simp [fileName?, components]
  have beside : p.withFileName other = (ofComponents (p.front ++ names.filterMap component?)).join ⟨other⟩ := by
    simp [withFileName, file, parent?, components]
  have whole : ∀ name, .normal name ∈ p.front ++ names.filterMap component? → slash ∉ name ∧ name ≠ [] := by
    intro name mem
    rcases List.mem_append.mp mem with first | later
    · rcases p.front_cases with ⟨-, front⟩ | ⟨-, front | front⟩ <;> simp [front] at first
    · exact parts name (by simp [ends, mem_of_component later])
  obtain ⟨absolute, names'⟩ := join_names (ofComponents (p.front ++ names.filterMap component?)) isName
  rw [isAbsolute_ofComponents whole, head_front] at absolute
  rw [namesOf_ofComponents fun name mem => (whole name mem).1] at names'
  refine ⟨file, beside ▸ absolute, _, beside ▸ names', ?_⟩
  have dots : ((p.front.map nameOf).filter (· ≠ [])).filter (· ≠ here) = [] := by
    rcases p.front_cases with ⟨-, front⟩ | ⟨-, front | front⟩ <;> rw [front] <;> decide
  have nonempty : ∀ name ∈ names, name ≠ [] := fun name mem => (parts name (by simp [ends, mem])).2
  have rest := filter_nameOf nonempty
  rw [List.map_append, List.filter_append, List.filter_append, dots, List.nil_append, rest,
    List.filter_filter]
  simp

end Path

namespace Report

open CorpusTally.Path (slash)

theorem isName_append_suffix {name : Bytes} (single : slash ∉ name) : IsName (name ++ temporarySuffix) := by
  have long : 4 ≤ (name ++ temporarySuffix).length := by
    rw [List.length_append]
    exact Nat.le_add_left _ _
  refine ⟨?_, ?_, ?_, ?_⟩
  · intro same
    simp [same] at long
  · rw [List.mem_append, not_or]
    exact ⟨single, by decide⟩
  · intro same
    simp [same, here] at long
  · intro same
    simp [same, up] at long

theorem exists_temporaryPath (target : Path) : ∃ front, (temporaryPath target).bytes = front ++ temporarySuffix := by
  have joined (base : Path) (name : Bytes) : ∃ front, (base.join ⟨name ++ temporarySuffix⟩).bytes =
      front ++ temporarySuffix := by
    unfold Path.join
    split
    · exact ⟨name, rfl⟩
    · split
      · exact ⟨base.bytes ++ name, by simp⟩
      · exact ⟨base.bytes ++ slash :: name, by simp⟩
  unfold temporaryPath Path.withFileName
  split <;> exact joined _ _

theorem temporaryPath_ends (target : Path) : FileTree.endsInSlash (temporaryPath target) = false ∧
    ∃ front name, namesOf (temporaryPath target) = front ++ [name] ∧ IsName name := by
  obtain ⟨bytes, ends⟩ := exists_temporaryPath target
  have last : (bytes ++ temporarySuffix).getLast? = some 112 := by
    rw [List.getLast?_append_of_ne_nil _ (by decide)]
    decide
  refine ⟨by simp [FileTree.endsInSlash, ends, last, slash], ?_⟩
  rcases List.eq_nil_or_concat' (split slash bytes) with none | ⟨before, piece, pieces⟩
  · exact absurd none (split_ne_nil slash bytes)
  · have single : slash ∉ piece := not_mem_of_mem_split (pieces ▸ List.mem_append_right before List.mem_cons_self)
    have isName := isName_append_suffix single
    refine ⟨before.filter (· ≠ []), piece ++ temporarySuffix, ?_, isName⟩
    rw [namesOf, ends, split_append_of_not_mem (by decide) pieces, List.filter_append]
    simp [isName.nonempty]

end Report

end CorpusTally
