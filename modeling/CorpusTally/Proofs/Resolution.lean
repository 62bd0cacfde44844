import CorpusTally.Proofs.Search

/-!
Following a path that goes on below a directory. Names behind the path of a directory are followed from
where that path leads. Where they are those of directories down to a file, nothing but this file is read.
-/

namespace CorpusTally

open Utf8 (Bytes)

open FileTree (IsName)

namespace Path

private theorem exists_join_eq {base : Path} (some : base.bytes ≠ []) {name : Bytes} (isName : IsName name) :
    ∃ front, base.join ⟨name⟩ = ⟨front ++ slash :: name⟩ ∧
      (base.bytes = front ++ [slash] ∨ base.bytes = front) := by
  have relative : (⟨name⟩ : Path).isAbsolute = false := by
    have head : name.head? ≠ Option.some slash := fun head =>
      isName.single (List.mem_of_mem_head? head)
    simp [isAbsolute, head]
  obtain ⟨bytes⟩ := base
  by_cases ends : bytes.getLast? = Option.some slash
  · obtain ⟨front, rfl⟩ := List.getLast?_eq_some_iff.mp ends
    exact ⟨front, by simp [join, relative], .inl rfl⟩
  · exact ⟨bytes, by simp_all [join], .inr rfl⟩

theorem isAbsolute_join {base : Path} (some : base.bytes ≠ []) {name : Bytes} (isName : IsName name) :
    (base.join ⟨name⟩).isAbsolute = base.isAbsolute := by
  obtain ⟨front, joined, same | same⟩ := exists_join_eq some isName
  · cases front <;> simp [joined, isAbsolute, same]
  · obtain ⟨b, more, rfl⟩ := List.exists_cons_of_ne_nil (same ▸ some)
    simp [joined, isAbsolute, same]

theorem join_ne_nil {base : Path} (some : base.bytes ≠ []) {name : Bytes} (isName : IsName name) :
    (base.join ⟨name⟩).bytes ≠ [] := by
  obtain ⟨front, joined, -⟩ := exists_join_eq some isName
  simp [joined]

theorem namesOf_join {base : Path} (some : base.bytes ≠ []) {name : Bytes} (isName : IsName name) :
    FileTree.namesOf (base.join ⟨name⟩) = FileTree.namesOf base ++ [name] := by
  have own : split slash name = [name] := split_of_not_mem isName.single
  have empty : split slash ([] : Bytes) = [[]] := rfl
  obtain ⟨front, joined, same | same⟩ := exists_join_eq some isName
  all_goals
    simp [joined, FileTree.namesOf, same, split_append, own, empty, isName.nonempty]

theorem endsInSlash_join {base : Path} (some : base.bytes ≠ []) {name : Bytes} (isName : IsName name) :
    FileTree.endsInSlash (base.join ⟨name⟩) = false := by
  obtain ⟨front, joined, -⟩ := exists_join_eq some isName
  have last : (slash :: name).getLast? = name.getLast? := by
    obtain ⟨b, more, rfl⟩ := List.exists_cons_of_ne_nil isName.nonempty
    rfl
  have other : name.getLast? ≠ Option.some slash := fun last =>
    isName.single (List.mem_of_getLast? last)
  simp [joined, FileTree.endsInSlash, last, other, isName.nonempty]

theorem steps_extend {base : Path} (some : base.bytes ≠ []) {way : List Bytes}
    (areNames : ∀ name ∈ way, IsName name) (proceeds : way ≠ []) :
    FileTree.steps (base.extend way) = FileTree.namesOf base ++ way ∧
      (base.extend way).isAbsolute = base.isAbsolute := by
  induction way generalizing base with
  | nil => exact absurd rfl proceeds
  | cons name way ih =>
    have isName := areNames name List.mem_cons_self
    cases way with
    | nil =>
      refine ⟨?_, isAbsolute_join some isName⟩
      change FileTree.steps (base.join ⟨name⟩) = _
      simp [FileTree.steps, endsInSlash_join some isName, namesOf_join some isName]
    | cons next way =>
      obtain ⟨steps, absolute⟩ := ih (join_ne_nil some isName)
        (fun other mem => areNames other (List.mem_cons_of_mem _ mem)) (List.cons_ne_nil _ _)
      refine ⟨?_, absolute.trans (isAbsolute_join some isName)⟩
      change FileTree.steps ((base.join ⟨name⟩).extend (next :: way)) = _
      rw [steps, namesOf_join some isName, List.append_assoc]
      rfl

end Path

namespace FileTree

variable {t : FileTree} {follow : Location → List Bytes → Except IoError Location}
variable {links : Nat} {dir place found : Location} {names tail way : List Bytes}

private theorem walkNames_here (trailing : ∀ name ∈ tail, name = here) :
    t.walkNames true follow dir tail = .ok dir := by
  induction tail with
  | nil => rfl
  | cons name tail ih =>
    have first : name = here := trailing name List.mem_cons_self
    rw [walkNames, if_pos first]
    exact ih fun other mem => trailing other (List.mem_cons_of_mem _ mem)

private theorem walkNames_below (trailing : ∀ name ∈ tail, name = here)
    (same : t.walk true links = t.walkNames true follow) (directory : t.node? place = some .directory)
    (deeper : ∀ {dir names}, follow dir (names ++ tail) = .ok place →
      ∃ left, ∀ way, way ≠ [] → follow dir (names ++ way) = t.walk true left place way)
    (walked : t.walkNames true follow dir (names ++ tail) = .ok place) :
    ∃ left, ∀ way, way ≠ [] →
      t.walkNames true follow dir (names ++ way) = t.walk true left place way := by
  induction names generalizing dir with
  | nil =>
    rw [List.nil_append, walkNames_here trailing] at walked
    obtain rfl := Except.ok.inj walked
    exact ⟨links, fun way _ => by rw [List.nil_append, same]⟩
  | cons name names ih =>
    simp only [List.cons_append, walkNames] at walked ⊢
    by_cases isHere : name = here
    · simp only [isHere, if_true] at walked ⊢
      exact ih walked
    simp only [isHere, if_false] at walked ⊢
    by_cases isUp : name = up
    · simp only [isUp, if_true] at walked ⊢
      exact ih walked
    simp only [isUp, if_false] at walked ⊢
    by_cases long : name.length > maxNameBytes
    · simp [long] at walked
    simp only [long, if_false] at walked ⊢
    match node : t.node? (dir ++ [name]) with
    -- the walk could only end here, and there is no directory
    | none | some (.file _) =>
      simp only [node] at walked
      split at walked
      · obtain rfl := Except.ok.inj walked
        simp [node] at directory
      · cases walked
    | some .directory =>
      simp only [node] at walked
      exact ih walked
    -- behind a link it is the names of its target and those left that are followed, with fewer links
    | some (.link target) =>
      simp only [node, Bool.not_true, Bool.and_false, Bool.false_eq_true, if_false,
        ← List.append_assoc] at walked
      obtain ⟨left, goes⟩ := deeper walked
      refine ⟨left, fun way proceeds => ?_⟩
      simp [← goes way proceeds]

/-- Names behind a way to a directory are followed from there. -/
theorem exists_walk_below (trailing : ∀ name ∈ tail, name = here)
    (walked : t.walk true links dir (names ++ tail) = .ok place)
    (directory : t.node? place = some .directory) :
    ∃ left, ∀ way, way ≠ [] → t.walk true links dir (names ++ way) = t.walk true left place way := by
  induction links generalizing dir names with
  | zero =>
    have same : t.walk true 0 = t.walkNames true fun _ _ => .error .tooManyLinks := rfl
    exact walkNames_below trailing same directory (by simp) walked
  | succ links ih =>
    have same : t.walk true (links + 1) = t.walkNames true (t.walk true links) := rfl
    exact walkNames_below trailing same directory ih walked

structure Leads (t : FileTree) (place : Location) (way : List Bytes) (content : Bytes) : Prop where
  areNames : ∀ name ∈ way, IsName name
  proceeds : way ≠ []
  directories : ∀ n < way.length, t.node? (place ++ way.take n) = some .directory
  file : t.node? (place ++ way) = some (.file content)

private theorem Leads.eq_of_walkNames {content : Bytes} (leads : t.Leads place way content)
    (walked : t.walkNames true follow place way = .ok found) : found = place ++ way := by
  induction way generalizing place with
  | nil => exact absurd rfl leads.proceeds
  | cons name way ih =>
    obtain ⟨areNames, -, directories, file⟩ := leads
    have isName := areNames name List.mem_cons_self
    simp only [walkNames, isName.notHere, isName.notUp, if_false] at walked
    split at walked
    · cases walked
    cases way with
    | nil =>
      simp only [file, if_true] at walked
      exact (Except.ok.inj walked).symm
    | cons next way =>
      have first : t.node? (place ++ [name]) = some .directory := directories 1 (by simp)
      have rest : t.Leads (place ++ [name]) (next :: way) content := by
        refine ⟨fun other mem => areNames other (List.mem_cons_of_mem _ mem), List.cons_ne_nil _ _,
          fun n below => ?_, by simpa using file⟩
        have inside := directories (n + 1) (by simpa using below)
        simpa using inside
      simp only [first] at walked
      simpa using ih rest walked

theorem Leads.eq_of_walk {content : Bytes} (leads : t.Leads place way content)
    (walked : t.walk true links place way = .ok found) : found = place ++ way := by
  cases links with
  | zero =>
    have goes : t.walkNames true (fun _ _ => .error .tooManyLinks) place way = .ok found := walked
    exact leads.eq_of_walkNames goes
  | succ links =>
    have goes : t.walkNames true (t.walk true links) place way = .ok found := walked
    exact leads.eq_of_walkNames goes

theorem walk_of_locate {p : Path} (located : t.locate true p = .ok place) :
    p.bytes ≠ [] ∧ t.walk true maxLinks (startOf t.workDir p) (steps p) = .ok place := by
  obtain ⟨_, taken, walked⟩ := bind_eq_ok located
  refine ⟨fun nothing => ?_, walked⟩
  simp [admissible, nothing] at taken

/-- The path of a directory, extended by the way to a file below it, is read as this file if at all. -/
theorem Leads.eq_of_read {root : Path} {content bytes : Bytes} (leads : t.Leads place way content)
    (looked : t.lookup true root = .ok (place, .directory)) (read : t.read (root.extend way) = .ok bytes) :
    bytes = content := by
  obtain ⟨located, directory⟩ := locate_of_lookup looked
  obtain ⟨some, walked⟩ := walk_of_locate located
  obtain ⟨found, lookedUp⟩ := lookup_of_read read
  obtain ⟨there, node⟩ := locate_of_lookup lookedUp
  obtain ⟨-, goes⟩ := walk_of_locate there
  obtain ⟨names, absolute⟩ := Path.steps_extend some leads.areNames leads.proceeds
  have trailing : ∀ name ∈ (if endsInSlash root then [here] else []), name = here := by
    split <;> simp
  obtain ⟨left, below⟩ := exists_walk_below trailing walked directory
  have same : startOf t.workDir (root.extend way) = startOf t.workDir root := by
    simp only [startOf, absolute]
  rw [names, same, below way leads.proceeds] at goes
  obtain rfl := leads.eq_of_walk goes
  rw [leads.file, Option.some.injEq, Node.file.injEq] at node
  exact node.symm

end FileTree

end CorpusTally
