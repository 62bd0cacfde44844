import CorpusTally.Proofs.Resolution

/-!
What a walk through a tree depends on. It passes directories and links only, so that it leads to the same place
in every tree that keeps them. A walk to an entry goes through the directory of the entry, and it is the same
walk whatever inner dots are left out.
-/

namespace CorpusTally.FileTree

open Utf8 (Bytes)

variable {t u : FileTree} {place other dir found : Location} {node : Node} {p : Path}

private theorem lookup_filter_ne (nodes : List (Location × Node)) (place other : Location) :
    (nodes.filter (·.1 ≠ place)).lookup other = if other = place then none else nodes.lookup other := by
  induction nodes with
  | nil => simp
  | cons entry nodes ih =>
    obtain ⟨first, node⟩ := entry
    by_cases removed : first = place
    · rw [List.filter_cons_of_neg (by simpa using removed), ih]
      split
      · rfl
      · next different => rw [List.lookup_cons, beq_eq_false_iff_ne.mpr (removed ▸ different)]
    · rw [List.filter_cons_of_pos (by simpa using removed), List.lookup_cons, List.lookup_cons, ih]
      by_cases same : other = first
      · simp [same, removed]
      · simp [beq_eq_false_iff_ne.mpr same]

theorem node?_erase (inside : place ≠ []) :
    (t.erase place).node? other = if other = place then none else t.node? other := by
  by_cases root : other = []
  · rw [if_neg (fun same : other = place => inside (same ▸ root)), root]
    rfl
  · rw [node?, if_neg root, erase, lookup_filter_ne, node?, if_neg root]

theorem node?_put (inside : place ≠ []) :
    (t.put place node).node? other = if other = place then some node else t.node? other := by
  by_cases root : other = []
  · rw [if_neg (fun same : other = place => inside (same ▸ root)), root]
    rfl
  · rw [node?, if_neg root, put, List.lookup_cons, lookup_filter_ne]
    by_cases same : other = place
    · simp [same]
    · rw [beq_eq_false_iff_ne.mpr same, if_neg same, if_neg same, node?, if_neg root]

/-- Entries stand in directories, and the working directory is one. -/
structure Rooted (t : FileTree) : Prop where
  parents : ∀ entry ∈ t.nodes, t.node? entry.1.dropLast = some .directory
  workDir : t.node? t.workDir = some .directory

instance (t : FileTree) : Decidable t.Rooted :=
  decidable_of_iff ((∀ entry ∈ t.nodes, t.node? entry.1.dropLast = some .directory) ∧
      t.node? t.workDir = some .directory)
    ⟨fun both => ⟨both.1, both.2⟩, fun rooted => ⟨rooted.parents, rooted.workDir⟩⟩

theorem ne_nil_of_node? (other : t.node? place ≠ some .directory) : place ≠ [] := by
  rintro rfl
  exact other rfl

theorem Rooted.parent (rooted : t.Rooted) (here : t.node? place = some node) :
    t.node? place.dropLast = some .directory := by
  unfold node? at here
  split at here
  · next root =>
    subst root
    rfl
  · obtain ⟨before, after, nodes, -⟩ := List.lookup_eq_some_iff.mp here
    exact rooted.parents (place, node) (by simp [nodes])

theorem Rooted.put (rooted : t.Rooted) (inside : t.node? place.dropLast = some .directory)
    (other : t.node? place ≠ some .directory) : (t.put place node).Rooted := by
  have nonroot := ne_nil_of_node? other
  have kept : ∀ dir, t.node? dir = some .directory → (t.put place node).node? dir = some .directory := by
    intro dir directory
    rw [node?_put nonroot, if_neg (fun same : dir = place => other (same ▸ directory)), directory]
  refine ⟨fun entry mem => kept _ ?_, kept _ rooted.workDir⟩
  rcases List.mem_cons.mp mem with rfl | old
  · exact inside
  · exact rooted.parents entry (List.mem_of_mem_filter old)

theorem Rooted.erase (rooted : t.Rooted) (other : t.node? place ≠ some .directory) :
    (t.erase place).Rooted := by
  have nonroot := ne_nil_of_node? other
  have kept : ∀ dir, t.node? dir = some .directory → (t.erase place).node? dir = some .directory := by
    intro dir directory
    rw [node?_erase nonroot, if_neg (fun same : dir = place => other (same ▸ directory)), directory]
  exact ⟨fun entry mem => kept _ (rooted.parents entry (List.mem_of_mem_filter mem)), kept _ rooted.workDir⟩

structure IsEntry (name : Bytes) : Prop where
  notHere : name ≠ here
  notUp : name ≠ up
  short : name.length ≤ maxNameBytes

/-- A walk that arrives, step by step. -/
inductive Walks (t : FileTree) (last : Bool) : Nat → Location → List Bytes → Location → Prop
  | done {links dir} : Walks t last links dir [] dir
  | stay {links dir rest found} (goes : Walks t last links dir rest found) :
      Walks t last links dir (here :: rest) found
  | back {links dir rest found} (goes : Walks t last links dir.dropLast rest found) :
      Walks t last links dir (up :: rest) found
  | enter {links dir name rest found} (isEntry : IsEntry name)
      (directory : t.node? (dir ++ [name]) = some .directory)
      (goes : Walks t last links (dir ++ [name]) rest found) :
      Walks t last links dir (name :: rest) found
  | stop {links dir name} (isEntry : IsEntry name) (other : t.node? (dir ++ [name]) ≠ some .directory)
      (noLink : last = true → ∀ target, t.node? (dir ++ [name]) ≠ some (.link target)) :
      Walks t last links dir [name] (dir ++ [name])
  | follow {links dir name rest found target} (isEntry : IsEntry name)
      (link : t.node? (dir ++ [name]) = some (.link target)) (onward : rest ≠ [] ∨ last = true)
      (goes : Walks t last links (startOf dir target) (steps target ++ rest) found) :
      Walks t last (links + 1) dir (name :: rest) found

variable {last : Bool} {links : Nat} {names front rest : List Bytes} {name : Bytes}
variable {follow : Location → List Bytes → Except IoError Location}

private theorem walkNames_entry (isEntry : IsEntry name) : t.walkNames last follow dir (name :: rest) =
    match t.node? (dir ++ [name]) with
    | none => if rest = [] then .ok (dir ++ [name]) else .error .notFound
    | some .directory => t.walkNames last follow (dir ++ [name]) rest
    | some (.file _) => if rest = [] then .ok (dir ++ [name]) else .error .notADirectory
    | some (.link target) =>
      if rest = [] && !last then .ok (dir ++ [name]) else follow (startOf dir target) (steps target ++ rest) := by
  refine (if_neg isEntry.notHere).trans ((if_neg isEntry.notUp).trans ?_)
  exact if_neg (Nat.not_lt.mpr isEntry.short)

private theorem walks_of_walkNames {next : Nat}
    (deeper : ∀ {dir names}, follow dir names = .ok found → ∃ left, next = left + 1 ∧ Walks t last left dir names found)
    (walked : t.walkNames last follow dir names = .ok found) : Walks t last next dir names found := by
  induction names generalizing dir with
  | nil =>
    obtain rfl := Except.ok.inj walked
    exact .done
  | cons name names ih =>
    by_cases isHere : name = here
    · subst isHere
      exact .stay (ih walked)
    by_cases isUp : name = up
    · subst isUp
      exact .back (ih walked)
    by_cases long : name.length > maxNameBytes
    · simp [walkNames, isHere, isUp, long] at walked
    have isEntry : IsEntry name := ⟨isHere, isUp, Nat.not_lt.mp long⟩
    rw [walkNames_entry isEntry] at walked
    rcases node : t.node? (dir ++ [name]) with _ | _ | _ | target
    case some.directory =>
      simp only [node] at walked
      exact .enter isEntry node (ih walked)
    case some.link =>
      simp only [node] at walked
      split at walked
      · next ends =>
        simp only [Bool.and_eq_true, decide_eq_true_eq, Bool.not_eq_true'] at ends
        obtain rfl := Except.ok.inj walked
        obtain ⟨rfl, rfl⟩ := ends
        exact .stop isEntry (by simp [node]) (by simp)
      · next onward =>
        obtain ⟨left, rfl, goes⟩ := deeper walked
        refine .follow isEntry node ?_ goes
        cases last <;> simp_all
    all_goals
      simp only [node] at walked
      split at walked
      · next nothing =>
        obtain rfl := Except.ok.inj walked
        subst nothing
        exact .stop isEntry (by simp [node]) (by simp [node])
      · cases walked

theorem walk_eq_ok_iff : t.walk last links dir names = .ok found ↔ Walks t last links dir names found := by
  constructor
  · intro walked
    induction links generalizing dir names with
    | zero => exact walks_of_walkNames (by simp) walked
    | succ links ih => exact walks_of_walkNames (fun goes => ⟨links, rfl, ih goes⟩) walked
  · intro walks
    have unfolded : ∀ links, ∃ follow, ∀ dir names, t.walk last links dir names =
        t.walkNames last follow dir names := by
      intro links
      cases links <;> exact ⟨_, fun _ _ => rfl⟩
    induction walks with
    | @done links =>
      obtain ⟨follow, same⟩ := unfolded links
      rw [same, walkNames]
    | @stay links _ _ _ _ ih =>
      obtain ⟨follow, same⟩ := unfolded links
      rwa [same, walkNames, if_pos rfl, ← same]
    | @back links _ _ _ _ ih =>
      obtain ⟨follow, same⟩ := unfolded links
      rwa [same, walkNames, if_neg (by decide), if_pos rfl, ← same]
    | @enter links _ _ _ _ isEntry directory _ ih =>
      obtain ⟨follow, same⟩ := unfolded links
      rwa [same, walkNames_entry isEntry, directory, ← same]
    | @stop links dir name isEntry other noLink =>
      obtain ⟨follow, same⟩ := unfolded links
      rw [same, walkNames_entry isEntry]
      rcases node : t.node? (dir ++ [name]) with _ | _ | _ | target
      case some.directory => exact absurd node other
      case some.link =>
        cases last with
        | false => rfl
        | true => exact absurd node (noLink rfl target)
      all_goals rfl
    | @follow links _ _ rest _ _ isEntry link onward _ ih =>
      rw [walk, walkNames_entry isEntry, link]
      have going : ¬ (decide (rest = []) && !last) = true := by
        rcases onward with more | rfl <;> simp_all
      simpa only [going, if_false, Bool.false_eq_true] using ih

theorem node?_startOf (start : t.node? dir = some .directory) (p : Path) :
    t.node? (startOf dir p) = some .directory := by
  unfold startOf
  split
  · rfl
  · exact start

theorem Walks.directory (walks : Walks t last links dir names found) (rooted : t.Rooted)
    (start : t.node? dir = some .directory) (stays : ∀ name ∈ names.getLast?, name = here ∨ name = up) :
    t.node? found = some .directory := by
  have later {name : Bytes} {rest : List Bytes} (stays : ∀ other ∈ (name :: rest).getLast?, other = here ∨ other = up) :
      ∀ other ∈ rest.getLast?, other = here ∨ other = up := by
    intro other mem
    apply stays other
    rw [List.getLast?_cons, mem]
    rfl
  induction walks with
  | done => exact start
  | stay _ ih => exact ih start (later stays)
  | back _ ih => exact ih (rooted.parent start) (later stays)
  | enter _ directory _ ih => exact ih directory (later stays)
  | stop isEntry =>
    rcases stays _ rfl with isHere | isUp
    · exact absurd isHere isEntry.notHere
    · exact absurd isUp isEntry.notUp
  | @follow _ _ _ rest _ target isEntry _ _ _ ih =>
    cases rest with
    | nil =>
      rcases stays _ rfl with isHere | isUp
      · exact absurd isHere isEntry.notHere
      · exact absurd isUp isEntry.notUp
    | cons next rest =>
      apply ih (node?_startOf start target)
      intro other mem
      rw [List.getLast?_append_of_ne_nil _ (List.cons_ne_nil next rest)] at mem
      exact later stays other mem

theorem Walks.ne_link (walks : Walks t true links dir names found) (rooted : t.Rooted)
    (start : t.node? dir = some .directory) (target : Path) : t.node? found ≠ some (.link target) := by
  induction walks with
  | done => simp [start]
  | stay _ ih => exact ih start
  | back _ ih => exact ih (rooted.parent start)
  | enter _ directory _ ih => exact ih directory
  | stop _ _ noLink => exact noLink rfl target
  | @follow _ _ _ _ _ other _ _ _ _ ih => exact ih (node?_startOf start other)

/-- All that a walk can pass in the one tree is in the other as well. -/
structure Keeps (t u : FileTree) : Prop where
  workDir : u.workDir = t.workDir
  directories : ∀ place, t.node? place = some .directory → u.node? place = some .directory
  links : ∀ place target, t.node? place = some (.link target) → u.node? place = some (.link target)

/-- Where nothing is lost that can be passed, a walk leads to the same place, unless a link stands there now. -/
theorem Walks.keeps (walks : Walks t last links dir names found) (keeps : Keeps t u)
    (stays : ∀ target, u.node? found = some (.link target) → t.node? found = some (.link target)) :
    Walks u last links dir names found := by
  induction walks with
  | done => exact .done
  | stay _ ih => exact .stay (ih stays)
  | back _ ih => exact .back (ih stays)
  | enter isEntry directory _ ih => exact .enter isEntry (keeps.directories _ directory) (ih stays)
  | @stop _ dir name isEntry _ noLink =>
    by_cases directory : u.node? (dir ++ [name]) = some .directory
    · exact .enter isEntry directory .done
    · exact .stop isEntry directory fun follows target link => noLink follows target (stays target link)
  | follow isEntry link onward _ ih => exact .follow isEntry (keeps.links _ _ link) onward (ih stays)

private theorem Walks.cut_nothing (walks : Walks t last links dir names found) (whole : [] ++ rest = names) :
    ∃ between left, Walks t last links dir ([] ++ [here]) between ∧ Walks t last left between rest found := by
  obtain rfl : rest = names := whole
  exact ⟨dir, links, .stay .done, walks⟩

theorem Walks.cut (walks : Walks t last links dir (front ++ rest) found) (onward : rest ≠ []) :
    ∃ between left, Walks t last links dir (front ++ [here]) between ∧ Walks t last left between rest found := by
  generalize whole : front ++ rest = names at walks
  induction walks generalizing front with
  | done => exact absurd (List.append_eq_nil_iff.mp whole).2 onward
  | stay goes ih =>
    cases front with
    | nil => exact Walks.cut_nothing (.stay goes) whole
    | cons name front =>
      obtain ⟨rfl, same⟩ := List.cons.inj whole
      obtain ⟨between, left, before, after⟩ := ih same
      exact ⟨between, left, .stay before, after⟩
  | back goes ih =>
    cases front with
    | nil => exact Walks.cut_nothing (.back goes) whole
    | cons name front =>
      obtain ⟨rfl, same⟩ := List.cons.inj whole
      obtain ⟨between, left, before, after⟩ := ih same
      exact ⟨between, left, .back before, after⟩
  | enter isEntry directory goes ih =>
    cases front with
    | nil => exact Walks.cut_nothing (.enter isEntry directory goes) whole
    | cons name front =>
      obtain ⟨rfl, same⟩ := List.cons.inj whole
      obtain ⟨between, left, before, after⟩ := ih same
      exact ⟨between, left, .enter isEntry directory before, after⟩
  | stop isEntry other noLink =>
    cases front with
    | nil => exact Walks.cut_nothing (.stop isEntry other noLink) whole
    | cons name front =>
      obtain ⟨-, same⟩ := List.cons.inj whole
      exact absurd (List.append_eq_nil_iff.mp same).2 onward
  | follow isEntry link more goes ih =>
    cases front with
    | nil => exact Walks.cut_nothing (.follow isEntry link more goes) whole
    | cons name front =>
      -- the target of the link comes in front of the names that are left
      obtain ⟨rfl, rfl⟩ := List.cons.inj whole
      obtain ⟨between, left, before, after⟩ := ih (List.append_assoc _ _ _)
      rw [List.append_assoc] at before
      exact ⟨between, left, .follow isEntry link (.inl (by simp)) before, after⟩

theorem Walks.entry (walks : Walks t last links dir (name :: rest) found) (notHere : name ≠ here)
    (notUp : name ≠ up) : IsEntry name ∧
      ((t.node? (dir ++ [name]) = some .directory ∧ Walks t last links (dir ++ [name]) rest found) ∨
        (rest = [] ∧ found = dir ++ [name]) ∨ ∃ target, t.node? (dir ++ [name]) = some (.link target)) := by
  cases walks with
  | stay => exact absurd rfl notHere
  | back => exact absurd rfl notUp
  | enter isEntry directory goes => exact ⟨isEntry, .inl ⟨directory, goes⟩⟩
  | stop isEntry => exact ⟨isEntry, .inr (.inl ⟨rfl, rfl⟩)⟩
  | follow isEntry link => exact ⟨isEntry, .inr (.inr ⟨_, link⟩)⟩

theorem Walks.append (walks : Walks t last links dir (front ++ [here]) found) (isEntry : IsEntry name)
    (noLink : ∀ target, t.node? (found ++ [name]) ≠ some (.link target)) :
    Walks t last links dir (front ++ [name]) (found ++ [name]) := by
  generalize whole : front ++ [here] = names at walks
  induction walks generalizing front with
  | done => simp at whole
  | @stay _ dir rest _ goes ih =>
    cases front with
    | nil =>
      obtain ⟨-, rfl⟩ := List.cons.inj whole
      cases goes
      by_cases directory : t.node? (dir ++ [name]) = some .directory
      · exact .enter isEntry directory .done
      · exact .stop isEntry directory fun _ => noLink
    | cons other front =>
      obtain ⟨rfl, same⟩ := List.cons.inj whole
      exact .stay (ih noLink same)
  | back goes ih =>
    cases front with
    | nil => cases (List.cons.inj whole).1
    | cons other front =>
      obtain ⟨rfl, same⟩ := List.cons.inj whole
      exact .back (ih noLink same)
  | enter entry directory goes ih =>
    cases front with
    | nil => exact absurd (List.cons.inj whole).1.symm entry.notHere
    | cons other front =>
      obtain ⟨rfl, same⟩ := List.cons.inj whole
      exact .enter entry directory (ih noLink same)
  | stop entry =>
    cases front with
    | nil => exact absurd (List.cons.inj whole).1.symm entry.notHere
    | cons other front => simp at whole
  | follow entry link _ _ ih =>
    cases front with
    | nil => exact absurd (List.cons.inj whole).1.symm entry.notHere
    | cons other front =>
      obtain ⟨rfl, rfl⟩ := List.cons.inj whole
      have below := ih noLink (List.append_assoc _ _ _)
      rw [List.append_assoc] at below
      exact .follow entry link (.inl (by simp)) below

private theorem Walks.skip {heres : List Bytes} (all : ∀ name ∈ heres, name = here)
    (walks : Walks t last links dir names found) : Walks t last links dir (heres ++ names) found := by
  induction heres with
  | nil => exact walks
  | cons name heres ih =>
    obtain rfl := all name List.mem_cons_self
    exact .stay (ih fun other mem => all other (List.mem_cons_of_mem _ mem))

theorem Walks.of_filter (walks : Walks t last links dir (front ++ [here]) found) {other : List Bytes}
    (same : other.filter (· ≠ here) = front.filter (· ≠ here)) :
    Walks t last links dir (other ++ [here]) found := by
  generalize whole : front ++ [here] = names at walks
  -- the names in front of the first one that counts are dots
  have split {name : Bytes} {front other : List Bytes} (isEntry : name ≠ here)
      (same : other.filter (· ≠ here) = (name :: front).filter (· ≠ here)) :
      ∃ heres rest, other = heres ++ name :: rest ∧ (∀ name ∈ heres, name = here) ∧
        rest.filter (· ≠ here) = front.filter (· ≠ here) := by
    rw [List.filter_cons_of_pos (by simpa using isEntry)] at same
    obtain ⟨heres, rest, cut, none, -, others⟩ := List.filter_eq_cons_iff.mp same
    exact ⟨heres, rest, cut, fun name mem => by simpa using none name mem, others⟩
  induction walks generalizing front other with
  | done => simp at whole
  | stay goes ih =>
    cases front with
    | nil =>
      obtain ⟨-, rfl⟩ := List.cons.inj whole
      cases goes
      refine Walks.skip (fun name mem => ?_) (.stay .done)
      simpa using List.filter_eq_nil_iff.mp same name mem
    | cons name front =>
      obtain ⟨rfl, rest⟩ := List.cons.inj whole
      exact ih (by simpa using same) rest
  | back goes ih =>
    cases front with
    | nil => cases (List.cons.inj whole).1
    | cons name front =>
      obtain ⟨rfl, more⟩ := List.cons.inj whole
      obtain ⟨heres, rest, rfl, all, others⟩ := split (by decide) same
      rw [List.append_assoc]
      exact Walks.skip all (.back (ih others more))
  | enter isEntry directory goes ih =>
    cases front with
    | nil => exact absurd (List.cons.inj whole).1.symm isEntry.notHere
    | cons name front =>
      obtain ⟨rfl, more⟩ := List.cons.inj whole
      obtain ⟨heres, rest, rfl, all, others⟩ := split isEntry.notHere same
      rw [List.append_assoc]
      exact Walks.skip all (.enter isEntry directory (ih others more))
  | stop isEntry =>
    cases front with
    | nil => exact absurd (List.cons.inj whole).1.symm isEntry.notHere
    | cons name front => simp at whole
  | @follow _ _ _ _ _ target isEntry link onward goes ih =>
    cases front with
    | nil => exact absurd (List.cons.inj whole).1.symm isEntry.notHere
    | cons name front =>
      obtain ⟨rfl, rfl⟩ := List.cons.inj whole
      obtain ⟨heres, rest, rfl, all, others⟩ := split isEntry.notHere same
      have filters : (steps target ++ rest).filter (· ≠ here) = (steps target ++ front).filter (· ≠ here) := by
        rw [List.filter_append, List.filter_append, others]
      have below := ih filters (List.append_assoc _ _ _)
      rw [List.append_assoc] at below
      rw [List.append_assoc]
      exact Walks.skip all (.follow isEntry link (.inl (by simp)) below)

theorem Walks.unique (walks : Walks t last links dir names found)
    (again : Walks t last links dir names other) : found = other :=
  Except.ok.inj ((walk_eq_ok_iff.mpr walks).symm.trans (walk_eq_ok_iff.mpr again))

end CorpusTally.FileTree
