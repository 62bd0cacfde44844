import CorpusTally.Proofs.Run
import CorpusTally.Proofs.Tree.Walks

/-!
Where paths lead to. The last name of a path has its place in a directory, whether or not there is an entry.
A file is written where its path leads to, and moved from the place of the one path to that of the other. Making
directories adds nothing but directories at the places of paths above, and leads no path elsewhere.
-/

namespace CorpusTally.FileTree

open Utf8 (Bytes)

variable {t u v : FileTree} {dir place : Location} {name content : Bytes} {front : List Bytes} {p : Path}

theorem Rooted.start (rooted : t.Rooted) (p : Path) : t.node? (startOf t.workDir p) = some .directory :=
  node?_startOf rooted.workDir p

theorem locate_eq_ok_iff {last : Bool} : t.locate last p = .ok place ↔
    admissible p = .ok () ∧ Walks t last maxLinks (startOf t.workDir p) (steps p) place := by
  rw [← walk_eq_ok_iff, locate]
  cases admissible p with
  | error e => simp [bind, Except.bind]
  | ok taken => simp [bind, Except.bind]

theorem parentOf_eq_ok_iff : t.parentOf p = .ok (dir, some name) ↔
    admissible p = .ok () ∧ IsEntry name ∧ ∃ front, namesOf p = front ++ [name] ∧
      Walks t true maxLinks (startOf t.workDir p) (front ++ [here]) dir := by
  constructor
  · intro found
    obtain ⟨_, taken, found⟩ := bind_eq_ok found
    obtain ⟨between, walked, found⟩ := bind_eq_ok found
    split at found
    · cases found
    · next last names =>
      split at found
      · cases found
      next counts =>
      split at found
      · cases found
      next short =>
      obtain ⟨rfl, same⟩ := Prod.mk.inj (Except.ok.inj found)
      obtain rfl := Option.some.inj same
      simp only [Bool.or_eq_true, decide_eq_true_eq, not_or] at counts
      obtain ⟨front, names⟩ := List.getLast?_eq_some_iff.mp names
      refine ⟨taken, ⟨counts.1, counts.2, Nat.not_lt.mp short⟩, front, names, walk_eq_ok_iff.mp ?_⟩
      rwa [names, List.dropLast_concat] at walked
  · rintro ⟨taken, isEntry, front, names, walks⟩
    have walked := walk_eq_ok_iff.mpr walks
    simp [parentOf, taken, names, walked, isEntry.notHere, isEntry.notUp, Nat.not_lt.mpr isEntry.short,
      bind, Except.bind, pure, Except.pure]

/-- A path to an entry leads to the place of its last name, or on from there by a link. -/
theorem parentOf_of_locate (located : t.locate true p = .ok place) (names : namesOf p = front ++ [name])
    (notHere : name ≠ here) (notUp : name ≠ up) :
    ∃ dir, t.parentOf p = .ok (dir, some name) ∧
      (place = dir ++ [name] ∨ ∃ target, t.node? (dir ++ [name]) = some (.link target)) := by
  obtain ⟨taken, walks⟩ := locate_eq_ok_iff.mp located
  rw [steps, names, List.append_assoc] at walks
  obtain ⟨dir, left, before, after⟩ := walks.cut (by simp)
  obtain ⟨isEntry, goes⟩ := after.entry notHere notUp
  refine ⟨dir, parentOf_eq_ok_iff.mpr ⟨taken, isEntry, front, names, before⟩, ?_⟩
  rcases goes with ⟨-, goes⟩ | ⟨-, rfl⟩ | link
  · left
    split at goes
    · cases goes with
      | stay done =>
        cases done
        rfl
      | enter isHere | stop isHere | follow isHere => exact absurd rfl isHere.notHere
    · cases goes
      rfl
  · exact .inl rfl
  · exact .inr link

theorem locate_of_parentOf (found : t.parentOf p = .ok (dir, some name)) (closed : endsInSlash p = false)
    (noLink : ∀ target, t.node? (dir ++ [name]) ≠ some (.link target)) :
    t.locate true p = .ok (dir ++ [name]) := by
  obtain ⟨taken, isEntry, front, names, walks⟩ := parentOf_eq_ok_iff.mp found
  refine locate_eq_ok_iff.mpr ⟨taken, ?_⟩
  rw [steps, names, closed]
  simpa using walks.append isEntry noLink

theorem Rooted.directory (rooted : t.Rooted) (found : t.parentOf p = .ok (dir, some name)) :
    t.node? dir = some .directory := by
  obtain ⟨-, -, front, -, walks⟩ := parentOf_eq_ok_iff.mp found
  exact walks.directory rooted (rooted.start p) (by simp)

theorem Keeps.parentOf (keeps : Keeps t u) (rooted : t.Rooted) (found : t.parentOf p = .ok (dir, some name)) :
    u.parentOf p = .ok (dir, some name) := by
  have directory := keeps.directories dir (rooted.directory found)
  obtain ⟨taken, isEntry, front, names, walks⟩ := parentOf_eq_ok_iff.mp found
  refine parentOf_eq_ok_iff.mpr ⟨taken, isEntry, front, names, ?_⟩
  have kept := walks.keeps keeps (by simp [directory])
  rwa [startOf, ← keeps.workDir] at kept

theorem Keeps.locate (keeps : Keeps t u) (located : t.locate true p = .ok place)
    (stays : ∀ target, u.node? place = some (.link target) → t.node? place = some (.link target)) :
    u.locate true p = .ok place := by
  obtain ⟨taken, walks⟩ := locate_eq_ok_iff.mp located
  have kept := walks.keeps keeps stays
  rw [startOf, ← keeps.workDir] at kept
  exact locate_eq_ok_iff.mpr ⟨taken, kept⟩

theorem Rooted.ne_link_of_locate (rooted : t.Rooted) (located : t.locate true p = .ok place) (target : Path) :
    t.node? place ≠ some (.link target) :=
  (locate_eq_ok_iff.mp located).2.ne_link rooted (rooted.start p) target

theorem read_eq_ok_iff : t.read p = .ok content ↔ ∃ place, t.lookup true p = .ok (place, .file content) := by
  constructor
  · exact lookup_of_read
  · rintro ⟨place, looked⟩
    simp [FileTree.read, looked, bind, Except.bind, pure, Except.pure]

/-- A path to a file ends with a name of its own, which is that of the file or of a link to it. -/
theorem Rooted.entry_of_lookup (rooted : t.Rooted)
    (looked : t.lookup true p = .ok (place, .file content)) :
    endsInSlash p = false ∧ ∃ dir name, t.parentOf p = .ok (dir, some name) ∧
      (place = dir ++ [name] ∨ ∃ target, t.node? (dir ++ [name]) = some (.link target)) := by
  obtain ⟨located, file⟩ := locate_of_lookup looked
  obtain ⟨-, walks⟩ := locate_eq_ok_iff.mp located
  -- a walk that stays where it is at the end has come to a directory
  have moves : ¬ ∀ name ∈ (steps p).getLast?, name = here ∨ name = up := by
    intro stays
    have directory := walks.directory rooted (rooted.start p) stays
    rw [file] at directory
    cases directory
  have closed : endsInSlash p = false := by
    cases slash : endsInSlash p with
    | false => rfl
    | true =>
      refine absurd ?_ moves
      simp [steps, slash]
  rw [steps, closed] at moves
  rcases List.eq_nil_or_concat' (namesOf p) with none | ⟨front, name, names⟩
  · simp [none] at moves
  · simp [names] at moves
    obtain ⟨dir, found, leads⟩ := parentOf_of_locate located names moves.1 moves.2
    exact ⟨closed, dir, name, found, leads⟩

private theorem node?_put_file (other : t.node? place ≠ some .directory)
    (noLink : ∀ target, t.node? place ≠ some (.link target)) {node : Node} (passes : ∀ content, node ≠ .file content)
    (elsewhere : Location) :
    (t.put place (.file content)).node? elsewhere = some node ↔ t.node? elsewhere = some node := by
  rw [node?_put (ne_nil_of_node? other)]
  split
  · next same =>
    subst same
    constructor
    · intro impossible
      exact absurd (Option.some.inj impossible).symm (passes content)
    · intro here
      cases node with
      | file content => exact absurd rfl (passes content)
      | directory => exact absurd here other
      | link target => exact absurd here (noLink target)
  · rfl

theorem keeps_put_file (content : Bytes) (other : t.node? place ≠ some .directory)
    (noLink : ∀ target, t.node? place ≠ some (.link target)) :
    Keeps t (t.put place (.file content)) ∧ Keeps (t.put place (.file content)) t where
  left := ⟨rfl, fun elsewhere => (node?_put_file other noLink (by simp) elsewhere).mpr,
    fun elsewhere _ => (node?_put_file other noLink (by simp) elsewhere).mpr⟩
  right := ⟨rfl, fun elsewhere => (node?_put_file other noLink (by simp) elsewhere).mp,
    fun elsewhere _ => (node?_put_file other noLink (by simp) elsewhere).mp⟩

variable {source target : Path}

theorem Rooted.put_free (rooted : t.Rooted) (found : t.parentOf p = .ok (dir, some name))
    (free : t.node? (dir ++ [name]) = none) (content : Bytes) : (t.put (dir ++ [name]) (.file content)).Rooted ∧
      (t.put (dir ++ [name]) (.file content)).parentOf p = .ok (dir, some name) ∧
      Keeps (t.put (dir ++ [name]) (.file content)) t := by
  have other : t.node? (dir ++ [name]) ≠ some .directory := by simp [free]
  obtain ⟨ahead, back⟩ := keeps_put_file content other (by simp [free])
  refine ⟨?_, ahead.parentOf rooted found, back⟩
  apply rooted.put _ other
  rw [List.dropLast_concat, rooted.directory found]

theorem put_of_writeFile (rooted : t.Rooted) (wrote : t.writeFile p content = .ok u) :
    ∃ place, t.locate true p = .ok place ∧ t.node? place ≠ some .directory ∧
      (∀ target, t.node? place ≠ some (.link target)) ∧ u = t.put place (.file content) := by
  obtain ⟨place, located, wrote⟩ := bind_eq_ok wrote
  split at wrote
  · cases wrote
  · next other => exact ⟨place, located, other, rooted.ne_link_of_locate located, (Except.ok.inj wrote).symm⟩

theorem put_of_rename (renamed : t.rename source target = .ok u) :
    ∃ sourceDir sourceName dir name node, t.parentOf source = .ok (sourceDir, some sourceName) ∧
      t.parentOf target = .ok (dir, some name) ∧ t.node? (sourceDir ++ [sourceName]) = some node ∧
      node ≠ .directory ∧ endsInSlash target = false ∧ t.node? (dir ++ [name]) ≠ some .directory ∧
      u = (t.erase (sourceDir ++ [sourceName])).put (dir ++ [name]) node := by
  obtain ⟨⟨sourceDir, sourceName?⟩, sourceFound, renamed⟩ := bind_eq_ok renamed
  obtain ⟨⟨dir, name?⟩, found, renamed⟩ := bind_eq_ok renamed
  cases sourceName? with
  | none => cases renamed
  | some sourceName =>
    cases name? with
    | none => cases renamed
    | some name =>
      dsimp only at renamed
      split at renamed
      · cases renamed
      · cases renamed
      next node notDirectory here =>
      split at renamed
      · cases renamed
      next closed =>
      split at renamed
      · cases renamed
      next other =>
      refine ⟨sourceDir, sourceName, dir, name, node, sourceFound, found, here, ?_, by simpa using closed, other,
        (Except.ok.inj renamed).symm⟩
      rintro rfl
      exact notDirectory rfl

/-- Whatever is no directory can be moved to every entry but a directory. -/
theorem blocked_of_rename {sourceDir : Location} {sourceName : Bytes} {node : Node} {e : IoError}
    (broken : t.rename source target = .error e) (sourceFound : t.parentOf source = .ok (sourceDir, some sourceName))
    (here : t.node? (sourceDir ++ [sourceName]) = some node) (movable : node ≠ .directory)
    (found : t.parentOf target = .ok (dir, some name)) :
    endsInSlash target = true ∨ t.node? (dir ++ [name]) = some .directory := by
  by_contra free
  rw [not_or] at free
  obtain ⟨closed, other⟩ := free
  have moves : t.rename source target =
      .ok ((t.erase (sourceDir ++ [sourceName])).put (dir ++ [name]) node) := by
    cases node with
    | directory => exact absurd rfl movable
    | file | link => simp [rename, sourceFound, found, here, closed, bind, Except.bind, pure, Except.pure]
  rw [moves] at broken
  cases broken

theorem not_file_of_blocked (rooted : t.Rooted)
    (blocked : ∀ dir name, t.parentOf target = .ok (dir, some name) →
      endsInSlash target = true ∨ t.node? (dir ++ [name]) = some .directory) (content : Bytes) :
    t.lookup true target ≠ .ok (place, .file content) := by
  intro looked
  obtain ⟨closed, dir, name, found, leads⟩ := rooted.entry_of_lookup looked
  rcases blocked dir name found with slash | directory
  · rw [closed] at slash
    cases slash
  · rcases leads with rfl | ⟨other, link⟩
    · rw [(locate_of_lookup looked).2] at directory
      cases directory
    · rw [link] at directory
      cases directory

def entryPlace? (t : FileTree) (p : Path) : Option Location :=
  match t.parentOf p with
  | .ok (dir, some name) => some (dir ++ [name])
  | .ok (_, none) | .error _ => none

theorem entryPlace?_eq_some_iff :
    t.entryPlace? p = some place ↔ ∃ dir name, t.parentOf p = .ok (dir, some name) ∧ dir ++ [name] = place := by
  unfold entryPlace?
  constructor
  · intro found
    split at found
    · next here => exact ⟨_, _, here, Option.some.inj found⟩
    · cases found
    · cases found
  · rintro ⟨dir, name, found, rfl⟩
    rw [found]

def OnTheWay (t : FileTree) (p : Path) (place : Location) : Prop :=
  ∃ above, Reaches (fun q r : Path => q.parent? = some r) p above ∧ t.entryPlace? above = some place

/-- A tree with more directories, all of them at such places. -/
structure Grows (t u : FileTree) (made : Location → Prop) : Prop where
  workDir : u.workDir = t.workDir
  rooted : u.Rooted
  nodes : ∀ place, u.node? place = t.node? place ∨
    t.node? place = none ∧ u.node? place = some .directory ∧ made place

variable {made made' : Location → Prop}

theorem Grows.refl (rooted : t.Rooted) : Grows t t made := ⟨rfl, rooted, fun _ => .inl rfl⟩

theorem Grows.keeps (grows : Grows t u made) : Keeps t u where
  workDir := grows.workDir
  directories := by
    intro place directory
    rcases grows.nodes place with same | ⟨none, -⟩
    · rw [same, directory]
    · simp [directory] at none
  links := by
    intro place target link
    rcases grows.nodes place with same | ⟨none, -⟩
    · rw [same, link]
    · simp [link] at none

theorem Grows.files (grows : Grows t u made) :
    u.node? place = some (.file content) ↔ t.node? place = some (.file content) := by
  rcases grows.nodes place with same | ⟨free, directory, -⟩
  · rw [same]
  · simp [free, directory]

/-- The file that a path leads to was there before. Either the path led there already or it led nowhere. -/
theorem Grows.lookup_file (grows : Grows t u made) (looked : u.lookup true p = .ok (place, .file content)) :
    t.lookup true p = .ok (place, .file content) ∨
      (∃ e, t.locate true p = .error e) ∧ t.node? place = some (.file content) := by
  obtain ⟨located, file⟩ := locate_of_lookup looked
  have before := grows.files.mp file
  cases earlier : t.locate true p with
  | error e => exact .inr ⟨⟨e, rfl⟩, before⟩
  | ok found =>
    have kept : u.locate true p = .ok found := by
      apply grows.keeps.locate earlier
      intro other link
      rcases grows.nodes found with same | ⟨-, directory, -⟩
      · rw [← same, link]
      · rw [directory] at link
        cases link
    obtain rfl := Except.ok.inj (kept.symm.trans located)
    left
    simp [lookup, earlier, before, bind, Except.bind, pure, Except.pure]

theorem Grows.trans (first : Grows t u made) (second : Grows u v made')
    (weaker : ∀ place, made place → made' place) : Grows t v made' where
  workDir := second.workDir.trans first.workDir
  rooted := second.rooted
  nodes := by
    intro place
    rcases second.nodes place with same | ⟨none, directory, new⟩
    · rw [same]
      exact (first.nodes place).imp_right fun ⟨free, directory, new⟩ => ⟨free, directory, weaker place new⟩
    · rcases first.nodes place with same | ⟨-, earlier, -⟩
      · exact .inr ⟨same ▸ none, directory, new⟩
      · simp [earlier] at none

theorem Keeps.onTheWay (keeps : Keeps t u) (rooted : t.Rooted) (way : t.OnTheWay p place) :
    u.OnTheWay p place := by
  obtain ⟨above, chain, here⟩ := way
  obtain ⟨dir, name, found, same⟩ := entryPlace?_eq_some_iff.mp here
  exact ⟨above, chain, entryPlace?_eq_some_iff.mpr ⟨dir, name, keeps.parentOf rooted found, same⟩⟩

theorem OnTheWay.of_parent {parent : Path} (isParent : p.parent? = some parent) (way : t.OnTheWay parent place) :
    t.OnTheWay p place := by
  obtain ⟨above, chain, here⟩ := way
  exact ⟨above, .head isParent chain, here⟩

theorem grows_of_makeDirectory (rooted : t.Rooted) (ends : t.makeDirectory p = .ok u) :
    Grows t u (u.OnTheWay p) := by
  obtain ⟨⟨dir, name?⟩, found, ends⟩ := bind_eq_ok ends
  cases name? with
  | none => cases ends
  | some name =>
    dsimp only at ends
    split at ends
    · cases ends
    next free =>
    obtain rfl := Except.ok.inj ends
    have other : t.node? (dir ++ [name]) ≠ some .directory := by simp [free]
    have rooted' : (t.put (dir ++ [name]) .directory).Rooted :=
      rooted.put (by rw [List.dropLast_concat, rooted.directory found]) other
    have nodes (place : Location) : (t.put (dir ++ [name]) .directory).node? place =
        if place = dir ++ [name] then some .directory else t.node? place := node?_put (by simp)
    have keeps : Keeps t (t.put (dir ++ [name]) .directory) := by
      refine ⟨rfl, ?_, ?_⟩
      · intro place directory
        rw [nodes, directory, ite_self]
      · intro place target link
        rw [nodes, if_neg, link]
        rintro rfl
        simp [free] at link
    refine ⟨rfl, rooted', ?_⟩
    intro place
    by_cases same : place = dir ++ [name]
    · refine .inr ⟨same ▸ free, by rw [nodes, if_pos same], p, .refl, ?_⟩
      exact entryPlace?_eq_some_iff.mpr ⟨dir, name, keeps.parentOf rooted found, same.symm⟩
    · exact .inl (by rw [nodes, if_neg same])

/-- Whether or not all directories can be made, nothing else is. -/
theorem grows_of_makeDirectories (rooted : t.Rooted) (p : Path) (depth : Nat) :
    Grows t (t.makeDirectories p depth).1 ((t.makeDirectories p depth).1.OnTheWay p) := by
  induction depth generalizing p with
  | zero => exact .refl rooted
  | succ depth ih =>
    rw [makeDirectories]
    split
    · exact .refl rooted
    dsimp only
    split
    · next made => exact grows_of_makeDirectory rooted made
    split
    · split <;> exact .refl rooted
    split
    · exact .refl rooted
    next parent isParent =>
    have above := ih parent
    split
    · next same =>
      rw [same] at above
      exact above.trans (.refl above.rooted) fun _ => OnTheWay.of_parent isParent
    next same =>
    rw [same] at above
    split
    · next made =>
      have below := grows_of_makeDirectory above.rooted made
      apply above.trans below
      intro place way
      exact below.keeps.onTheWay above.rooted (way.of_parent isParent)
    · split <;> exact above.trans (.refl above.rooted) fun _ => OnTheWay.of_parent isParent

end CorpusTally.FileTree
