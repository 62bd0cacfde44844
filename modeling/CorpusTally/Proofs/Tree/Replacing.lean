import CorpusTally.Proofs.Tree.Places
import CorpusTally.Proofs.Tree.Siblings

/-!
Writing a report takes three steps, each of which can fail: directories are made, the text is written beside the
target, and the file takes the place of the target. What each of them leaves behind is told apart here.
-/

namespace CorpusTally.Report

open Utf8 (Bytes)

open FileTree

variable {r : Report} {t u written after : FileTree} {target : Path} {dir other place : Location} {name last : Bytes}

def text (r : Report) : Bytes := Utf8.encode r.json

def OnTheWayTo (t : FileTree) (target : Path) (place : Location) : Prop :=
  ∃ parent, target.parent? = some parent ∧ t.OnTheWay parent place

theorem grows_of_makeRoom (rooted : t.Rooted) (target : Path) :
    Grows t (makeRoom t target).1 (OnTheWayTo (makeRoom t target).1 target) := by
  unfold makeRoom
  split
  · exact .refl rooted
  · next parent isParent =>
    split
    · exact .refl rooted
    · have grows := grows_of_makeDirectories rooted parent (parent.components.length + 1)
      exact grows.trans (.refl grows.rooted) fun _ way => ⟨parent, isParent, way⟩

inductive Steps (r : Report) (t : FileTree) (target : Path) : FileTree → Except CorpusError Unit → Prop
  | noRoom {e} (broken : (makeRoom t target).2 = .error e) :
      Steps r t target (makeRoom t target).1 (.error (.io e))
  | unwritten {e} (room : (makeRoom t target).2 = .ok ())
      (broken : (makeRoom t target).1.writeFile (temporaryPath target) r.text = .error e) :
      Steps r t target (makeRoom t target).1 (.error (.io e))
  | unmoved {written : FileTree} {e} (room : (makeRoom t target).2 = .ok ())
      (wrote : (makeRoom t target).1.writeFile (temporaryPath target) r.text = .ok written)
      (broken : written.rename (temporaryPath target) target = .error e) :
      Steps r t target written (.error (.io e))
  | moved {written after : FileTree} (room : (makeRoom t target).2 = .ok ())
      (wrote : (makeRoom t target).1.writeFile (temporaryPath target) r.text = .ok written)
      (renamed : written.rename (temporaryPath target) target = .ok after) :
      Steps r t target after (.ok ())

theorem steps_write (r : Report) (t : FileTree) (target : Path) :
    Steps r t target (r.write t target).1 (r.write t target).2 := by
  unfold write
  split
  · next room e same =>
    have steps := Steps.noRoom (r := r) (t := t) (e := e) (congrArg Prod.snd same)
    rwa [same] at steps
  next room same =>
  have made : (makeRoom t target).2 = .ok () := congrArg Prod.snd same
  have tree : (makeRoom t target).1 = room := congrArg Prod.fst same
  split
  · next e broken =>
    have steps := Steps.unwritten (r := r) made (tree ▸ broken)
    rwa [tree] at steps
  next written wrote =>
  split
  · next e broken => exact .unmoved made (tree ▸ wrote) broken
  · next after renamed => exact .moved made (tree ▸ wrote) renamed

theorem temporaryPath_beside (found : t.parentOf target = .ok (dir, some name))
    (beside : t.parentOf (temporaryPath target) = .ok (other, some last)) :
    target.fileName? = some name ∧ other = dir ∧ last = name ++ temporarySuffix := by
  obtain ⟨-, isEntry, front, names, walks⟩ := parentOf_eq_ok_iff.mp found
  have single : Path.slash ∉ name := by
    have mem : name ∈ namesOf target := by simp [names]
    exact not_mem_of_mem_split (List.mem_filter.mp mem).1
  obtain ⟨file, absolute, others, names', same⟩ :=
    Path.withFileName_names names isEntry.notHere isEntry.notUp (isName_append_suffix single)
  have path : temporaryPath target = target.withFileName (name ++ temporarySuffix) := by
    rw [temporaryPath, file, Option.getD_some]
  obtain ⟨-, -, front', names'', walks'⟩ := parentOf_eq_ok_iff.mp beside
  rw [path] at names'' walks'
  obtain ⟨rfl, ends⟩ := List.append_inj' (names'.symm.trans names'') rfl
  have start : startOf t.workDir (target.withFileName (name ++ temporarySuffix)) = startOf t.workDir target := by
    rw [startOf, startOf, absolute]
  rw [start] at walks'
  exact ⟨file, walks'.unique (walks.of_filter same), (List.singleton_inj.mp ends).symm⟩

theorem temporary_of_absent (rooted : t.Rooted)
    (absent : ∀ place, (makeRoom t target).1.entryPlace? (temporaryPath target) = some place → t.node? place = none)
    (wrote : (makeRoom t target).1.writeFile (temporaryPath target) r.text = .ok written) :
    ∃ dir name, (makeRoom t target).1.parentOf (temporaryPath target) = .ok (dir, some name) ∧
      t.node? (dir ++ [name]) = none ∧ (makeRoom t target).1.node? (dir ++ [name]) = none ∧
      written = (makeRoom t target).1.put (dir ++ [name]) (.file r.text) := by
  have grows := grows_of_makeRoom rooted target
  obtain ⟨place, located, other, -, put⟩ := put_of_writeFile grows.rooted wrote
  obtain ⟨-, front, name, names, isName⟩ := temporaryPath_ends target
  obtain ⟨dir, found, leads⟩ := parentOf_of_locate located names isName.notHere isName.notUp
  have free := absent _ (entryPlace?_eq_some_iff.mpr ⟨dir, name, found, rfl⟩)
  rcases grows.nodes (dir ++ [name]) with same | ⟨-, directory, -⟩
  · rw [free] at same
    rcases leads with rfl | ⟨target, link⟩
    · exact ⟨dir, name, found, free, same, put⟩
    · rw [same] at link
      cases link
  · rcases leads with rfl | ⟨target, link⟩
    · exact absurd directory other
    · rw [directory] at link
      cases link

def movedTo (u : FileTree) (dir : Location) (beside name : Bytes) (content : Bytes) : FileTree :=
  ((u.put (dir ++ [beside]) (.file content)).erase (dir ++ [beside])).put (dir ++ [name]) (.file content)

section

variable {beside content : Bytes}

theorem node?_movedTo : (movedTo u dir beside name content).node? place =
    if place = dir ++ [name] then some (.file content)
    else if place = dir ++ [beside] then none else u.node? place := by
  rw [movedTo, node?_put (by simp), node?_erase (by simp), node?_put (by simp)]
  split
  · rfl
  · split <;> rfl

private theorem node?_movedTo_eq_some {node : Node} (free : u.node? (dir ++ [beside]) = none)
    (passes : ∀ content, node ≠ .file content) :
    (movedTo u dir beside name content).node? place = some node ↔ (u.erase (dir ++ [name])).node? place = some node := by
  rw [node?_movedTo, node?_erase (by simp)]
  split
  · simpa using fun same => passes content same.symm
  · split
    · next same => simp [same, free]
    · rfl

theorem keeps_movedTo (content : Bytes) (free : u.node? (dir ++ [beside]) = none) :
    Keeps (u.erase (dir ++ [name])) (movedTo u dir beside name content) ∧
      Keeps (movedTo u dir beside name content) (u.erase (dir ++ [name])) where
  left := ⟨rfl, fun _ => (node?_movedTo_eq_some free (by simp)).mpr,
    fun _ _ => (node?_movedTo_eq_some free (by simp)).mpr⟩
  right := ⟨rfl, fun _ => (node?_movedTo_eq_some free (by simp)).mp,
    fun _ _ => (node?_movedTo_eq_some free (by simp)).mp⟩

theorem rooted_movedTo (rooted : u.Rooted) (directory : u.node? dir = some .directory)
    (free : u.node? (dir ++ [beside]) = none) (other : u.node? (dir ++ [name]) ≠ some .directory) :
    (movedTo u dir beside name content).Rooted := by
  have wrote : (u.put (dir ++ [beside]) (.file content)).Rooted :=
    rooted.put (by rwa [List.dropLast_concat]) (by simp [free])
  have removed : ((u.put (dir ++ [beside]) (.file content)).erase (dir ++ [beside])).Rooted :=
    wrote.erase (by simp [node?_put])
  apply removed.put
  · rw [List.dropLast_concat, node?_erase (by simp), node?_put (by simp)]
    simp [directory]
  · rw [node?_erase (by simp), node?_put (by simp)]
    split
    · simp
    · exact other

theorem keeps_erase : Keeps (u.erase (dir ++ [name])) u := by
  have kept (node : Node) (place : Location) (stays : (u.erase (dir ++ [name])).node? place = some node) :
      u.node? place = some node := by
    rw [node?_erase (by simp)] at stays
    split at stays
    · cases stays
    · exact stays
  exact ⟨rfl, fun place => kept .directory place, fun place target => kept (.link target) place⟩

theorem keeps_of_erase (other : u.node? (dir ++ [name]) ≠ some .directory)
    (noLink : ∀ target, u.node? (dir ++ [name]) ≠ some (.link target)) : Keeps u (u.erase (dir ++ [name])) := by
  refine ⟨rfl, ?_, ?_⟩
  · intro place directory
    rw [node?_erase (by simp), if_neg, directory]
    rintro rfl
    exact other directory
  · intro place target link
    rw [node?_erase (by simp), if_neg, link]
    rintro rfl
    exact noLink target link

/-- The path of the target leads to the file in its new place, if it leads to this place at all without what
stood there before. -/
theorem read_movedTo_iff (content : Bytes) (rooted : u.Rooted) (free : u.node? (dir ++ [beside]) = none)
    (other : u.node? (dir ++ [name]) ≠ some .directory) (closed : endsInSlash target = false)
    (found : u.parentOf target = .ok (dir, some name)) :
    (movedTo u dir beside name content).read target = .ok content ↔
      (u.erase (dir ++ [name])).parentOf target = .ok (dir, some name) := by
  have file : (movedTo u dir beside name content).node? (dir ++ [name]) = some (.file content) := by
    rw [node?_movedTo, if_pos rfl]
  constructor
  · intro read
    obtain ⟨place, looked⟩ := read_eq_ok_iff.mp read
    have moved : (movedTo u dir beside name content).Rooted := rooted_movedTo rooted (rooted.directory found) free other
    obtain ⟨-, dir', name', found', -⟩ := moved.entry_of_lookup looked
    have without := (keeps_movedTo content free).2.parentOf moved found'
    have before := keeps_erase.parentOf (rooted.erase other) without
    rw [found] at before
    rw [without, ← Except.ok.inj before]
  · intro without
    have found' := (keeps_movedTo content free).1.parentOf (rooted.erase other) without
    have located := locate_of_parentOf found' closed (by simp [file])
    refine read_eq_ok_iff.mpr ⟨dir ++ [name], ?_⟩
    simp [lookup, located, file, bind, Except.bind, pure, Except.pure]

end

theorem movedTo_of_rename (rooted : t.Rooted)
    (absent : ∀ place, (makeRoom t target).1.entryPlace? (temporaryPath target) = some place → t.node? place = none)
    (wrote : (makeRoom t target).1.writeFile (temporaryPath target) r.text = .ok written)
    (renamed : written.rename (temporaryPath target) target = .ok after) :
    ∃ dir name, target.fileName? = some name ∧ endsInSlash target = false ∧
      (makeRoom t target).1.parentOf target = .ok (dir, some name) ∧
      (makeRoom t target).1.node? (dir ++ [name]) ≠ some .directory ∧
      t.node? (dir ++ [name ++ temporarySuffix]) = none ∧
      (makeRoom t target).1.node? (dir ++ [name ++ temporarySuffix]) = none ∧
      after = movedTo (makeRoom t target).1 dir (name ++ temporarySuffix) name r.text := by
  have grows := grows_of_makeRoom rooted target
  obtain ⟨dir, last, beside, free, free', rfl⟩ := temporary_of_absent rooted absent wrote
  obtain ⟨put, ahead, back⟩ := grows.rooted.put_free beside free' r.text
  obtain ⟨sourceDir, sourceName, targetDir, name, node, source, found, file, -, closed, other', rfl⟩ :=
    put_of_rename renamed
  rw [source, Except.ok.injEq, Prod.mk.injEq, Option.some.injEq] at ahead
  obtain ⟨rfl, rfl⟩ := ahead
  have before := back.parentOf put found
  obtain ⟨fileName, rfl, rfl⟩ := temporaryPath_beside before beside
  rw [node?_put (by simp), if_pos rfl, Option.some.injEq] at file
  have different : sourceDir ++ [name] ≠ sourceDir ++ [name ++ temporarySuffix] := by
    simp [temporarySuffix, Utf8.encode, Utf8.encodeChars]
  rw [node?_put (by simp), if_neg different] at other'
  exact ⟨sourceDir, name, fileName, closed, before, other', free, free', by rw [movedTo, file]⟩

/-- A report that is written takes the place of its target, in the directory that the path leads to. The path
reads as the report, if that entry is not a link on its way to this directory. No file is lost or made besides,
only directories on the way. If writing fails, the path leads to a file only if it led there before, or led
nowhere for want of a directory while the same file stood there. -/
theorem write_replaces (r : Report) (t : FileTree) (rooted : t.Rooted) (target : Path)
    (absent : ∀ place, (makeRoom t target).1.entryPlace? (temporaryPath target) = some place →
      t.node? place = none) :
    ((r.write t target).2 = .ok () → ∃ dir name, target.fileName? = some name ∧
      (makeRoom t target).1.parentOf target = .ok (dir, some name) ∧
      (r.write t target).1.node? (dir ++ [name]) = some (.file r.text) ∧
      ((r.write t target).1.read target = .ok r.text ↔
        ((makeRoom t target).1.erase (dir ++ [name])).parentOf target = .ok (dir, some name)) ∧
      ((∀ other, t.node? (dir ++ [name]) ≠ some (.link other)) →
        (r.write t target).1.read target = .ok r.text) ∧
      (r.write t target).1.node? (dir ++ [name ++ temporarySuffix]) = none ∧
      ∀ place, place ≠ dir ++ [name] → (r.write t target).1.node? place = t.node? place ∨
        t.node? place = none ∧ (r.write t target).1.node? place = some .directory ∧
          OnTheWayTo (makeRoom t target).1 target place) ∧
    ∀ e, (r.write t target).2 = .error e → ∀ place content,
      (r.write t target).1.lookup true target = .ok (place, .file content) →
      t.lookup true target = .ok (place, .file content) ∨
        (∃ e, t.locate true target = .error e) ∧ t.node? place = some (.file content) := by
  have steps := steps_write r t target
  have grows := grows_of_makeRoom rooted target
  generalize (r.write t target).1 = after at steps
  generalize (r.write t target).2 = result at steps
  cases steps with
  | noRoom | unwritten => exact ⟨nofun, fun _ _ _ _ => grows.lookup_file⟩
  | unmoved _ wrote broken =>
    refine ⟨nofun, fun _ _ place content looked => ?_⟩
    obtain ⟨dir, last, beside, free, free', rfl⟩ := temporary_of_absent rooted absent wrote
    obtain ⟨put, source, -⟩ := grows.rooted.put_free beside free' r.text
    have file : ((makeRoom t target).1.put (dir ++ [last]) (.file r.text)).node? (dir ++ [last]) =
        some (.file r.text) := by rw [node?_put (by simp), if_pos rfl]
    -- the file could be moved, so that the target cannot be where a file stands
    refine absurd looked (not_file_of_blocked put ?_ content)
    intro dir' name found
    exact blocked_of_rename broken source file nofun found
  | moved _ wrote renamed =>
    refine ⟨fun _ => ?_, nofun⟩
    obtain ⟨dir, name, fileName, closed, found, other, free, free', rfl⟩ :=
      movedTo_of_rename rooted absent wrote renamed
    have iff := read_movedTo_iff r.text grows.rooted free' other closed found
    refine ⟨dir, name, fileName, found, by rw [node?_movedTo, if_pos rfl], iff, fun noLink => iff.mpr ?_, ?_, ?_⟩
    · refine (keeps_of_erase other fun target link => ?_).parentOf grows.rooted found
      rcases grows.nodes (dir ++ [name]) with same | ⟨-, directory, -⟩
      · exact noLink target (same ▸ link)
      · exact other directory
    · rw [node?_movedTo, if_neg (by simp [temporarySuffix, Utf8.encode, Utf8.encodeChars]), if_pos rfl]
    · intro place elsewhere
      rw [node?_movedTo, if_neg elsewhere]
      split
      · next same => exact .inl (same ▸ free.symm)
      · exact grows.nodes place

def siblings : FileTree where
  nodes := [([Utf8.encode "a.json"], .file (Utf8.encode "old")), ([Utf8.encode "a.tmp"], .file (Utf8.encode "keep")),
    ([Utf8.encode "out"], .directory)]

def oneWord : Report :=
  { results := [⟨"a.txt", [⟨"cat", 2⟩]⟩], filesAnalyzed := 1, totalWords := 2 }

/-- The report takes the place of a file, but not that of a directory. -/
theorem replaces_beside_sibling :
    ((oneWord.write siblings (.ofString "a.json")).1.read (.ofString "a.json") = .ok oneWord.text ∧
      (oneWord.write siblings (.ofString "a.json")).1.node? [Utf8.encode "a.json.tmp"] = none ∧
      (oneWord.write siblings (.ofString "a.json")).1.node? [Utf8.encode "a.tmp"] =
        some (.file (Utf8.encode "keep"))) ∧
    (oneWord.write siblings (.ofString "out")).2 = .error (.io .isADirectory) ∧
    ∀ place content,
      (oneWord.write siblings (.ofString "out")).1.lookup true (.ofString "out") ≠ .ok (place, .file content) := by
  have rooted : siblings.Rooted := by decide +kernel
  have places (target : Path) (name : Bytes)
      (place : (makeRoom siblings target).1.entryPlace? (temporaryPath target) = some [name])
      (free : siblings.node? [name] = none) :
      ∀ elsewhere, (makeRoom siblings target).1.entryPlace? (temporaryPath target) = some elsewhere →
        siblings.node? elsewhere = none := by
    intro elsewhere here
    obtain rfl := Option.some.inj (place.symm.trans here)
    exact free
  constructor
  · have free := places (.ofString "a.json") (Utf8.encode "a.json.tmp") (by decide +kernel) (by decide +kernel)
    obtain ⟨dir, name, -, found, -, -, reads, gone, others⟩ :=
      (write_replaces oneWord siblings rooted (.ofString "a.json") free).1 rfl
    have here : (makeRoom siblings (.ofString "a.json")).1.parentOf (.ofString "a.json") =
        .ok ([], some (Utf8.encode "a.json")) := rfl
    rw [here, Except.ok.injEq, Prod.mk.injEq, Option.some.injEq] at found
    obtain ⟨rfl, rfl⟩ := found
    have kept := others [Utf8.encode "a.tmp"] (by decide +kernel)
    refine ⟨reads fun other link => ?_, gone, ?_⟩
    · have file : siblings.node? [Utf8.encode "a.json"] = some (.file (Utf8.encode "old")) := rfl
      cases file.symm.trans link
    · rcases kept with same | ⟨none, -⟩
      · exact same
      · cases none
  · have free := places (.ofString "out") (Utf8.encode "out.tmp") (by decide +kernel) (by decide +kernel)
    have failed : (oneWord.write siblings (.ofString "out")).2 = .error (.io .isADirectory) := rfl
    have before := (write_replaces oneWord siblings rooted (.ofString "out") free).2 _ failed
    refine ⟨failed, fun place content looked => ?_⟩
    have directory : siblings.lookup true (.ofString "out") = .ok ([Utf8.encode "out"], .directory) := rfl
    have located : siblings.locate true (.ofString "out") = .ok [Utf8.encode "out"] := rfl
    rcases before place content looked with same | ⟨⟨e, nowhere⟩, -⟩
    · cases directory.symm.trans same
    · cases located.symm.trans nowhere

def backLink : FileTree where
  nodes := [([Utf8.encode "l"], .link (.ofString "."))]

def oldFile : FileTree where
  nodes := [([Utf8.encode "x"], .file (Utf8.encode "old"))]

/-- A link on the way to itself is replaced, and then the path leads nowhere. A directory that is made on the way
opens a path to an old file, and then writing fails. -/
theorem write_does_not_replace :
    (backLink.Rooted ∧
      (makeRoom backLink (.ofString "l/l")).1.entryPlace? (temporaryPath (.ofString "l/l")) =
        some [Utf8.encode "l.tmp"] ∧
      backLink.node? [Utf8.encode "l.tmp"] = none ∧
      (empty.write backLink (.ofString "l/l")).2 = .ok () ∧
      (empty.write backLink (.ofString "l/l")).1.read (.ofString "l/l") = .error .notADirectory) ∧
    (oldFile.Rooted ∧
      (makeRoom oldFile (.ofString "x.tmp/../x")).1.entryPlace? (temporaryPath (.ofString "x.tmp/../x")) =
        some [Utf8.encode "x.tmp"] ∧
      oldFile.node? [Utf8.encode "x.tmp"] = none ∧
      (empty.write oldFile (.ofString "x.tmp/../x")).2 = .error (.io .isADirectory) ∧
      oldFile.read (.ofString "x.tmp/../x") = .error .notFound ∧
      (empty.write oldFile (.ofString "x.tmp/../x")).1.read (.ofString "x.tmp/../x") =
        .ok (Utf8.encode "old")) := by
  refine ⟨⟨?_, ?_, ?_, rfl, rfl⟩, ?_, ?_, ?_, rfl, rfl, rfl⟩
  all_goals decide +kernel

theorem movable_of_put (rooted : u.Rooted) (located : u.locate true (temporaryPath target) = .ok place)
    (other : u.node? place ≠ some .directory) (content : Bytes) :
    ∃ dir name node, u.parentOf (temporaryPath target) = .ok (dir, some name) ∧
      (u.put place (.file content)).node? (dir ++ [name]) = some node ∧ node ≠ .directory := by
  obtain ⟨-, front, name, names, isName⟩ := temporaryPath_ends target
  obtain ⟨dir, found, leads⟩ := parentOf_of_locate located names isName.notHere isName.notUp
  rcases leads with rfl | ⟨target, link⟩
  · exact ⟨dir, name, .file content, found, by rw [node?_put (by simp), if_pos rfl], nofun⟩
  · refine ⟨dir, name, .link target, found, ?_, nofun⟩
    rw [node?_put (ne_nil_of_node? other), if_neg, link]
    rintro rfl
    exact rooted.ne_link_of_locate located target link

/-- A write that fails leaves its temporary file behind as soon as that could be written, which is the case for
targets that are directories or that no entry can have. It changes nothing else but for directories on the
way. -/
theorem files_of_failed_write (r : Report) (t : FileTree) (rooted : t.Rooted) (target : Path) (e : CorpusError)
    (failed : (r.write t target).2 = .error e) :
    ((∀ place content, (r.write t target).1.node? place = some (.file content) ↔
        t.node? place = some (.file content)) ↔
      ∀ written, (makeRoom t target).2 = .ok () →
        (makeRoom t target).1.writeFile (temporaryPath target) r.text = .ok written →
        (makeRoom t target).1.read (temporaryPath target) = .ok r.text) ∧
    (∀ written, (makeRoom t target).2 = .ok () →
      (makeRoom t target).1.writeFile (temporaryPath target) r.text = .ok written →
      (r.write t target).1 = written ∧ ∀ dir name, written.parentOf target = .ok (dir, some name) →
        endsInSlash target = true ∨ written.node? (dir ++ [name]) = some .directory) ∧
    ∀ place, (r.write t target).1.node? place = t.node? place ∨
      (t.node? place = none ∧ (r.write t target).1.node? place = some .directory ∧
        OnTheWayTo (makeRoom t target).1 target place) ∨
      (makeRoom t target).1.locate true (temporaryPath target) = .ok place ∧
        (r.write t target).1.node? place = some (.file r.text) := by
  have steps := steps_write r t target
  have grows := grows_of_makeRoom rooted target
  rw [failed] at steps
  generalize (r.write t target).1 = after at steps
  cases steps with
  | noRoom broken =>
    refine ⟨⟨fun _ _ room => ?_, fun _ _ _ => grows.files⟩, fun _ room => ?_, fun place => ?_⟩
    · rw [broken] at room
      cases room
    · rw [broken] at room
      cases room
    · exact (grows.nodes place).imp_right .inl
  | unwritten _ broken =>
    refine ⟨⟨fun _ _ _ wrote => ?_, fun _ _ _ => grows.files⟩, fun _ _ wrote => ?_, fun place => ?_⟩
    · rw [broken] at wrote
      cases wrote
    · rw [broken] at wrote
      cases wrote
    · exact (grows.nodes place).imp_right .inl
  | unmoved room wrote broken =>
    obtain ⟨place, located, other, noLink, rfl⟩ := put_of_writeFile grows.rooted wrote
    have nodes (elsewhere : Location) : ((makeRoom t target).1.put place (.file r.text)).node? elsewhere =
        if elsewhere = place then some (.file r.text) else (makeRoom t target).1.node? elsewhere :=
      node?_put (ne_nil_of_node? other)
    refine ⟨⟨fun unchanged written _ _ => ?_, fun same elsewhere content => ?_⟩, fun written _ again => ?_,
      fun elsewhere => ?_⟩
    · have before := (unchanged place r.text).mp (by rw [nodes, if_pos rfl])
      refine read_eq_ok_iff.mpr ⟨place, ?_⟩
      simp [lookup, located, grows.files.mpr before, bind, Except.bind, pure, Except.pure]
    · obtain ⟨found, looked⟩ := read_eq_ok_iff.mp (same _ room wrote)
      obtain ⟨located', file⟩ := locate_of_lookup looked
      obtain rfl := Except.ok.inj (located'.symm.trans located)
      rw [nodes, ← grows.files]
      split
      · next here => rw [here, file]
      · rfl
    · obtain rfl := Except.ok.inj (wrote.symm.trans again)
      refine ⟨rfl, fun dir name found => ?_⟩
      obtain ⟨sourceDir, sourceName, node, source, here, movable⟩ :=
        movable_of_put grows.rooted located other r.text
      have ahead := (keeps_put_file r.text other noLink).1.parentOf grows.rooted source
      exact blocked_of_rename broken ahead here movable found
    · rw [nodes]
      split
      · next here => exact .inr (.inr ⟨here ▸ located, rfl⟩)
      · exact (grows.nodes elsewhere).imp_right .inl

def outDirectory : FileTree where
  nodes := [([Utf8.encode "out"], .directory)]

/-- The report cannot take the place of a directory, and the file that was written stays. -/
theorem debris_beside_directory :
    (empty.write outDirectory (.ofString "out")).2 = .error (.io .isADirectory) ∧
    outDirectory.node? [Utf8.encode "out.tmp"] = none ∧
    (empty.write outDirectory (.ofString "out")).1.node? [Utf8.encode "out.tmp"] = some (.file empty.text) ∧
    ¬ ∀ place content, (empty.write outDirectory (.ofString "out")).1.node? place = some (.file content) ↔
      outDirectory.node? place = some (.file content) := by
  have failed : (empty.write outDirectory (.ofString "out")).2 = .error (.io .isADirectory) := rfl
  obtain ⟨unchanged, left, -⟩ := files_of_failed_write empty outDirectory (by decide +kernel) (.ofString "out") _ failed
  have wrote : (makeRoom outDirectory (.ofString "out")).1.writeFile (temporaryPath (.ofString "out")) empty.text =
      .ok (outDirectory.put [Utf8.encode "out.tmp"] (.file empty.text)) := rfl
  have unread : (makeRoom outDirectory (.ofString "out")).1.read (temporaryPath (.ofString "out")) =
      .error .notFound := rfl
  refine ⟨failed, rfl, ?_, fun same => ?_⟩
  · rw [(left _ rfl wrote).1]
    rfl
  · have before := unchanged.mp same _ rfl wrote
    rw [unread] at before
    cases before

end CorpusTally.Report
