import CorpusTally.Proofs.Json.Blocks

/-!
Whole values and their text, read back. A value is taken from its text by every reader that goes deeper than lists
and objects are nested in it.
-/

namespace CorpusTally.Json

/-- Lists and objects are nested no deeper than this, and all numbers are counts. -/
inductive Plain : Nat → Value → Prop
  | null {depth} : Plain depth .null
  | bool {depth} (value : Bool) : Plain depth (.bool value)
  | count {depth} (n : UInt64) : Plain depth (.number (.unsigned n))
  | string {depth} (text : String) : Plain depth (.string text)
  | array {depth items} (each : ∀ item ∈ items, Plain depth item) : Plain (depth + 1) (.array items)
  | object {depth fields} (each : ∀ field ∈ fields, Plain depth field.2) : Plain (depth + 1) (.object fields)

def readNamed (depth : Nat) (fields : List (String × Value)) (name : String) (cs : List Char) :
    Reading (List (String × Value)) :=
  (readColon cs).bind fun colon =>
    (readValue depth colon.2).map fun found => ((name, found.1) :: fields, found.2)

section

variable {depth : Nat} (rest : List Char)

private theorem readValue_space : readValue (depth + 1) (' ' :: rest) = readValue (depth + 1) rest := rfl

private theorem readValue_quote :
    readValue (depth + 1) ('"' :: rest) = (readString rest).map fun found => (.string found.1, found.2) := rfl

private theorem readValue_digit {c : Char} (digit : isDigit c = true) :
    readValue (depth + 1) (c :: rest) = (readNumber true (c :: rest)).map fun found => (.number found.1, found.2) := by
  have other : ∀ d : Char, isDigit d = false → c ≠ d := fun _ => ne_of_isDigit digit
  simp [readValue, skipSpace_of_begins (solid_of_isDigit digit).1, digit, other 'n' rfl, other 't' rfl, other 'f' rfl,
    other '-' rfl, other '"' rfl, other '[' rfl, other '{' rfl]

private theorem readValue_bracket (deep : depth ≠ 0) :
    readValue (depth + 1) ('[' :: rest) =
      (readList (readValue depth) rest).map fun found => (.array found.1, found.2) :=
  if_neg deep

private theorem readValue_brace (deep : depth ≠ 0) :
    readValue (depth + 1) ('{' :: rest) = (do
      let (fields, cs) ← readObject (readNamed depth) [] rest
      let ((), cs) ← closeObject cs
      return (.object fields.reverse, cs)) :=
  if_neg deep

end

theorem renderFields_eq (indent : Nat) (fields : List (String × Value)) :
    renderFields indent fields = (fields.map fun field => (field.1, field.2.render indent)).map fieldText := by
  induction fields with
  | nil => rfl
  | cons field fields ih =>
    rw [renderFields, ih]
    rfl

variable {depth : Nat}

private theorem leadAll_named (indent : Nat) {fields : List (String × Value)}
    (each : ∀ field ∈ fields, Reads (readValue (depth + 1)) (field.2.render indent) field.2)
    (before : List (String × Value)) :
    LeadAll (readNamed (depth + 1)) before (fields.map fun field => (field.1, field.2.render indent))
      (fields.reverse ++ before) := by
  induction fields generalizing before with
  | nil => exact .nil
  | cons field fields ih =>
    obtain ⟨name, value⟩ := field
    have later := ih (fun field mem => each field (List.mem_cons_of_mem _ mem)) ((name, value) :: before)
    rw [List.reverse_cons, List.append_assoc]
    refine .cons ?_ later
    intro rest ends
    have found := (each (name, value) List.mem_cons_self).reads rest ends
    have colon : readColon (':' :: ' ' :: (value.render indent ++ rest)) =
        .ok ((), ' ' :: (value.render indent ++ rest)) := by
      rw [readColon, skipSpace_of_begins (by decide)]
      rfl
    simp only [readNamed, colon, Except.bind, readValue_space, found, Except.map]

theorem reads_render {value : Value} (plain : Plain depth value) (indent : Nat) :
    Reads (readValue (depth + 1)) (value.render indent) value := by
  -- What is in a list or an object is nested one level less and read by a reader that goes one level less deep.
  induction plain generalizing indent with
  | null =>
    refine ⟨⟨'n', _, rfl, by decide, by decide⟩, fun rest _ => ?_⟩
    simp [readValue, Value.render, skipSpace, isSpace, readIdent, Except.map]
  | bool value =>
    refine ⟨?_, fun rest _ => ?_⟩
    · cases value
      · exact ⟨'f', _, rfl, by decide, by decide⟩
      · exact ⟨'t', _, rfl, by decide, by decide⟩
    · cases value <;> simp [readValue, Value.render, skipSpace, isSpace, readIdent, Except.map]
  | count n =>
    refine ⟨(reads_digits n).begins, fun rest ends => ?_⟩
    obtain ⟨c, more, written, digit⟩ := begins_digits n.toNat
    have found := readNumber_digits n ends
    rw [Value.render, Number.render]
    rw [written, List.cons_append] at found ⊢
    rw [readValue_digit _ digit, found]
    rfl
  | string text =>
    refine ⟨(reads_quote text).begins, fun rest _ => ?_⟩
    rw [Value.render, quote_append, readValue_quote, readString_escaped]
    rfl
  | @array depth items each ih =>
    rw [Value.render, renderItems_eq]
    have list := reads_list items (fun item mem => ih item mem (indent + 1)) indent
    refine ⟨list.begins, fun rest ends => ?_⟩
    have found := list.reads rest ends
    rw [block_eq, List.cons_append] at found ⊢
    rw [readValue_bracket _ (Nat.succ_ne_zero depth)]
    change readList _ _ = _ at found
    rw [found]
    rfl
  | @object depth fields each ih =>
    rw [Value.render, renderFields_eq, block_eq]
    refine ⟨⟨'{', _, rfl, by decide, by decide⟩, fun rest _ => ?_⟩
    have all := leadAll_named (indent + 1) (fun field mem => ih field mem (indent + 1)) []
    have found := readObject_body all indent rest
    have closed : closeObject ('}' :: rest) = .ok ((), rest) := by
      rw [closeObject, skipSpace_of_begins (by decide)]
      rfl
    rw [List.cons_append, readValue_brace _ (Nat.succ_ne_zero depth), List.append_assoc, List.singleton_append, found]
    simp [bind, Except.bind, closed, pure, Except.pure]

/-- A value that is not nested too deep is what its text is read as. -/
theorem parse_pretty {value : Value} (plain : Plain (depthLimit - 1) value) : parse value.pretty = .ok value := by
  have found := (reads_render plain 0).reads [] bounded_nil
  rw [List.append_nil] at found
  change readValue depthLimit _ = _ at found
  simp only [parse, readAll, Value.pretty, String.toList_ofList, found]
  rfl

namespace Value

theorem field?_cons (name key : String) (json : Value) (fields : List (String × Value)) :
    (Value.object ((key, json) :: fields)).field? name =
      ((Value.object fields).field? name).or (if key = name then some json else none) := by
  simp only [Value.field?, List.reverse_cons, List.find?_append, List.find?_singleton, Option.map_or]
  split <;> simp_all

theorem field?_eq_none_iff {name : String} {fields : List (String × Value)} :
    (Value.object fields).field? name = none ↔ name ∉ fields.map Prod.fst := by
  induction fields with
  | nil => simp [Value.field?]
  | cons field fields ih =>
    obtain ⟨key, json⟩ := field
    rw [field?_cons, Option.or_eq_none_iff, ih]
    simp [and_comm, eq_comm]

theorem field?_eq_some_iff {name : String} {json : Value} {fields : List (String × Value)}
    (nodup : (fields.map Prod.fst).Nodup) :
    (Value.object fields).field? name = some json ↔ (name, json) ∈ fields := by
  induction fields with
  | nil => simp [Value.field?]
  | cons field fields ih =>
    obtain ⟨key, value⟩ := field
    obtain ⟨new, others⟩ := List.nodup_cons.mp nodup
    rw [field?_cons, Option.or_eq_some_iff, ih others, field?_eq_none_iff, List.mem_cons, Prod.mk.injEq]
    constructor
    · rintro (later | ⟨-, here⟩)
      · exact .inr later
      · split at here
        · next same => exact .inl ⟨same.symm, (Option.some.inj here).symm⟩
        · cases here
    · rintro (⟨rfl, rfl⟩ | later)
      · exact .inr ⟨new, if_pos rfl⟩
      · exact .inl later

theorem field?_eq_of_perm {fields others : List (String × Value)} (perm : fields.Perm others)
    (nodup : (fields.map Prod.fst).Nodup) (name : String) :
    (Value.object fields).field? name = (Value.object others).field? name := by
  have same : (others.map Prod.fst).Nodup := (perm.map Prod.fst).nodup nodup
  ext json
  rw [field?_eq_some_iff nodup, field?_eq_some_iff same]
  exact perm.mem_iff

def without (name : String) : Value → Value
  | .object fields => .object (fields.filter (·.1 ≠ name))
  | other => other

theorem field?_without (key name : String) (json : Value) :
    (json.without key).field? name = if name = key then none else json.field? name := by
  cases json with
  | object fields =>
    induction fields with
    | nil => simp [without, Value.field?]
    | cons field fields ih =>
      obtain ⟨other, value⟩ := field
      simp only [without] at ih
      rw [without, field?_cons, List.filter_cons]
      by_cases here : other = key
      · subst here
        rw [if_neg (by simp), ih]
        split
        · rfl
        · next apart => rw [if_neg (Ne.symm apart), Option.or_none]
      · rw [if_pos (by simpa using here), field?_cons, ih]
        split
        · next same =>
          subst same
          rw [if_neg here, Option.none_or]
        · rfl
  | _ => simp [without, Value.field?]

end Value

end CorpusTally.Json
