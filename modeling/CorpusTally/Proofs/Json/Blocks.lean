import CorpusTally.Proofs.Json.Scalars

/-!
Lists and objects as JSON on indented lines, read back. A list is read if its items are, and an object if each
of its fields leads from what is known before it to what is known behind it.
-/

namespace CorpusTally.Json

def body (indent : Nat) : List (List Char) → List Char
  | [] => []
  | part :: parts =>
    newline (indent + 1) ++ part ++ parts.flatMap (fun part => ',' :: (newline (indent + 1) ++ part)) ++
      newline indent

private theorem flatten_intersperse (indent : Nat) (part : List Char) (parts : List (List Char)) :
    (((part :: parts).map fun part => newline indent ++ part).intersperse [',']).flatten =
      newline indent ++ part ++ parts.flatMap fun part => ',' :: (newline indent ++ part) := by
  induction parts generalizing part with
  | nil => simp
  | cons next parts ih =>
    have later := ih next
    rw [List.map_cons] at later
    rw [List.map_cons, List.map_cons, List.intersperse_cons_cons, List.flatten_cons, List.flatten_cons, later,
      List.flatMap_cons]
    simp

theorem block_eq (opening closing : Char) (indent : Nat) (parts : List (List Char)) :
    block opening closing indent parts = opening :: (body indent parts ++ [closing]) := by
  cases parts with
  | nil => rfl
  | cons part parts =>
    rw [block, body, flatten_intersperse]
    simp

theorem renderItems_eq (indent : Nat) (items : List Value) :
    renderItems indent items = items.map (Value.render indent) := by
  induction items with
  | nil => rfl
  | cons item items ih => rw [renderItems, ih, List.map_cons]

theorem skipSpace_newline (indent : Nat) (rest : List Char) :
    skipSpace (newline indent ++ rest) = skipSpace rest := by
  have blanks : ∀ c ∈ newline indent, isSpace c = true := by
    intro c mem
    rcases List.mem_cons.mp mem with rfl | later
    · rfl
    · rw [List.eq_of_mem_replicate later]
      rfl
  exact List.dropWhile_append_of_pos blanks

private theorem length_le_body (indent : Nat) (parts : List (List Char)) :
    parts.length ≤ (body indent parts).length := by
  have later : ∀ parts : List (List Char),
      parts.length ≤ (parts.flatMap fun part => ',' :: (newline (indent + 1) ++ part)).length := by
    intro parts
    induction parts with
    | nil => simp
    | cons part parts ih =>
      rw [List.flatMap_cons, List.length_append, List.length_cons, List.length_cons]
      omega
  cases parts with
  | nil => simp
  | cons part parts =>
    have others := later parts
    have line : 0 < (newline (indent + 1)).length := Nat.succ_pos _
    rw [body, List.length_cons, List.length_append, List.length_append, List.length_append]
    omega

section Lists

variable {α : Type} {item : List Char → Reading α} {text rest : List Char}

private theorem nextItem?_first (begins : Begins text) (indent : Nat) :
    nextItem? true (newline indent ++ (text ++ rest)) = .ok (true, text ++ rest) := by
  obtain ⟨c, more, rfl, solid, notEnd⟩ := begins
  rw [nextItem?, skipSpace_newline, List.cons_append, skipSpace_of_begins solid]
  split
  · next none => cases none
  · next ends => exact absurd (List.cons.inj ends).1 notEnd
  · next same =>
    obtain ⟨rfl, rfl⟩ := List.cons.inj same
    rfl

private theorem nextItem?_later (begins : Begins text) (indent : Nat) :
    nextItem? false (',' :: (newline indent ++ (text ++ rest))) = .ok (true, text ++ rest) := by
  obtain ⟨c, more, rfl, solid, notEnd⟩ := begins
  have here : skipSpace (newline indent ++ (c :: more ++ rest)) = c :: (more ++ rest) := by
    rw [skipSpace_newline, List.cons_append, skipSpace_of_begins solid]
  rw [nextItem?, skipSpace_of_begins (by decide)]
  simp only [Bool.false_eq_true, if_false]
  split
  · next none => cases none
  · next ends => exact absurd (List.cons.inj ends).1 (by decide)
  · next same =>
    obtain ⟨rfl, rfl⟩ := List.cons.inj same
    rw [if_pos rfl, here]
    split
    · next none => cases none
    · next ends => exact absurd (List.cons.inj ends).1 notEnd
    · rfl

private theorem nextItem?_end (first : Bool) (indent : Nat) (rest : List Char) :
    nextItem? first (newline indent ++ ']' :: rest) = .ok (false, ']' :: rest) := by
  rw [nextItem?, skipSpace_newline, skipSpace_of_begins (by decide)]
  rfl

private theorem readItems_item {first : Bool} {cs : List Char} {value : α} (done : List α) (steps : Nat)
    (next : nextItem? first cs = .ok (true, text ++ rest)) (reads : item (text ++ rest) = .ok (value, rest)) :
    readItems item first done (steps + 1) cs = readItems item false (value :: done) steps rest := by
  simp only [readItems, next, bind, Except.bind, if_true, reads]

private theorem readItems_end {first : Bool} {done : List α} {steps : Nat} {cs : List Char}
    (next : nextItem? first cs = .ok (false, ']' :: rest)) :
    readItems item first done (steps + 1) cs = .ok (done.reverse, rest) := by
  have closed : closeList (']' :: rest) = .ok ((), rest) := by
    rw [closeList, skipSpace_of_begins (by decide)]
    rfl
  simp only [readItems, next, bind, Except.bind, Bool.false_eq_true, if_false, closed, pure, Except.pure]

theorem bounded_later (indent : Nat) (parts : List (List Char)) (rest : List Char) :
    Bounded (parts.flatMap (fun part => ',' :: (newline (indent + 1) ++ part)) ++
      (newline indent ++ rest)) := by
  cases parts with
  | nil => exact bounded_newline indent rest
  | cons part parts => exact bounded_comma _

variable {written : α → List Char}

private theorem readItems_later {values : List α} (each : ∀ value ∈ values, Reads item (written value) value)
    (indent : Nat) (done : List α) {steps : Nat} (enough : values.length < steps) (rest : List Char) :
    readItems item false done steps
      ((values.map written).flatMap (fun part => ',' :: (newline (indent + 1) ++ part)) ++
        (newline indent ++ ']' :: rest)) = .ok (done.reverse ++ values, rest) := by
  induction values generalizing done steps with
  | nil =>
    obtain ⟨left, rfl⟩ := Nat.exists_eq_succ_of_ne_zero (Nat.ne_of_gt enough)
    rw [List.append_nil]
    exact readItems_end (nextItem?_end false indent rest)
  | cons value values ih =>
    obtain ⟨left, rfl⟩ := Nat.exists_eq_succ_of_ne_zero (Nat.ne_of_gt (Nat.zero_lt_of_lt enough))
    have fewer : values.length < left := Nat.lt_of_succ_lt_succ enough
    have here := each value List.mem_cons_self
    have later := ih (fun other mem => each other (List.mem_cons_of_mem _ mem)) (value :: done) fewer
    rw [List.map_cons, List.flatMap_cons, List.cons_append, List.cons_append, List.append_assoc,
      List.append_assoc]
    rw [readItems_item done left (nextItem?_later here.begins (indent + 1))
      (here.reads _ (bounded_later indent _ _)), later]
    simp

theorem reads_list (values : List α) (each : ∀ value ∈ values, Reads item (written value) value) (indent : Nat) :
    Reads (readSequence item) (block '[' ']' indent (values.map written)) values := by
  rw [block_eq]
  refine ⟨⟨'[', _, rfl, by decide, by decide⟩, ?_⟩
  intro rest _
  have opened : readSequence item ('[' :: (body indent (values.map written) ++ [']']) ++ rest) =
      readList item (body indent (values.map written) ++ ']' :: rest) := by
    rw [readSequence, List.cons_append, skipSpace_of_begins (by decide)]
    simp
  rw [opened, readList]
  cases values with
  | nil =>
    have next : nextItem? true (']' :: rest) = .ok (false, ']' :: rest) := by
      rw [nextItem?, skipSpace_of_begins (by decide)]
      rfl
    exact readItems_end next
  | cons value values =>
    have enough : values.length < (body indent ((value :: values).map written) ++ ']' :: rest).length := by
      have parts := length_le_body indent ((value :: values).map written)
      rw [List.length_map, List.length_cons] at parts
      rw [List.length_append]
      omega
    generalize (body indent ((value :: values).map written) ++ ']' :: rest).length = steps at enough ⊢
    have here := each value List.mem_cons_self
    have first := readItems_item [] steps (nextItem?_first here.begins (indent + 1))
      (here.reads _ (bounded_later indent (values.map written) (']' :: rest)))
    have later := readItems_later (fun other mem => each other (List.mem_cons_of_mem _ mem)) indent [value] enough rest
    simp only [List.map_cons, body, List.append_assoc] at first later ⊢
    rw [first, later]
    rfl

end Lists

section Objects

variable {σ α : Type} {field : σ → String → List Char → Reading σ} {state next last : σ}
variable {name : String} {text : List Char}

def fieldText (field : String × List Char) : List Char := quote field.1 ++ [':', ' '] ++ field.2

private theorem fieldText_append (name : String) (text rest : List Char) :
    fieldText (name, text) ++ rest = quote name ++ (':' :: ' ' :: (text ++ rest)) := by
  simp [fieldText]

def Leads (field : σ → String → List Char → Reading σ) (state : σ) (name : String) (text : List Char)
    (next : σ) : Prop :=
  ∀ rest, Bounded rest → field state name (':' :: ' ' :: (text ++ rest)) = .ok (next, rest)

inductive LeadAll (field : σ → String → List Char → Reading σ) : σ → List (String × List Char) → σ → Prop
  | nil {state : σ} : LeadAll field state [] state
  | cons {state next last : σ} {name text fields} (first : Leads field state name text next)
      (others : LeadAll field next fields last) : LeadAll field state ((name, text) :: fields) last

private theorem nextKey?_first (indent : Nat) (name : String) (rest : List Char) :
    nextKey? true (newline indent ++ (quote name ++ rest)) = .ok (true, quote name ++ rest) := by
  rw [quote_append, nextKey?, skipSpace_newline, skipSpace_of_begins (by decide)]
  rfl

private theorem nextKey?_later (indent : Nat) (name : String) (rest : List Char) :
    nextKey? false (',' :: (newline indent ++ (quote name ++ rest))) = .ok (true, quote name ++ rest) := by
  rw [quote_append]
  generalize name.toList.flatMap escapeChar ++ '"' :: rest = written
  have here : skipSpace (newline indent ++ '"' :: written) = '"' :: written := by
    rw [skipSpace_newline, skipSpace_of_begins (by decide)]
  rw [nextKey?, skipSpace_of_begins (by decide)]
  split
  · next none => cases none
  · next ends => exact absurd (List.cons.inj ends).1 (by decide)
  · next same =>
    obtain ⟨rfl, rfl⟩ := List.cons.inj same
    rw [if_neg (by decide), if_pos rfl, here]
    rfl

private theorem nextKey?_end (first : Bool) (indent : Nat) (rest : List Char) :
    nextKey? first (newline indent ++ '}' :: rest) = .ok (false, '}' :: rest) := by
  rw [nextKey?, skipSpace_newline, skipSpace_of_begins (by decide)]
  rfl

private theorem readFields_field {first : Bool} {cs rest : List Char} (steps : Nat)
    (key : nextKey? first cs = .ok (true, quote name ++ (':' :: ' ' :: (text ++ rest))))
    (leads : Leads field state name text next) (ends : Bounded rest) :
    readFields field first state (steps + 1) cs = readFields field false next steps rest := by
  have named : readString ((quote name ++ (':' :: ' ' :: (text ++ rest))).drop 1) =
      .ok (name, ':' :: ' ' :: (text ++ rest)) := by
    rw [quote_append]
    exact readString_escaped name _
  simp only [readFields, key, bind, Except.bind, if_true, named, leads rest ends]

private theorem readFields_end {first : Bool} {cs rest : List Char} (steps : Nat)
    (key : nextKey? first cs = .ok (false, '}' :: rest)) :
    readFields field first state (steps + 1) cs = .ok (state, '}' :: rest) := by
  simp only [readFields, key, bind, Except.bind, Bool.false_eq_true, if_false, pure, Except.pure]

variable {fields : List (String × List Char)}

private theorem readFields_later (all : LeadAll field state fields last) (indent : Nat) {steps : Nat}
    (enough : fields.length < steps) (rest : List Char) :
    readFields field false state steps
      ((fields.map fieldText).flatMap (fun part => ',' :: (newline (indent + 1) ++ part)) ++
        (newline indent ++ '}' :: rest)) = .ok (last, '}' :: rest) := by
  induction all generalizing steps with
  | nil =>
    obtain ⟨left, rfl⟩ := Nat.exists_eq_succ_of_ne_zero (Nat.ne_of_gt enough)
    exact readFields_end left (nextKey?_end false indent rest)
  | @cons state next last name text fields leads others ih =>
    obtain ⟨left, rfl⟩ := Nat.exists_eq_succ_of_ne_zero (Nat.ne_of_gt (Nat.zero_lt_of_lt enough))
    have later := ih (Nat.lt_of_succ_lt_succ enough)
    have ends := bounded_later indent (fields.map fieldText) ('}' :: rest)
    rw [List.map_cons, List.flatMap_cons, List.cons_append, List.cons_append, List.append_assoc,
      List.append_assoc, fieldText_append]
    rw [readFields_field left (nextKey?_later (indent + 1) name _) leads ends, later]

theorem readObject_body (all : LeadAll field state fields last) (indent : Nat) (rest : List Char) :
    readObject field state (body indent (fields.map fieldText) ++ '}' :: rest) =
      .ok (last, '}' :: rest) := by
  rw [readObject]
  cases all with
  | nil =>
    have key : nextKey? true ('}' :: rest) = .ok (false, '}' :: rest) := by
      rw [nextKey?, skipSpace_of_begins (by decide)]
      rfl
    exact readFields_end _ key
  | @cons state next last name text fields leads others =>
    have enough : fields.length <
        (body indent (((name, text) :: fields).map fieldText) ++ '}' :: rest).length := by
      have parts := length_le_body indent (((name, text) :: fields).map fieldText)
      rw [List.length_map, List.length_cons] at parts
      rw [List.length_append]
      omega
    generalize (body indent (((name, text) :: fields).map fieldText) ++ '}' :: rest).length = steps
      at enough ⊢
    have ends := bounded_later indent (fields.map fieldText) ('}' :: rest)
    have later := readFields_later others indent enough rest
    rw [List.map_cons, body, List.append_assoc, List.append_assoc, List.append_assoc, fieldText_append]
    rw [readFields_field steps (nextKey?_first (indent + 1) name _) leads ends, later]

/-- A structure on lines of its own is read back if its fields are. -/
theorem reads_struct {struct : String} {ofObject ofList : List Char → Reading α} {value : α} {indent : Nat}
    (fields : List (String × List Char))
    (opened : ∀ rest, ofObject (body indent (fields.map fieldText) ++ '}' :: rest) = .ok (value, '}' :: rest)) :
    Reads (readStruct struct ofObject ofList) (block '{' '}' indent (fields.map fieldText)) value := by
  rw [block_eq]
  refine ⟨⟨'{', _, rfl, by decide, by decide⟩, ?_⟩
  intro rest _
  have closed : closeObject ('}' :: rest) = .ok ((), rest) := by
    rw [closeObject, skipSpace_of_begins (by decide)]
    rfl
  have found := opened rest
  rw [readStruct, List.cons_append, skipSpace_of_begins (by decide)]
  simp [found, Except.bind, Except.map, closed]

theorem readOnce_of_reads {read : List Char → Reading α} {value : α} (reads : Reads read text value)
    (skips : ∀ cs, read (' ' :: cs) = read cs) (name : String) {rest : List Char} (ends : Bounded rest) :
    readOnce name none read (':' :: ' ' :: (text ++ rest)) = .ok (some value, rest) := by
  have colon : readColon (':' :: ' ' :: (text ++ rest)) = .ok ((), ' ' :: (text ++ rest)) := by
    rw [readColon, skipSpace_of_begins (by decide)]
    rfl
  have found := reads.reads rest ends
  simp [readOnce, colon, Except.bind, skips, found, Except.map]

end Objects

end CorpusTally.Json
