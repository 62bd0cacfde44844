import CorpusTally.Yaml.Error

/-!
Scalars: plain ones, quoted ones and blocks. Blanks around a line break fold to one space, and each
further break is kept.
-/

namespace CorpusTally.Yaml

/-- What stands between two pieces of a scalar: the blanks before the first break, and the number of
breaks. An escaped break begins the next line without being one. -/
structure Gap where
  escaped : Bool := false
  blanks : List Char := []
  breaks : Nat := 0

namespace Gap

def text (g : Gap) : List Char :=
  if g.escaped then List.replicate g.breaks '\n'
  else match g.breaks with
    | 0 => g.blanks
    | 1 => [' ']
    | more + 1 => List.replicate more '\n'

def isOnNewLine (g : Gap) : Bool := g.escaped || g.breaks ≠ 0

def addBlank (g : Gap) (c : Char) : Gap :=
  if g.isOnNewLine then g else { g with blanks := g.blanks ++ [c] }

def addBreak (g : Gap) : Gap := { g with breaks := g.breaks + 1 }

def read (indent : Int) (g : Gap) : Mark → List Char → Option (Gap × Cursor)
  | mark, [] => some (g, ⟨mark, []⟩)
  | mark, '\r' :: '\n' :: rest => read indent g.addBreak ((mark.after '\r').after '\n') rest
  | mark, c :: rest =>
    if isBlank c then
      if g.isOnNewLine && c = '\t' && (mark.column : Int) < indent then none
      else read indent (g.addBlank c) (mark.after c) rest
    else if isBreak c then read indent g.addBreak (mark.after c) rest
    else some (g, ⟨mark, c :: rest⟩)

end Gap

/-- A colon ends a plain scalar before a blank, and in a flow collection also before its signs, which
end one themselves. -/
def endsPlain (inFlow : Bool) (c : Char) (rest : List Char) : Bool :=
  if c = ':' then startsBlank rest || (inFlow && rest.head?.any isFlowSign)
  else inFlow && isFlowSign c

def readWord (inFlow : Bool) (done : List Char) : Mark → List Char → List Char × Cursor
  | mark, [] => (done, ⟨mark, []⟩)
  | mark, c :: rest =>
    if isBlank c || isBreak c || endsPlain inFlow c rest then (done, ⟨mark, c :: rest⟩)
    else readWord inFlow (c :: done) (mark.after c) rest

structure Plain where
  text : String
  endsLine : Bool

def finishPlain (done : List Char) (gap : Gap) (at_ : Cursor) : Plain × Cursor :=
  (⟨String.ofList done.reverse, gap.isOnNewLine⟩, at_)

/-- Words and gaps, until a word is empty, a comment or a divider begins, or a line of a block scalar
starts before the column `indent`. -/
def readPlainFrom (inFlow : Bool) (indent : Int) (start : Mark) :
    Nat → List Char → Gap → Cursor → Reading Plain
  | 0, done, gap, at_ => .ok (finishPlain done gap at_)
  | fuel + 1, done, gap, at_ =>
    if at_.isAtDivider || at_.next? = some '#' then .ok (finishPlain done gap at_)
    else
      let (word, behind) := readWord inFlow [] at_.mark at_.rest
      let done := if word = [] then done else word ++ (gap.text.reverse ++ done)
      let gap := if word = [] then gap else {}
      if !(behind.next?.any fun c => isBlank c || isBreak c) then
        .ok (finishPlain done gap behind)
      else match gap.read indent behind.mark behind.rest with
        | none => fault start .plainTab
        | some (gap, behind) =>
          if !inFlow && (behind.mark.column : Int) < indent then
            .ok (finishPlain done gap behind)
          else readPlainFrom inFlow indent start fuel done gap behind

def readPlain (inFlow : Bool) (indent : Int) (start : Cursor) : Reading Plain :=
  readPlainFrom inFlow indent start.mark (start.rest.length + 1) [] {} start

def hexValue? (c : Char) : Option Nat :=
  if c.isDigit then some (c.toNat - '0'.toNat)
  else if 'a' ≤ c && c ≤ 'f' then some (c.toNat - 'a'.toNat + 10)
  else if 'A' ≤ c && c ≤ 'F' then some (c.toNat - 'A'.toNat + 10)
  else none

def charOfNumber? (n : Nat) : Option Char := if n.isValidChar then some (Char.ofNat n) else none

def hexNumber? : Nat → Nat → List Char → Option Nat
  | 0, value, _ => some value
  | _ + 1, _, [] => none
  | digits + 1, value, c :: rest =>
    (hexValue? c).bind fun digit => hexNumber? digits (value * 16 + digit) rest

def readCode (digits : Nat) (cs : List Char) : Except Cause (Char × Nat) :=
  match hexNumber? digits 0 cs with
  | none => .error .escapeDigits
  | some value =>
    match charOfNumber? value with
    | none => .error .escapeCode
    | some c => .ok (c, digits + 1)

def readEscape : List Char → Except Cause (Char × Nat)
  | '0' :: _ => .ok ('\x00', 1)
  | 'a' :: _ => .ok ('\x07', 1)
  | 'b' :: _ => .ok ('\x08', 1)
  | 't' :: _ | '\t' :: _ => .ok ('\t', 1)
  | 'n' :: _ => .ok ('\n', 1)
  | 'v' :: _ => .ok ('\x0b', 1)
  | 'f' :: _ => .ok ('\x0c', 1)
  | 'r' :: _ => .ok ('\r', 1)
  | 'e' :: _ => .ok ('\x1b', 1)
  | ' ' :: _ => .ok (' ', 1)
  | '"' :: _ => .ok ('"', 1)
  | '\'' :: _ => .ok ('\'', 1)
  | '\\' :: _ => .ok ('\\', 1)
  | 'N' :: _ => .ok ('\u0085', 1)
  | '_' :: _ => .ok ('\u00a0', 1)
  | 'L' :: _ => .ok ('\u2028', 1)
  | 'P' :: _ => .ok ('\u2029', 1)
  | 'x' :: rest => readCode 2 rest
  | 'u' :: rest => readCode 4 rest
  | 'U' :: rest => readCode 8 rest
  | _ => .error .unknownEscape

inductive Quote where
  | single
  | double
  deriving DecidableEq

def Quote.sign : Quote → Char
  | .single => '\''
  | .double => '"'

/-- Characters up to a blank, a break, the closing quote, or an escaped break, which is skipped; after
`skip` characters that are read already. -/
def readRun (quote : Quote) (done : List Char) :
    Nat → Mark → List Char → Except Cause (List Char × Bool × Cursor)
  | _, mark, [] => .ok (done, false, ⟨mark, []⟩)
  | skip + 1, mark, c :: rest => readRun quote done skip (mark.after c) rest
  | 0, mark, c :: rest =>
    if isBlank c || isBreak c then .ok (done, false, ⟨mark, c :: rest⟩)
    else if c = quote.sign then
      if quote = .single && rest.head? = some '\'' then
        readRun quote ('\'' :: done) 1 (mark.after c) rest
      else .ok (done, false, ⟨mark, c :: rest⟩)
    else if c = '\\' && quote = .double then
      if rest.head?.any isBreak then
        .ok (done, true, (Cursor.mk (mark.after c) rest).skipBreak)
      else
        match readEscape rest with
        | .ok (found, used) => readRun quote (found :: done) used (mark.after c) rest
        | .error cause => .error cause
    else readRun quote (c :: done) 0 (mark.after c) rest

def readQuotedFrom (quote : Quote) (start : Mark) : Nat → List Char → Cursor → Reading String
  | 0, _, _ => fault start .quotedEnd
  | fuel + 1, done, at_ =>
    if at_.isAtDivider then fault start .quotedDivider
    else if at_.isAtEnd then fault start .quotedEnd
    else
      match readRun quote done 0 at_.mark at_.rest with
      | .error cause => fault start cause
      | .ok (done, escaped, behind) =>
        if behind.next? = some quote.sign then .ok (String.ofList done.reverse, behind.skip 1)
        else
          match Gap.read (-1) { escaped } behind.mark behind.rest with
          | none => fault start .plainTab
          | some (gap, behind) =>
            readQuotedFrom quote start fuel (gap.text.reverse ++ done) behind

def readQuoted (quote : Quote) (start : Cursor) : Reading String :=
  readQuotedFrom quote start.mark (start.rest.length + 1) [] (start.skip 1)

inductive Chomping where
  | strip
  | clip
  | keep

structure BlockHeader where
  chomping : Chomping := .clip
  /-- Columns by which the text is further in than what holds it; zero where the text shows it. -/
  increment : Nat := 0

def chomping? : Option Char → Option Chomping
  | some '+' => some .keep
  | some '-' => some .strip
  | _ => none

def increment? : Option Char → Option Nat
  | some c => if c.isDigit then hexValue? c else none
  | none => none

def readBlockHeader (at_ : Cursor) : Except Cause (BlockHeader × Cursor) :=
  let checked (h : BlockHeader) (shown : Option Nat) (behind : Cursor) :=
    if shown = some 0 then .error .blockIndentZero else .ok (h, behind)
  match chomping? at_.next?, increment? at_.next? with
  | some chomping, _ =>
    let behind := at_.skip 1
    match increment? behind.next? with
    | some increment => checked { chomping, increment } (some increment) (behind.skip 1)
    | none => .ok ({ chomping }, behind)
  | none, some increment =>
    let behind := at_.skip 1
    match chomping? behind.next? with
    | some chomping => checked { chomping, increment } (some increment) (behind.skip 1)
    | none => checked { increment } (some increment) behind
  | none, none => .ok ({}, at_)

structure Indentation where
  column : Nat
  breaks : Nat
  start : Cursor

/-- Skips indentation and empty lines. A column of zero is not known yet: then it is that of the
deepest line met, and at least `least`. -/
def readIndentation (column least : Nat) (deepest breaks : Nat) :
    Mark → List Char → Except Error Indentation
  | mark, [] => .ok (settle (max deepest mark.column) ⟨mark, []⟩)
  | mark, '\r' :: '\n' :: rest =>
    readIndentation column least (max deepest mark.column) (breaks + 1)
      ((mark.after '\r').after '\n') rest
  | mark, c :: rest =>
    let isOpen := column = 0 || mark.column < column
    if c = ' ' && isOpen then readIndentation column least deepest breaks (mark.after c) rest
    else if c = '\t' && isOpen then fault mark .blockTab
    else if isBreak c then
      readIndentation column least (max deepest mark.column) (breaks + 1) (mark.after c) rest
    else .ok (settle (max deepest mark.column) ⟨mark, c :: rest⟩)
where
  settle (deepest : Nat) (start : Cursor) : Indentation :=
    ⟨if column = 0 then max deepest least else column, breaks, start⟩

/-- The lines so far, in reverse, with the breaks behind them. -/
structure BlockText where
  done : List Char := []
  ended : Bool := false
  emptyLines : Nat := 0
  blankLed : Bool := false

namespace BlockText

def open_ (t : BlockText) (folds : Bool) (blank : Bool) : BlockText :=
  let joined :=
    if folds && t.ended && !t.blankLed && !blank then
      if t.emptyLines = 0 then ' ' :: t.done else t.done
    else if t.ended then '\n' :: t.done else t.done
  { done := List.replicate t.emptyLines '\n' ++ joined, blankLed := blank }

def chomp (t : BlockText) (chomping : Chomping) : String :=
  let ended := if t.ended then ['\n'] else []
  let emptyLines := List.replicate t.emptyLines '\n'
  let tail := match chomping with
    | .strip => []
    | .clip => ended
    | .keep => ended ++ emptyLines
  String.ofList (t.done.reverse ++ tail)

end BlockText

def readBlockLines (folds : Bool) (least : Nat) : Nat → BlockText → Indentation → Reading BlockText
  | 0, t, indentation => .ok (t, indentation.start)
  | fuel + 1, t, indentation =>
    let at_ := indentation.start
    let t := { t with emptyLines := indentation.breaks }
    if at_.mark.column ≠ indentation.column || at_.isAtEnd then .ok (t, at_)
    else
      let t := t.open_ folds (at_.next?.any isBlank)
      let line := at_.rest.takeWhile fun c => !isBreak c
      let behind := at_.skipLine
      let t := { t with done := line.reverse ++ t.done }
      if behind.isAtEnd then .ok (t, behind)
      else
        let next := behind.skipBreak
        match readIndentation indentation.column least 0 0 next.mark next.rest with
        | .error e => .error e
        | .ok indentation => readBlockLines folds least fuel { t with ended := true } indentation

/-- A block scalar with the mark of its text. The lines around it start at the column `indent`, or at
none. -/
def readBlock (folds : Bool) (indent : Int) (start : Cursor) :
    Except Error ((Mark × String) × Cursor) := do
  let (header, behind) ← (readBlockHeader (start.skip 1)).mapError (Error.mk start.mark)
  let behind := behind.skipBlanks.skipComment
  if !startsBreak behind.rest then fault start.mark .blockHeader
  let behind := behind.skipBreak
  let column := if header.increment = 0 then 0 else indent.toNat + header.increment
  let least := max (indent + 1).toNat 1
  let indentation ← readIndentation column least 0 0 behind.mark behind.rest
  let (text, rest) ← readBlockLines folds least (behind.rest.length + 1) {} indentation
  return ((indentation.start.mark, text.chomp header.chomping), rest)

end CorpusTally.Yaml
