import CorpusTally.Yaml.Token

/-!
Tokens in order. Whether a scalar or a collection is a key shows only at the colon behind it, so tokens
wait in a queue while the first of them may still turn out to be a key.
-/

namespace CorpusTally.Yaml

/-- What may still become a key: the number of its first token, and where it starts. A required one has
to become a key. -/
structure KeyCandidate where
  possible : Bool := false
  required : Bool := false
  number : Nat := 0
  mark : Mark := {}

namespace KeyCandidate

/-- A candidate is given up on a later line, and far behind its start. -/
def isStale (k : KeyCandidate) (now : Mark) : Bool :=
  k.possible && (k.mark.line < now.line || k.mark.index + 1024 < now.index)

def refresh (k : KeyCandidate) (now : Mark) : Except Error KeyCandidate :=
  if k.isStale now then
    if k.required then fault now .keyWithoutColon else .ok { k with possible := false }
  else .ok k

end KeyCandidate

structure TokenStream where
  cursor : Cursor
  started : Bool := false
  queue : List Token := []
  delivered : Nat := 0
  keyAllowed : Bool := true
  key : KeyCandidate := {}
  /-- The candidates outside each open flow collection, the nearest first. -/
  outerKeys : List KeyCandidate := []
  /-- The column of the block collection that is open, or a negative number. -/
  indent : Int := -1
  outerIndents : List Int := []
  /-- Where a quoted scalar ended last: there a colon needs no blank behind it. -/
  quotedEnd : Nat := 0

namespace TokenStream

def ofString (text : String) : TokenStream := { cursor := .ofString text }

def mark (s : TokenStream) : Mark := s.cursor.mark

def inFlow (s : TokenStream) : Bool := !s.outerKeys.isEmpty

def push (s : TokenStream) (mark : Mark) (lexeme : Lexeme) : TokenStream :=
  { s with queue := s.queue ++ [⟨mark, lexeme⟩] }

def insertAt (s : TokenStream) (number : Nat) (mark : Mark) (lexeme : Lexeme) : TokenStream :=
  { s with queue := s.queue.insertIdx (number - s.delivered) ⟨mark, lexeme⟩ }

def moveTo (s : TokenStream) (cursor : Cursor) : TokenStream := { s with cursor }

def skip (s : TokenStream) (n : Nat) : TokenStream := s.moveTo (s.cursor.skip n)

def take (s : TokenStream) (length : Nat) (lexeme : Lexeme) : TokenStream :=
  (s.push s.mark lexeme).skip length

def allowKey (s : TokenStream) (allowed : Bool) : TokenStream := { s with keyAllowed := allowed }

def refreshKeys (s : TokenStream) : Except Error TokenStream := do
  let outerKeys ← s.outerKeys.mapM (·.refresh s.mark)
  let key ← s.key.refresh s.mark
  return { s with key, outerKeys }

def dropKey (s : TokenStream) : Except Error TokenStream :=
  if s.key.possible && s.key.required then fault s.mark .keyExpected
  else .ok { s with key := { s.key with possible := false } }

def saveKey (s : TokenStream) : Except Error TokenStream :=
  if !s.keyAllowed then .ok s
  else (s.dropKey).map fun s =>
    { s with
      key :=
        { possible := true
          required := s.inFlow && s.indent = s.mark.column
          number := s.delivered + s.queue.length
          mark := s.mark } }

/-- Opens a block collection at a column, unless one is open there; its token goes before the one with
a number, or to the end. -/
def openBlock (s : TokenStream) (column : Nat) (number : Option Nat) (mark : Mark)
    (lexeme : Lexeme) : TokenStream :=
  if s.inFlow || (column : Int) ≤ s.indent then s
  else
    let s := { s with indent := column, outerIndents := s.indent :: s.outerIndents }
    match number with
    | some number => s.insertAt number mark lexeme
    | none => s.push mark lexeme

def closeBlocksFrom (column : Int) : List Int → TokenStream → TokenStream
  | [], s => s
  | outer :: more, s =>
    if s.indent ≤ column then s
    else closeBlocksFrom column more
      ({ s with indent := outer, outerIndents := more }.push s.mark .blockEnd)

def closeBlocks (s : TokenStream) (column : Int) : TokenStream :=
  if s.inFlow then s else closeBlocksFrom column s.outerIndents s

/-- Skips blanks, breaks and comments. A tab is no blank where a block may begin. -/
def skipToToken (keyAllowed inFlow : Bool) (inComment : Bool) :
    Mark → List Char → Bool × Cursor
  | mark, [] => (keyAllowed, ⟨mark, []⟩)
  | mark, '\r' :: '\n' :: rest =>
    skipToToken (keyAllowed || !inFlow) inFlow false ((mark.after '\r').after '\n') rest
  | mark, c :: rest =>
    if isBreak c then skipToToken (keyAllowed || !inFlow) inFlow false (mark.after c) rest
    else if inComment || c = ' ' || (c = '\t' && (inFlow || !keyAllowed)) then
      skipToToken keyAllowed inFlow inComment (mark.after c) rest
    else if c = '#' then skipToToken keyAllowed inFlow true (mark.after c) rest
    else (keyAllowed, ⟨mark, c :: rest⟩)

def toNextToken (s : TokenStream) : TokenStream :=
  let (keyAllowed, cursor) := skipToToken s.keyAllowed s.inFlow false s.mark s.cursor.rest
  { s with keyAllowed, cursor }

def takeEnd (s : TokenStream) : Except Error TokenStream := do
  let s := s.moveTo { s.cursor with mark := s.mark.atLineStart }
  let s ← (s.closeBlocks (-1)).dropKey
  return (s.allowKey false).push s.mark .streamEnd

def takeDirective (s : TokenStream) : Except Error TokenStream := do
  let s ← (s.closeBlocks (-1)).dropKey
  let behind ← readDirective s.cursor
  return ((s.allowKey false).push s.mark .directive).moveTo behind

def takeDivider (s : TokenStream) (lexeme : Lexeme) : Except Error TokenStream := do
  let s ← (s.closeBlocks (-1)).dropKey
  return (s.allowKey false).take 3 lexeme

def maxFlowDepth : Nat := 255

def openFlow (s : TokenStream) (lexeme : Lexeme) : Except Error TokenStream := do
  let s ← s.saveKey
  if s.outerKeys.length ≥ maxFlowDepth then fault s.mark .nestedTooDeep
  return ({ s with key := {}, outerKeys := s.key :: s.outerKeys }.allowKey true).take 1 lexeme

def closeFlow (s : TokenStream) (lexeme : Lexeme) : Except Error TokenStream := do
  let s ← s.dropKey
  let s := match s.outerKeys with
    | [] => s
    | key :: outerKeys => { s with key, outerKeys }
  return (s.allowKey false).take 1 lexeme

def takeFlowEntry (s : TokenStream) : Except Error TokenStream :=
  s.dropKey.map fun s => (s.allowKey true).take 1 .flowEntry

def takeBlockEntry (s : TokenStream) : Except Error TokenStream :=
  if s.inFlow then fault s.mark .entryInFlow
  else if !s.keyAllowed then fault s.mark .entryNotAllowed
  else
    (s.openBlock s.mark.column none s.mark .blockSequenceStart).dropKey.map fun s =>
      (s.allowKey true).take 1 .blockEntry

def takeKey (s : TokenStream) : Except Error TokenStream :=
  if !s.inFlow && !s.keyAllowed then fault s.mark .keyNotAllowed
  else
    (s.openBlock s.mark.column none s.mark .blockMappingStart).dropKey.map fun s =>
      (s.allowKey !s.inFlow).take 1 .key

/-- A colon makes the candidate a key. Without one, the key was a collection or is missing. -/
def takeValue (s : TokenStream) : Except Error TokenStream :=
  let key := s.key
  if key.possible then
    let s := s.insertAt key.number key.mark .key
    let s := s.openBlock key.mark.column (some key.number) s.mark .blockMappingStart
    let s := { s with key := { key with possible := false } }
    .ok ((s.allowKey false).take 1 .value)
  else if !s.inFlow && !s.keyAllowed then fault s.mark .valueNotAllowed
  else
    let s := s.openBlock s.mark.column none s.mark .blockMappingStart
    .ok ((s.allowKey !s.inFlow).take 1 .value)

def takeRead {α : Type} (s : TokenStream) (keyAllowed : Bool) (read : Cursor → Reading α)
    (lexeme : α → Lexeme) : Except Error TokenStream := do
  let s ← s.saveKey
  let (found, behind) ← read s.cursor
  return ((s.allowKey keyAllowed).push s.mark (lexeme found)).moveTo behind

def takeQuoted (s : TokenStream) (quote : Quote) : Except Error TokenStream :=
  (s.takeRead false (readQuoted quote) (.scalar false)).map fun s =>
    { s with quotedEnd := s.mark.index }

def takeBlock (s : TokenStream) (folds : Bool) : Except Error TokenStream := do
  let s ← s.saveKey
  let ((mark, text), behind) ← readBlock folds s.indent s.cursor
  return ((s.allowKey true).push mark (.scalar false text)).moveTo behind

def takePlain (s : TokenStream) : Except Error TokenStream := do
  let s ← s.saveKey
  let (plain, behind) ← readPlain s.inFlow (s.indent + 1) s.cursor
  return ((s.allowKey plain.endsLine).push s.mark (.scalar true plain.text)).moveTo behind

def isValueSign (s : TokenStream) (rest : List Char) : Bool :=
  startsBlank rest ||
    (s.inFlow && (rest.head?.any isFlowSign || s.mark.index = s.quotedEnd))

def takeToken (s : TokenStream) : Char → List Char → Except Error TokenStream
  | '[', _ => s.openFlow .flowSequenceStart
  | '\x7b', _ => s.openFlow .flowMappingStart
  | ']', _ => s.closeFlow .flowSequenceEnd
  | '\x7d', _ => s.closeFlow .flowMappingEnd
  | ',', _ => s.takeFlowEntry
  | '-', rest => if startsBlank rest then s.takeBlockEntry else s.takePlain
  | '?', rest => if startsBlank rest then s.takeKey else s.takePlain
  | ':', rest => if s.isValueSign rest then s.takeValue else s.takePlain
  | '*', _ => s.takeRead false readAnchor .alias
  | '&', _ => s.takeRead false readAnchor .anchor
  | '!', _ => s.takeRead false readTag .tag
  | '|', _ => if s.inFlow then s.takePlain else s.takeBlock false
  | '>', _ => if s.inFlow then s.takePlain else s.takeBlock true
  | '\'', _ => s.takeQuoted .single
  | '"', _ => s.takeQuoted .double
  | c, _ =>
    if c = '%' || c = '@' || c = '\x60' then fault s.mark (.reservedSign c) else s.takePlain

def fetch (s : TokenStream) : Except Error TokenStream :=
  if !s.started then .ok ({ s with started := true }.push s.mark .streamStart)
  else do
    let s ← s.toNextToken.refreshKeys
    let s := s.closeBlocks s.mark.column
    match s.cursor.rest with
    | [] => s.takeEnd
    | c :: rest =>
      if s.mark.column = 0 && c = '%' then s.takeDirective
      else if s.mark.column = 0 && isTriple '-' (c :: rest) then s.takeDivider .documentStart
      else if s.mark.column = 0 && isTriple '.' (c :: rest) then s.takeDivider .documentEnd
      else s.takeToken c rest

def isUndecided (s : TokenStream) : Bool :=
  (s.key :: s.outerKeys).any fun k => k.possible && k.number = s.delivered

inductive Turn where
  | fetched (s : TokenStream)
  | delivered (token : Token) (s : TokenStream)
  | last (token : Token)

def turn (s : TokenStream) : Except Error Turn :=
  match s.queue with
  | [] => s.fetch.map .fetched
  | token :: queue => do
    let s ← s.refreshKeys
    if s.isUndecided then s.fetch.map .fetched
    else if token.lexeme = .streamEnd then return .last token
    else return .delivered token { s with queue, delivered := s.delivered + 1 }

def run : Nat → TokenStream → List Token × Option Error
  | 0, _ => ([], none)
  | fuel + 1, s =>
    match s.turn with
    | .error e => ([], some e)
    | .ok (.fetched s) => run fuel s
    | .ok (.last token) => ([token], none)
    | .ok (.delivered token s) =>
      let (tokens, error) := run fuel s
      (token :: tokens, error)

/-- Each fetch takes a character, begins the stream or ends it, and pushes no more than two tokens
beside those that close what other fetches opened. -/
def steps (s : TokenStream) : Nat := 5 * (s.cursor.rest.length + 2)

end TokenStream

def tokens (text : String) : List Token × Option Error :=
  let s := TokenStream.ofString text
  s.run s.steps

end CorpusTally.Yaml
