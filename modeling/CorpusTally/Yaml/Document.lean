import CorpusTally.Yaml.Node
import CorpusTally.Yaml.TokenStream

/-!
The documents of a YAML text. An alias stands for the node that its anchor names, once that node is
complete.
-/

namespace CorpusTally.Yaml

structure Composition where
  tokens : List Token
  ending : Option Error
  anchorCount : Nat := 0
  /-- The names of the document at hand, the latest first. -/
  names : List (String × Nat) := []
  complete : List (Nat × Node) := []

abbrev Compose (α : Type) := StateT Composition (Except Error) α

namespace Compose

def outOfTokens (c : Composition) : Error := c.ending.getD ⟨{}, .endOfTokens⟩

def peek : Compose Token := do
  let c ← get
  match c.tokens with
  | [] => throw (outOfTokens c)
  | token :: _ => return token

def lexeme : Compose Lexeme := return (← peek).lexeme

def drop : Compose Unit := modify fun c => { c with tokens := c.tokens.tail }

def fail {α : Type} (token : Token) (cause : Cause) : Compose α := throw ⟨token.mark, cause⟩

/-- The end of what a bound on the depth allows, which is never reached. -/
def giveUp {α : Type} : Compose α := do throw (outOfTokens (← get))

def newAnchor (name : String) : Compose Nat := do
  let c ← get
  set { c with anchorCount := c.anchorCount + 1, names := (name, c.anchorCount) :: c.names }
  return c.anchorCount

def finish (anchor : Option Nat) (node : Node) : Compose Node := do
  if let some number := anchor then
    modify fun c => { c with complete := (number, node) :: c.complete }
  return node

def ofAlias (token : Token) (name : String) : Compose Node := do
  let c ← get
  match c.names.lookup name with
  | none => fail token .unknownAnchor
  | some number => return (c.complete.lookup number).getD .bad

def tag? : Compose (Option Tag) := do
  match (← lexeme) with
  | .tag tag => drop; return some tag
  | _ => return none

def anchor? : Compose (Option Nat) := do
  match (← lexeme) with
  | .anchor name => drop; return some (← newAnchor name)
  | _ => return none

def properties : Compose (Option Nat × Option Tag) := do
  match (← anchor?) with
  | some anchor => return (some anchor, (← tag?))
  | none =>
    match (← tag?) with
    | some tag => return ((← anchor?), some tag)
    | none => return (none, none)

def nullBefore (isEnd : Lexeme → Bool) (node : Compose Node) : Compose Node := do
  if isEnd (← lexeme) then return .null else node

def endsBlockPart : Lexeme → Bool
  | .key | .value | .blockEnd => true
  | _ => false

def value (isEnd : Lexeme → Bool) (node : Compose Node) : Compose Node := do
  match (← lexeme) with
  | .value => drop; nullBefore isEnd node
  | _ => return .null

def blockMapping (node : Compose Node) : Nat → Compose (List Node)
  | 0 => giveUp
  | fuel + 1 => do
    let token ← peek
    match token.lexeme with
    | .key =>
      drop
      let key ← nullBefore endsBlockPart node
      let value ← value endsBlockPart node
      return key :: value :: (← blockMapping node fuel)
    | .value =>
      let value ← value endsBlockPart node
      return .null :: value :: (← blockMapping node fuel)
    | .blockEnd => drop; return []
    | _ => fail token .blockMappingKey

def blockSequence (node : Compose Node) : Nat → Compose (List Node)
  | 0 => giveUp
  | fuel + 1 => do
    let token ← peek
    match token.lexeme with
    | .blockEntry =>
      drop
      let item ← nullBefore (fun l => l = .blockEntry || l = .blockEnd) node
      return item :: (← blockSequence node fuel)
    | .blockEnd => drop; return []
    | _ => fail token .blockEntry

def indentlessSequence (node : Compose Node) : Nat → Compose (List Node)
  | 0 => giveUp
  | fuel + 1 => do
    match (← lexeme) with
    | .blockEntry =>
      drop
      let item ← nullBefore (fun l => l = .blockEntry || endsBlockPart l) node
      return item :: (← indentlessSequence node fuel)
    | _ => return []

def endsFlowPart (close : Lexeme) (l : Lexeme) : Bool := l = .flowEntry || l = close

def separator (first : Bool) (cause : Cause) : Compose Unit := do
  if first then return
  let token ← peek
  if token.lexeme = .flowEntry then drop else fail token cause

def flowMapping (node : Compose Node) : Nat → Bool → Compose (List Node)
  | 0, _ => giveUp
  | fuel + 1, first => do
    if (← lexeme) = .flowMappingEnd then drop; return []
    separator first .flowMappingEnd
    match (← lexeme) with
    | .flowMappingEnd => drop; return []
    | .key =>
      drop
      let isEnd := endsFlowPart .flowMappingEnd
      let key ← nullBefore (fun l => l = .value || isEnd l) node
      let value ← value isEnd node
      return key :: value :: (← flowMapping node fuel false)
    | .value =>
      let value ← value (endsFlowPart .flowMappingEnd) node
      return .null :: value :: (← flowMapping node fuel false)
    | _ =>
      let key ← node
      return key :: .null :: (← flowMapping node fuel false)

/-- A mapping of one field in a flow sequence. A sign that stands in place of its key is passed over. -/
def flowPair (node : Compose Node) : Compose Node := do
  let isEnd := endsFlowPart .flowSequenceEnd
  let l ← lexeme
  let key ← if l = .value || isEnd l then drop; pure .null else node
  let value ← value isEnd node
  return .ofPairs [key, value]

def flowSequence (node : Compose Node) : Nat → Bool → Compose (List Node)
  | 0, _ => giveUp
  | fuel + 1, first => do
    if (← lexeme) = .flowSequenceEnd then drop; return []
    separator first .flowSequenceEnd
    match (← lexeme) with
    | .flowSequenceEnd => drop; return []
    | .key =>
      drop
      let item ← flowPair node
      return item :: (← flowSequence node fuel false)
    | _ =>
      let item ← node
      return item :: (← flowSequence node fuel false)

/-- Where a node stands: in flow collections no block collections begin, and only in block mappings
sequences that are not further in. -/
inductive Setting where
  | flow
  | block
  | blockMapping
  deriving DecidableEq

def node : Nat → Setting → Compose Node
  | 0, _ => giveUp
  | fuel + 1, setting => do
    let token ← peek
    if let .alias name := token.lexeme then drop; return (← ofAlias token name)
    let (anchor, tag) ← properties
    let token ← peek
    match token.lexeme, setting with
    | .scalar isPlain text, _ => drop; finish anchor (.ofScalar isPlain tag text)
    | .flowSequenceStart, _ =>
      drop
      finish anchor (.sequence (← flowSequence (node fuel .flow) fuel true))
    | .flowMappingStart, _ =>
      drop
      finish anchor (.ofPairs (← flowMapping (node fuel .flow) fuel true))
    | .blockSequenceStart, .block | .blockSequenceStart, .blockMapping =>
      drop
      finish anchor (.sequence (← blockSequence (node fuel .block) fuel))
    | .blockMappingStart, .block | .blockMappingStart, .blockMapping =>
      drop
      finish anchor (.ofPairs (← blockMapping (node fuel .blockMapping) fuel))
    | .blockEntry, .blockMapping =>
      finish anchor (.sequence (← indentlessSequence (node fuel .block) fuel))
    | _, _ =>
      if anchor.isNone && tag.isNone then fail token .nodeContent
      else finish anchor (.ofScalar true tag "")

def dropWhile (p : Lexeme → Bool) : Nat → Compose Unit
  | 0 => giveUp
  | fuel + 1 => do
    if p (← lexeme) then
      drop
      dropWhile p fuel

def endsContent : Lexeme → Bool
  | .directive | .documentStart | .documentEnd | .streamEnd => true
  | _ => false

def explicitDocument (fuel : Nat) : Compose Node := do
  dropWhile (· = .directive) fuel
  let token ← peek
  if token.lexeme = .documentStart then drop else fail token .documentStart
  nullBefore endsContent (node fuel .block)

def document (fuel : Nat) (first : Bool) : Compose Node := do
  modify fun c => { c with names := [] }
  match (← lexeme), first with
  | .directive, _ | .documentStart, _ | _, false => explicitDocument fuel
  | _, true => node fuel .block

def documents : Nat → Bool → Compose (List Node)
  | 0, _ => giveUp
  | fuel + 1, first => do
    if !first then dropWhile (· = .documentEnd) fuel
    if (← lexeme) = .streamEnd then return []
    let found ← document fuel first
    if (← lexeme) = .documentEnd then drop
    return found :: (← documents fuel false)

end Compose

def documents (text : String) : Except Error (List Node) :=
  let (tokens, ending) := tokens text
  (Compose.documents (tokens.length + 2) true).run' { tokens := tokens.tail, ending }

end CorpusTally.Yaml
