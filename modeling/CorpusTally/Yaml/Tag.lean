import CorpusTally.Yaml.Scalar

/-!
The names that stand before nodes: anchors, aliases and tags; and the directives before a document.
-/

namespace CorpusTally.Yaml

/-- A handle between exclamation marks, and what it is short for with a suffix. -/
structure Tag where
  handle : String
  suffix : String
  deriving DecidableEq

def takeName (at_ : Cursor) : List Char × Cursor :=
  (at_.rest.takeWhile isNameChar, at_.skipWhile isNameChar)

def endsName (cs : List Char) : Bool :=
  startsBlank cs || cs.head?.any fun c => "?:,]\x7d%@\x60".toList.contains c

def readAnchor (start : Cursor) : Reading String :=
  let (name, behind) := takeName (start.skip 1)
  if name = [] || !endsName behind.rest then fault start.mark .anchorName
  else .ok (String.ofList name, behind)

def uriSigns : List Char := ";/?:@&=+$,.!~*'()[]%".toList

def isUriChar (c : Char) : Bool := isNameChar c || uriSigns.contains c

def octet? : List Char → Option Nat
  | '%' :: a :: b :: _ => (hexValue? a).bind fun high => (hexValue? b).map fun low => high * 16 + low
  | _ => none

def octetCount? (octet : Nat) : Option Nat :=
  if octet < 0x80 then some 1
  else if octet < 0xc0 then none
  else if octet < 0xe0 then some 2
  else if octet < 0xf0 then some 3
  else if octet < 0xf8 then some 4
  else none

/-- Octets that go on a character; they are joined as they stand. -/
def readMoreOctets : Nat → Nat → List Char → Except Cause Nat
  | 0, code, _ => .ok code
  | count + 1, code, cs =>
    match octet? cs with
    | none => .error .tagOctet
    | some octet =>
      if octet / 0x40 = 2 then readMoreOctets count (code * 0x100 + octet) (cs.drop 3)
      else .error .tagTrailingOctet

def readOctets (cs : List Char) : Except Cause (Char × Nat) :=
  match octet? cs with
  | none => .error .tagOctet
  | some octet =>
    match octetCount? octet with
    | none => .error .tagLeadingOctet
    | some count =>
      (readMoreOctets (count - 1) octet (cs.drop 3)).bind fun code =>
        match charOfNumber? code with
        | some c => .ok (c, count)
        | none => .error .tagCodePoint

def readUriChars (done : List Char) : Nat → Mark → List Char → Except Cause (List Char × Cursor)
  | _, mark, [] => .ok (done, ⟨mark, []⟩)
  | skip + 1, mark, c :: rest => readUriChars done skip (mark.after c) rest
  | 0, mark, c :: rest =>
    if c = '%' then
      match readOctets (c :: rest) with
      | .ok (found, count) => readUriChars (found :: done) (3 * count - 1) (mark.after c) rest
      | .error cause => .error cause
    else if isUriChar c then readUriChars (c :: done) 0 (mark.after c) rest
    else .ok (done, ⟨mark, c :: rest⟩)

/-- A URI that goes on what was taken for a handle. Together they have a character. -/
def readUri (head : List Char) (at_ : Cursor) : Except Cause (String × Cursor) :=
  (readUriChars [] 0 at_.mark at_.rest).bind fun (done, behind) =>
    if head = [] && done = [] then .error .tagUri
    else .ok (String.ofList (head.drop 1 ++ done.reverse), behind)

def readHandle (at_ : Cursor) : Except Cause (List Char × Cursor) :=
  if at_.next? ≠ some '!' then .error .tagMark
  else
    let (name, behind) := takeName (at_.skip 1)
    if behind.next? = some '!' then .ok ('!' :: name ++ ['!'], behind.skip 1)
    else .ok ('!' :: name, behind)

def isHandle (handle : List Char) : Bool := handle.length ≥ 2 && handle.getLast? = some '!'

def readShortTag (at_ : Cursor) : Except Cause (Tag × Cursor) := do
  let (handle, behind) ← readHandle at_
  if isHandle handle then
    let (suffix, behind) ← readUri [] behind
    return (⟨String.ofList handle, suffix⟩, behind)
  else
    let (suffix, behind) ← readUri handle behind
    if suffix = "" then return (⟨"", "!"⟩, behind)
    else return (⟨"!", suffix⟩, behind)

def readFullTag (at_ : Cursor) : Except Cause (Tag × Cursor) := do
  let (suffix, behind) ← readUri [] (at_.skip 2)
  if behind.next? = some '>' then return (⟨"", suffix⟩, behind.skip 1)
  else throw .tagClose

def readTag (start : Cursor) : Reading Tag :=
  let tag :=
    if start.rest.drop 1 |>.head? |>.any (· = '<') then readFullTag start else readShortTag start
  match tag with
  | .error cause => fault start.mark cause
  | .ok (tag, behind) =>
    if startsBlank behind.rest then .ok (tag, behind) else fault start.mark .tagEnd

def readVersionNumber (at_ : Cursor) : Except Cause Cursor :=
  match (at_.rest.takeWhile Char.isDigit).length with
  | 0 => .error .versionNumber
  | length => if length > 9 then .error .versionTooLong else .ok (at_.skip length)

def readVersion (at_ : Cursor) : Except Cause Cursor := do
  let behind ← readVersionNumber at_.skipBlanks
  if behind.next? = some '.' then readVersionNumber (behind.skip 1) else throw .versionPoint

def readTagDirective (at_ : Cursor) : Except Cause Cursor := do
  let (handle, behind) ← readHandle at_.skipBlanks
  if handle ≠ ['!'] && !isHandle handle then throw .tagHandleMark
  let (_, behind) ← readUri [] behind.skipBlanks
  if startsBlank behind.rest then return behind else throw .tagDirectiveEnd

/-- The line of a directive. No directive changes what the document says, and one of an unknown name may
say anything. -/
def readDirective (start : Cursor) : Except Error Cursor := do
  let nameStart := start.skip 1
  let (name, behind) := takeName nameStart
  if name = [] then fault nameStart.mark .directiveName
  if !startsBlank behind.rest then fault nameStart.mark .directiveNameEnd
  let behind ←
    if name = "YAML".toList then (readVersion behind).mapError (Error.mk start.mark)
    else if name = "TAG".toList then (readTagDirective behind).mapError (Error.mk start.mark)
    else pure behind.skipLine
  let behind := behind.skipBlanks.skipComment
  if !startsBreak behind.rest then fault start.mark .directiveEnd
  return behind.skipBreak

end CorpusTally.Yaml
