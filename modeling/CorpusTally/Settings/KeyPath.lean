import CorpusTally.Crash
import CorpusTally.Settings.Entry

/-!
Keys of settings as paths, such as `a.b[2]`, and the layers of settings laid over each other: tables
are merged key by key, and any other value replaces what was there.
-/

namespace CorpusTally.Settings

inductive KeyPath where
  | top (key : String)
  | child (parent : KeyPath) (key : String)
  | item (parent : KeyPath) (index : Int)

namespace KeyPath

def isNameChar (c : Char) : Bool := c.isAlphanum || c = ' ' || c = '_' || c = '-'

def takeName? (cs : List Char) : Option (String × List Char) :=
  match cs.takeWhile isNameChar with
  | [] => none
  | name => some (String.ofList name, cs.dropWhile isNameChar)

def dropSpace (cs : List Char) : List Char := cs.dropWhile fun c => c = ' ' || c = '\t'

def takeIndex? (cs : List Char) : Option (Int × List Char) :=
  let (sign, unsigned) := match dropSpace cs with
    | '-' :: rest => (['-'], rest)
    | rest => ([], rest)
  let digits := unsigned.takeWhile Char.isDigit
  match digits, dropSpace (unsigned.drop digits.length) with
  | _ :: _, ']' :: rest => (Numeral.readSigned? 10 (sign ++ digits)).map (·, rest)
  | _, _ => none

def extend? (path : KeyPath) : Nat → List Char → Option KeyPath
  | _, [] => some path
  | 0, _ => none
  | steps + 1, '.' :: rest =>
    (takeName? rest).bind fun (name, rest) => extend? (.child path name) steps rest
  | steps + 1, '[' :: rest =>
    (takeIndex? rest).bind fun (index, rest) => extend? (.item path index) steps rest
  | _, _ => none

def parse? (key : String) : Option KeyPath :=
  (takeName? key.toList).bind fun (name, rest) => extend? (.top name) rest.length rest

/-- A key that is no path names itself. -/
def ofKey (key : String) : KeyPath := (parse? key).getD (.top key)

end KeyPath

namespace Entry

def emptyTable : Entry := table none []

def asTable : Entry → Entry
  | table origin fields => table origin fields
  | _ => emptyTable

def asList : Entry → Entry
  | list origin items => list origin items
  | _ => list none []

def putField (key : String) (value : Entry) : List (String × Entry) → List (String × Entry)
  | [] => [(key, value)]
  | (k, v) :: rest => if k = key then (key, value) :: rest else (k, v) :: putField key value rest

def withField (entry : Entry) (key : String) (value : Entry) : Entry :=
  match entry.asTable with
  | table origin fields => table origin (putField key value fields)
  | other => other

mutual

def overlay (target : Entry) (key : String) : Entry → Entry
  | table _ fields =>
    target.withField key (overlayAll ((target.asTable.field? key).getD emptyTable) fields)
  | value => target.withField key value

def overlayAll (target : Entry) : List (String × Entry) → Entry
  | [] => target
  | (key, value) :: rest => overlayAll (overlay target key value) rest

end

def tooManyItems : Nat := 1 <<< 56

/-- The place of an index among as many items; one below zero counts from the end. -/
def indexIn (index : Int) (length : Nat) : Except Crash Nat :=
  if 0 ≤ index then
    if index.toNat ≥ tooManyItems then .error .listTooLong else .ok index.toNat
  else if index = -Int.ofNat (UInt64.size / 2) then .error .negationTooLarge
  else if index.natAbs ≤ length then .ok (length - index.natAbs)
  else .error .differenceTooSmall

def paddedTo (items : List Entry) (length : Nat) : List Entry :=
  items ++ List.replicate (length - items.length) (nil none)

/-- Changes an item of a list; one behind the end is put there. -/
def changeItem (entry : Entry) (index : Int) (change : Entry → Except Crash Entry) :
    Except Crash Entry := do
  let target := entry.asList
  let place ← indexIn index target.items.length
  let changed ← change (target.items.getD place (nil none))
  return list target.origin ((paddedTo target.items (place + 1)).set place changed)

def changeField (entry : Entry) (key : String) (change : Entry → Except Crash Entry) :
    Except Crash Entry := do
  let target := entry.asTable
  let changed ← change ((target.field? key).getD (nil none))
  return target.withField key changed

/-- Changes the value at a path, whose tables and lists are made where there are none. -/
def changeAt (entry : Entry) : KeyPath → (Entry → Except Crash Entry) → Except Crash Entry
  | .top key, change => entry.changeField key change
  | .child parent key, change => entry.changeAt parent (·.changeField key change)
  | .item parent index, change => entry.changeAt parent (·.changeItem index change)

def setAt (entry : Entry) (value : Entry) : KeyPath → Except Crash Entry
  | .top key => .ok (entry.overlay key value)
  | .child parent key => entry.changeAt parent fun table => .ok (table.asTable.overlay key value)
  | .item parent index => entry.changeAt parent (·.changeItem index fun _ => .ok value)

/-- Lays the fields of a table over those of the layers below it. -/
def addLayer (entry : Entry) (fields : List (String × Entry)) : Except Crash Entry :=
  fields.foldlM (fun entry (key, value) => entry.setAt value (.ofKey key)) entry

end Entry

end CorpusTally.Settings
