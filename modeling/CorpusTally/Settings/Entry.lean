import CorpusTally.Decimal
import CorpusTally.Numeral
import CorpusTally.Text.Quoted
import CorpusTally.Unicode.Lowercase

/-!
The values that settings files hold, and what they count as where a number, a truth value or a text is
wanted: a text may spell a number or a truth value, and every simple value has a text.
-/

namespace CorpusTally.Settings

inductive Entry where
  | nil (origin : Option String)
  | bool (origin : Option String) (value : Bool)
  | int (origin : Option String) (value : Int)
  | real (origin : Option String) (value : Float)
  | text (origin : Option String) (value : String)
  | list (origin : Option String) (items : List Entry)
  | table (origin : Option String) (fields : List (String × Entry))

inductive EntryError where
  | wrongKind (found : Entry) (expected : String) (place : Option String)
  | notList (found : Entry)
  | unknownMode (name : String)
  | notMode

namespace Entry

def origin : Entry → Option String
  | nil origin | bool origin _ | int origin _ | real origin _ | text origin _ | list origin _
  | table origin _ => origin

def fields : Entry → List (String × Entry)
  | table _ fields => fields
  | _ => []

def field? (entry : Entry) (key : String) : Option Entry := entry.fields.lookup key

def tableOf (origin : Option String) (fields : List (String × Entry)) : Entry :=
  table origin (fields.foldl (fun kept field => kept.filter (·.1 ≠ field.1) ++ [field]) [])

def items : Entry → List Entry
  | list _ items => items
  | _ => []

def describeForList : Entry → String
  | nil _ => "unit value"
  | bool _ value => s!"boolean \x60{value}\x60"
  | .int _ value => s!"integer \x60{value}\x60"
  | .real _ value => s!"floating point \x60{Decimal.pointedText value}\x60"
  | text _ value => s!"string {Text.quoted value}"
  | list _ _ => "sequence"
  | table _ _ => "map"

def describe : Entry → String
  | .int _ value => s!"integer 64 bit \x60{value}\x60"
  | .real _ value => s!"floating point \x60{Decimal.plainText value}\x60"
  | entry => entry.describeForList

end Entry

namespace EntryError

def message : EntryError → String
  | wrongKind found expected place =>
    let at_ := (place.map fun key => s!" for key \x60{key}\x60").getD ""
    let in_ := (found.origin.map fun file => s!" in {file}").getD ""
    s!"invalid type: {found.describe}, expected {expected}" ++ at_ ++ in_
  | notList found => s!"invalid type: {found.describeForList}, expected a sequence"
  | unknownMode name => s!"enum EncodingMode does not have variant constructor {name}"
  | notMode => "value of enum EncodingMode should be represented by either string or table with " ++
    "exactly one key"

def under (key : String) : EntryError → EntryError
  | wrongKind found expected none => wrongKind found expected (some key)
  | wrongKind found expected (some rest) =>
    wrongKind found expected (some (key ++ (if rest.startsWith "[" then "" else ".") ++ rest))
  | e => e

def underItem (index : Nat) (e : EntryError) : EntryError := e.under s!"[{index}]"

end EntryError

namespace Entry

def wrong {α : Type} (found : Entry) (expected : String) : Except EntryError α :=
  .error (.wrongKind found expected none)

def yesNames : List String := ["true", "on", "yes"]

def noNames : List String := ["false", "off", "no"]

/-- A float counts as the nearest whole number, within 64 bits; a half goes away from zero. -/
def count : Entry → Except EntryError UInt64
  | bool _ value => .ok (if value then 1 else 0)
  | .int origin value =>
    if value < 0 then wrong (.int origin value) "an unsigned 64 bit or less integer"
    else .ok value.toNat.toUInt64
  | .real _ value => .ok value.round.toUInt64
  | text origin value =>
    let lower := Unicode.lowercase value
    if yesNames.contains lower then .ok 1
    else if noNames.contains lower then .ok 0
    else match Numeral.readUInt64 value with
      | .ok n => .ok n
      | .error _ => wrong (text origin value) "an integer"
  | entry => wrong entry "an integer"

/-- A number counts as true unless it is zero. -/
def flag : Entry → Except EntryError Bool
  | bool _ value => .ok value
  | .int _ value => .ok (value ≠ 0)
  | .real _ value => .ok (value != 0)
  | text origin value =>
    let lower := Unicode.lowercase value
    if lower = "1" || yesNames.contains lower then .ok true
    else if lower = "0" || noNames.contains lower then .ok false
    else wrong (text origin lower) "a boolean"
  | entry => wrong entry "a boolean"

def asText : Entry → Except EntryError String
  | bool _ value => .ok (if value then "true" else "false")
  | .int _ value => .ok (toString value)
  | .real _ value => .ok (Decimal.plainText value)
  | text _ value => .ok value
  | entry => wrong entry "a string"

def optional {α : Type} (read : Entry → Except EntryError α) : Entry → Except EntryError (Option α)
  | nil _ => .ok none
  | entry => (read entry).map some

def texts : Entry → Except EntryError (List String)
  | list _ items => items.zipIdx.mapM fun (item, i) => item.asText.mapError (·.underItem i)
  | entry => .error (.notList entry)

end Entry

end CorpusTally.Settings
