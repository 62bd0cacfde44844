import CorpusTally.Decimal
import CorpusTally.Numeral
import CorpusTally.Yaml.Tag

/-!
What a YAML text says. What a scalar is shows in its text, unless it is quoted or has a tag. Of mappings
only the fields with a text for a key are kept.
-/

namespace CorpusTally.Yaml

inductive Node where
  | null
  /-- A scalar that its tag does not allow, or an alias of a node that is not finished yet. -/
  | bad
  | bool (value : Bool)
  | int (value : Int)
  | real (text : String)
  | text (value : String)
  | sequence (items : List Node)
  | mapping (fields : List (String × Node))

namespace Node

def startsWith (start : List Char) (cs : List Char) : Option (List Char) :=
  if start.isPrefixOf cs then some (cs.drop start.length) else none

/-- Whole numbers may be hexadecimal or octal, and have a second sign behind a plus sign. -/
def int? (text : String) : Option Int :=
  let cs := text.toList
  let based (start : String) (base : Nat) :=
    (startsWith start.toList cs).bind (Numeral.readSigned? base)
  (based "0x" 16).or <| (based "0o" 8).or <| (based "+" 10).or <| Numeral.readSigned? 10 cs

def infinityNames : List String :=
  [".inf", ".Inf", ".INF", "+.inf", "+.Inf", "+.INF", "-.inf", "-.Inf", "-.INF"]

def notANumberNames : List String := [".nan", "NaN", ".NAN"]

def isReal (text : String) : Bool :=
  infinityNames.contains text || notANumberNames.contains text ||
    (Decimal.readFloat? text).isSome

def isNull (text : String) : Bool := text = "~" || text = "null"

def bool? (text : String) : Option Bool :=
  if text = "true" then some true else if text = "false" then some false else none

def ofPlain (text : String) : Node :=
  match int? text with
  | some value => .int value
  | none =>
    if isNull text then .null
    else match bool? text with
      | some value => .bool value
      | none => if isReal text then .real text else .text text

def ofKind (kind text : String) : Node :=
  match kind with
  | "bool" => ((bool? text).map Node.bool).getD .bad
  | "int" => ((Numeral.readSigned? 10 text.toList).map Node.int).getD .bad
  | "float" => if isReal text then .real text else .bad
  | "null" => if isNull text then .null else .bad
  | _ => .text text

def ofScalar (isPlain : Bool) (tag : Option Tag) (text : String) : Node :=
  if !isPlain then .text text
  else match tag with
    | none => ofPlain text
    | some tag => if tag.handle = "!!" then ofKind tag.suffix text else .text text

/-- Keys and values in turn; a bad node is passed over where a key should be. -/
def pairs : List Node → List (Node × Node)
  | .bad :: rest => pairs rest
  | key :: value :: rest => (key, value) :: pairs rest
  | _ => []

def insertField (fields : List (String × Node)) : Node × Node → List (String × Node)
  | (.text name, value) => fields.filter (·.1 ≠ name) ++ [(name, value)]
  | _ => fields

def ofPairs (items : List Node) : Node := .mapping ((pairs items).foldl insertField [])

end Node

end CorpusTally.Yaml
