import CorpusTally.Toml.DateTime

/-!
TOML values.
-/

namespace CorpusTally.Toml

inductive Value where
  | text (value : String)
  | bool (value : Bool)
  | int (value : Int)
  | real (value : Float)
  | date (value : DateTime)
  | list (items : List Value)
  | table (fields : List (String × Value))

abbrev Fields := List (String × Value)

end CorpusTally.Toml
