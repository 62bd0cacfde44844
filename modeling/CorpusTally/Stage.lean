import CorpusTally.StopwordSet
import CorpusTally.Token

/-!
The four steps from text to counted words, each as a function on the whole list of items that passes
through it. Steps can be chained in any order.
-/

namespace CorpusTally

inductive Stage where
  | lowercase
  | strip
  | tokenize
  | filter
  deriving DecidableEq

def Stage.step (stopwords : StopwordSet) : Stage → String → List String
  | .lowercase, item => [foldText item]
  | .strip, item => [stripText item]
  | .tokenize, item => splitBlanks item
  | .filter, item => if stopwords.contains item then [] else [item]

def Stage.apply (stopwords : StopwordSet) (stage : Stage) (items : List String) : List String :=
  items.flatMap (stage.step stopwords)

def Stage.applyAll (stopwords : StopwordSet) (stages : List Stage) (items : List String) :
    List String :=
  stages.foldl (fun items stage => stage.apply stopwords items) items

def keptTokens (stopwords : StopwordSet) (text : String) : List String :=
  (tokens text).filter fun word => !stopwords.contains word

end CorpusTally
