import CorpusTally.Buffers
import CorpusTally.Stage
import CorpusTally.LazyStopwords

/-!
Tokenizing text after text with one stock of buffers and one set of stopwords. A short text is done in
one go and holds a buffer for each of its two changed forms; a long one passes through the stages one
after the other and holds a buffer at a time. The tokens are the same.
-/

namespace CorpusTally

def shortTextBytes : Nat := 100

def isShort (text : String) : Bool := text.utf8ByteSize < shortTextBytes

structure Tokenizer where
  stopwords : LazyStopwords
  buffers : Buffers := {}

namespace Tokenizer

/-- The stopwords are looked at only for the sake of a token. -/
def filterTokens (read : ReadFile) (t : Tokenizer) (found : List String) :
    List String × Tokenizer :=
  match found with
  | [] => ([], t)
  | _ :: _ =>
    let set := t.stopwords.view read
    (found.filter fun word => !set.contains word,
      { t with stopwords := (t.stopwords.force read).1 })

/-- Two buffers at a time. -/
def inline (read : ReadFile) (t : Tokenizer) (text : String) : List String × Tokenizer :=
  let (lowered, buffers) := t.buffers.lend
  let lowered := lowered ++ foldText text
  let (cleaned, buffers) := buffers.lend
  let cleaned := cleaned ++ stripText lowered
  filterTokens read { t with buffers := buffers.takeBack.takeBack } (splitBlanks cleaned)

/-- One buffer after the other. -/
def streamed (read : ReadFile) (t : Tokenizer) (text : String) : List String × Tokenizer :=
  let (lowered, buffers) := t.buffers.lend
  let lowered := lowered ++ foldText text
  let (cleaned, buffers) := buffers.takeBack.lend
  let cleaned := cleaned ++ stripText lowered
  filterTokens read { t with buffers := buffers.takeBack } (splitBlanks cleaned)

def run (read : ReadFile) (t : Tokenizer) (text : String) : List String × Tokenizer :=
  if isShort text then t.inline read text else t.streamed read text

end Tokenizer

end CorpusTally
