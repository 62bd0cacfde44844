import CorpusTally.CorpusError
import CorpusTally.Log

/-!
Taking the bytes of a file as text: the file fails on bytes that are not UTF-8, or they are replaced.
-/

namespace CorpusTally

inductive Decoding where
  | failFast
  | lossy
  deriving DecidableEq

namespace Decoding

def name : Decoding → String
  | .failFast => "failfast"
  | .lossy => "lossy"

def ofName? (name : String) : Option Decoding :=
  if name = "failfast" then some .failFast else if name = "lossy" then some .lossy else none

def replacedEvent (path : Path) : LogEvent :=
  ⟨.warn, s!"Invalid UTF-8 replaced in file: {path.display}"⟩

def decode (mode : Decoding) (path : Path) (bytes : Utf8.Bytes) :
    Except CorpusError (String × Log) :=
  match Utf8.decode bytes, mode with
  | .ok text, _ => .ok (text, [])
  | .error e, .failFast => .error (.encoding path e)
  | .error _, .lossy => .ok (Utf8.decodeLossy bytes, [replacedEvent path])

end Decoding

end CorpusTally
