import CorpusTally.Unicode.Ranges

/-!
The characters that separate words: the code points with the White_Space property.
-/

namespace CorpusTally.Unicode

def blankRanges : Ranges := [
  (0x9, 0xd), (0x20, 0x20), (0x85, 0x85), (0xa0, 0xa0), (0x1680, 0x1680), (0x2000, 0x200a),
  (0x2028, 0x2029), (0x202f, 0x202f), (0x205f, 0x205f), (0x3000, 0x3000)]

def isBlank (c : Char) : Bool := blankRanges.contains c.toNat

def trim (text : String) : String :=
  let trimStart (cs : List Char) := cs.dropWhile isBlank
  String.ofList (trimStart (trimStart text.toList).reverse).reverse

end CorpusTally.Unicode
