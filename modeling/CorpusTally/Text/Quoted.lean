import CorpusTally.Unicode.Printable

/-!
Quoting a text for a message: quotes around it, short escapes for the usual controls, and the code point
in hexadecimal for every other character that is hidden. A text stands in double quotes, a character in
single ones.
-/

namespace CorpusTally.Text

def hexDigits (n : Nat) : List Char := Nat.toDigits 16 n

def quoteWithin (quote : Char) : Char → List Char
  | '\x00' => ['\\', '0']
  | '\t' => ['\\', 't']
  | '\r' => ['\\', 'r']
  | '\n' => ['\\', 'n']
  | '\\' => ['\\', '\\']
  | c =>
    if c = quote then ['\\', c]
    else if Unicode.isPrintable c then [c]
    else ['\\', 'u', '{'] ++ hexDigits c.toNat ++ ['}']

def quoted (s : String) : String :=
  String.ofList ('"' :: s.toList.flatMap (quoteWithin '"') ++ ['"'])

def quotedChar (c : Char) : String := String.ofList ('\'' :: quoteWithin '\'' c ++ ['\''])

end CorpusTally.Text
