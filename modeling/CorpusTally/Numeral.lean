/-!
Whole numbers in text: an optional sign and digits, within limits. The first character that is wrong
decides which fault there is.
-/

namespace CorpusTally.Numeral

inductive Fault where
  | empty
  | invalidDigit
  | tooLarge
  deriving DecidableEq

def Fault.message : Fault → String
  | .empty => "cannot parse integer from empty string"
  | .invalidDigit => "invalid digit found in string"
  | .tooLarge => "number too large to fit in target type"

def digitValue? (c : Char) : Option Nat :=
  if c.isDigit then some (c.toNat - '0'.toNat)
  else if 'a' ≤ c && c ≤ 'z' then some (c.toNat - 'a'.toNat + 10)
  else if 'A' ≤ c && c ≤ 'Z' then some (c.toNat - 'A'.toNat + 10)
  else none

def digit? (base : Nat) (c : Char) : Option Nat := (digitValue? c).filter (· < base)

def readDigits (base limit value : Nat) : List Char → Except Fault Nat
  | [] => .ok value
  | c :: rest =>
    match digit? base c with
    | none => .error .invalidDigit
    | some digit =>
      if value * base + digit > limit then .error .tooLarge
      else readDigits base limit (value * base + digit) rest

def readUnsigned (base limit : Nat) : List Char → Except Fault Nat
  | [] => .error .empty
  | ['+'] => .error .invalidDigit
  | '+' :: digits => readDigits base limit 0 digits
  | digits => readDigits base limit 0 digits

def readSigned? (base : Nat) : List Char → Option Int
  | ['-'] => none
  | '-' :: digits => (readDigits base (UInt64.size / 2) 0 digits).toOption.map fun n => -Int.ofNat n
  | digits => (readUnsigned base (UInt64.size / 2 - 1) digits).toOption.map Int.ofNat

def readUInt64 (text : String) : Except Fault UInt64 :=
  (readUnsigned 10 (UInt64.size - 1) text.toList).map Nat.toUInt64

end CorpusTally.Numeral
