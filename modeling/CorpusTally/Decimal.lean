/-!
Floating-point numbers as decimals. Of the decimals that read back as a number, the shortest one with
the fewest digits is taken, and of two such the nearer. Reading rounds to the nearest number.
-/

namespace CorpusTally

/-- The value `coefficient * 10 ^ exponent`. -/
structure Decimal where
  coefficient : Nat
  exponent : Int
  deriving DecidableEq

namespace Decimal

/-- The numbers between `low` and `high` over `unit` are nearest to `middle`; the ends count when
`closed`. -/
structure Neighbourhood where
  low : Nat
  middle : Nat
  high : Nat
  unit : Nat
  closed : Bool

def Neighbourhood.contains (n : Neighbourhood) (value : Nat) (scale : Nat) : Bool :=
  if n.closed then n.low * scale ≤ value * n.unit && value * n.unit ≤ n.high * scale
  else n.low * scale < value * n.unit && value * n.unit < n.high * scale

def mantissaExponent (bits : Nat) : Nat × Int :=
  let fraction := bits % (1 <<< 52)
  let biased := bits / (1 <<< 52) % (1 <<< 11)
  if biased = 0 then (fraction, -1074) else (fraction + (1 <<< 52), Int.ofNat biased - 1075)

def neighbourhood (bits : Nat) : Neighbourhood :=
  let mantissa := (mantissaExponent bits).1
  let power := (mantissaExponent bits).2
  let below := if mantissa = 1 <<< 52 && power > -1074 then 1 else 2
  let scale := 1 <<< (power - 2).toNat
  { low := (4 * mantissa - below) * scale
    middle := 4 * mantissa * scale
    high := (4 * mantissa + 2) * scale
    unit := 1 <<< (2 - power).toNat
    closed := mantissa % 2 = 0 }

def onGrid? (n : Neighbourhood) (exponent : Int) : Option Decimal :=
  let up := Nat.pow 10 (-exponent).toNat
  let down := Nat.pow 10 exponent.toNat
  let floor := n.middle * up / (n.unit * down)
  let inside (c : Nat) := n.contains (c * down) up
  let nearFloor := 2 * n.middle * up ≤ (2 * floor + 1) * (n.unit * down)
  match inside floor, inside (floor + 1) with
  | true, false => some ⟨floor, exponent⟩
  | false, true => some ⟨floor + 1, exponent⟩
  | true, true => some ⟨if nearFloor then floor else floor + 1, exponent⟩
  | false, false => none

def topExponent : Int := 310

/-- The coarsest grid with a decimal in the neighbourhood; a grid finer than any number's is always
reached first. -/
def firstOnGrid (n : Neighbourhood) : Nat → Int → Decimal
  | 0, exponent => ⟨0, exponent⟩
  | steps + 1, exponent =>
    match onGrid? n exponent with
    | some d => if d.coefficient = 0 then firstOnGrid n steps (exponent - 1) else d
    | none => firstOnGrid n steps (exponent - 1)

def shortest (value : Float) : Decimal :=
  firstOnGrid (neighbourhood value.toBits.toNat) 660 topExponent

private def zeros (n : Nat) : String := String.ofList (List.replicate n '0')

def positional (d : Decimal) : String :=
  let digits := toString d.coefficient
  let point := (digits.length : Int) + d.exponent
  if point ≤ 0 then "0." ++ zeros (-point).toNat ++ digits
  else if (digits.length : Int) ≤ point then digits ++ zeros (point - digits.length).toNat
  else String.ofList (digits.toList.take point.toNat) ++ "." ++
    String.ofList (digits.toList.drop point.toNat)

def scientific (d : Decimal) : String :=
  let digits := toString d.coefficient
  let power := (digits.length : Int) + d.exponent - 1
  let rest := String.ofList (digits.toList.drop 1)
  String.ofList (digits.toList.take 1) ++ (if rest = "" then "" else "." ++ rest) ++ "e" ++
    (if power < 0 then "-" else "+") ++ toString power.natAbs

def magnitude (d : Decimal) : Int := ((toString d.coefficient).length : Int) + d.exponent - 1

private def sign (value : Float) : String := if value.toBits.toNat ≥ UInt64.size / 2 then "-" else ""

private def unsigned (value : Float) (finite : Decimal → String) : String :=
  if value.isNaN then "NaN"
  else if value.isInf then sign value ++ "inf"
  else if value == 0 then sign value ++ finite ⟨0, 0⟩
  else sign value ++ finite (shortest value)

/-- Plain text: no exponent, however long, and no point in a whole number. -/
def plainText (value : Float) : String := unsigned value positional

private def withPoint (text : String) : String :=
  if text.toList.contains '.' then text else text ++ ".0"

def pointedText (value : Float) : String := unsigned value fun d => withPoint (positional d)

/-- As in JSON: with a point, and with an exponent below 0.00001 and from 1e+16 on. -/
def compactText (value : Float) : String :=
  unsigned value fun d =>
    if -5 ≤ d.magnitude && d.magnitude < 16 then withPoint (positional d) else scientific d

/-- The number nearest to `coefficient * 10 ^ exponent`; powers that no finite number has are cut off
before they are computed. -/
def toFloat (d : Decimal) : Float :=
  if d.coefficient = 0 then 0
  else if d.magnitude > 400 then Float.ofBits 0x7ff0000000000000
  else if d.magnitude < -400 then 0
  else if d.exponent < 0 then Float.ofScientific d.coefficient true (-d.exponent).toNat
  else Float.ofScientific d.coefficient false d.exponent.toNat

private def digitsValue (digits : List Char) : Nat :=
  digits.foldl (fun n c => 10 * n + (c.toNat - 48)) 0

def spanDigits (cs : List Char) : List Char × List Char := cs.span Char.isDigit

private def readExponent? (cs : List Char) : Option Int :=
  let (negative, digits) := match cs with
    | '-' :: rest => (true, rest)
    | '+' :: rest => (false, rest)
    | _ => (false, cs)
  if digits = [] || !digits.all Char.isDigit then none
  else
    let size : Int := digitsValue digits
    some (if negative then -size else size)

private def readUnsigned? (cs : List Char) : Option Float :=
  let (whole, afterWhole) := spanDigits cs
  let (fraction, rest) := match afterWhole with
    | '.' :: more => spanDigits more
    | _ => ([], afterWhole)
  if whole = [] && fraction = [] then none
  else
    let finish (exponent : Int) : Float :=
      toFloat ⟨digitsValue (whole ++ fraction), exponent - (fraction.length : Int)⟩
    match rest with
    | [] => some (finish 0)
    | 'e' :: power | 'E' :: power => (readExponent? power).map finish
    | _ => none

private def readWord? (word : String) : Option Float :=
  if word = "inf" || word = "infinity" then some (Float.ofBits 0x7ff0000000000000)
  else if word = "nan" then some (Float.ofBits 0x7ff8000000000000)
  else none

def readFloat? (s : String) : Option Float :=
  let (negative, body) := match s.toList with
    | '-' :: rest => (true, rest)
    | '+' :: rest => (false, rest)
    | cs => (false, cs)
  let value := (readWord? (String.ofList (body.map Char.toLower))).orElse fun _ => readUnsigned? body
  value.map fun v => if negative then -v else v

end Decimal

end CorpusTally
