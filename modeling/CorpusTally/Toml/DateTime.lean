import CorpusTally.Numeral

/-!
Dates, times of day, and both with an offset. Each has one text: two digits for each part, four for a
year, and a fraction of a second without zeros at its end.
-/

namespace CorpusTally.Toml

structure Date where
  year : Nat
  month : Nat
  day : Nat

structure Time where
  hour : Nat
  minute : Nat
  second : Nat
  nanosecond : Nat

inductive Offset where
  | universal
  | hours (hours : Int) (minutes : Nat)

structure DateTime where
  date? : Option Date := none
  time? : Option Time := none
  offset? : Option Offset := none

def padded (width n : Nat) : String :=
  let digits := toString n
  String.ofList (List.replicate (width - digits.length) '0') ++ digits

def Date.text (d : Date) : String :=
  padded 4 d.year ++ "-" ++ padded 2 d.month ++ "-" ++ padded 2 d.day

def dropZerosAtEnd (text : String) : String :=
  String.ofList (text.toList.reverse.dropWhile (· = '0')).reverse

def Time.text (t : Time) : String :=
  let fraction := if t.nanosecond = 0 then "" else "." ++ dropZerosAtEnd (padded 9 t.nanosecond)
  padded 2 t.hour ++ ":" ++ padded 2 t.minute ++ ":" ++ padded 2 t.second ++ fraction

def Offset.text : Offset → String
  | universal => "Z"
  | hours n minutes =>
    (if n < 0 then "-" else "+") ++ padded 2 n.natAbs ++ ":" ++ padded 2 minutes

def DateTime.text (d : DateTime) : String :=
  let parts := (d.date?.map Date.text).toList ++ (d.time?.map Time.text).toList
  "T".intercalate parts ++ (d.offset?.map Offset.text).getD ""

def takeNumber? (digits : Nat) (cs : List Char) : Option (Nat × List Char) :=
  let found := cs.take digits
  if found.length = digits && found.all Char.isDigit then
    some (found.foldl (fun n c => n * 10 + (c.toNat - '0'.toNat)) 0, cs.drop digits)
  else none

def takeSign? (sign : Char) : List Char → Option (List Char)
  | c :: rest => if c = sign then some rest else none
  | [] => none

def takeDate? (cs : List Char) : Option (Date × List Char) := do
  let (year, cs) ← takeNumber? 4 cs
  let (month, cs) ← takeNumber? 2 (← takeSign? '-' cs)
  let (day, cs) ← takeNumber? 2 (← takeSign? '-' cs)
  if 1 ≤ month && month ≤ 12 && 1 ≤ day && day ≤ 31 then some (⟨year, month, day⟩, cs) else none

/-- Digits behind a point; those beyond the ninth do not count. -/
def takeFraction? : List Char → Option (Nat × List Char)
  | '.' :: rest =>
    let digits := rest.takeWhile Char.isDigit
    if digits = [] then none
    else
      let (nanosecond, _) := (takeNumber? 9 (digits ++ List.replicate 9 '0')).getD (0, [])
      some (nanosecond, rest.drop digits.length)
  | cs => some (0, cs)

def takeTime? (cs : List Char) : Option (Time × List Char) := do
  let (hour, cs) ← takeNumber? 2 cs
  let (minute, cs) ← takeNumber? 2 (← takeSign? ':' cs)
  let (second, cs) ← takeNumber? 2 (← takeSign? ':' cs)
  let (nanosecond, cs) ← takeFraction? cs
  if hour ≤ 24 && minute ≤ 59 && second ≤ 59 then some (⟨hour, minute, second, nanosecond⟩, cs)
  else none

def takeHours? (negative : Bool) (cs : List Char) : Option Offset := do
  let (hours, cs) ← takeNumber? 2 cs
  let (minutes, cs) ← takeNumber? 2 (← takeSign? ':' cs)
  if cs = [] then some (.hours (if negative then -(hours : Int) else hours) minutes) else none

def takeOffset? : List Char → Option (Option Offset)
  | [] => some none
  | ['Z'] | ['z'] => some (some .universal)
  | '+' :: rest => (takeHours? false rest).map some
  | '-' :: rest => (takeHours? true rest).map some
  | _ => none

namespace DateTime

def ofText? (text : String) : Option DateTime := do
  let cs := text.toList
  if cs[2]? = some ':' then
    let (time, rest) ← takeTime? cs
    if rest = [] then some { time? := some time } else none
  else
    let (date, rest) ← takeDate? cs
    match rest with
    | [] => some { date? := some date }
    | sign :: rest =>
      if sign = 'T' || sign = 't' || sign = ' ' then
        let (time, rest) ← takeTime? rest
        some { date? := some date, time? := some time, offset? := ← takeOffset? rest }
      else none

end DateTime

end CorpusTally.Toml
