/-!
Reading bytes as UTF-8. The bytes are cut into segments: characters, and the longest runs that begin
a character and then cannot go on. Strict reading stops at the first broken segment and says where it
is; lenient reading puts one replacement character for it.
-/

namespace CorpusTally.Utf8

abbrev Bytes := List UInt8

inductive Segment where
  | scalar (c : Char)
  | invalid (length : Nat)
  | truncated (length : Nat)
  deriving DecidableEq

/-- A character that is read in part: its bits so far, the bytes used, and the range in which each of
the bytes to come has to lie. -/
structure Pending where
  bits : Nat
  used : Nat
  expects : List (UInt8 × UInt8)

private def trail : UInt8 × UInt8 := (0x80, 0xbf)

/-- The first byte of a character decides how many bytes follow it; the range of the second one
excludes longer spellings, surrogates and values beyond the last code point. -/
def begin (b : UInt8) : Segment ⊕ Pending :=
  let pending (mask : UInt8) (expects : List (UInt8 × UInt8)) : Segment ⊕ Pending :=
    .inr ⟨(b &&& mask).toNat, 1, expects⟩
  if b < 0x80 then .inl (.scalar (Char.ofNat b.toNat))
  else if b < 0xc2 then .inl (.invalid 1)
  else if b < 0xe0 then pending 0x1f [trail]
  else if b = 0xe0 then pending 0x0f [(0xa0, 0xbf), trail]
  else if b = 0xed then pending 0x0f [(0x80, 0x9f), trail]
  else if b < 0xf0 then pending 0x0f [trail, trail]
  else if b = 0xf0 then pending 0x07 [(0x90, 0xbf), trail, trail]
  else if b < 0xf4 then pending 0x07 [trail, trail, trail]
  else if b = 0xf4 then pending 0x07 [(0x80, 0x8f), trail, trail]
  else .inl (.invalid 1)

/-- The segments read so far, last one first, and the character that is still open. -/
structure Reader where
  done : List Segment := []
  open? : Option Pending := none

def Reader.restart (r : Reader) (b : UInt8) : Reader :=
  match begin b with
  | .inl s => { done := s :: r.done }
  | .inr p => { r with open? := some p }

def Reader.feed (r : Reader) (b : UInt8) : Reader :=
  match r.open? with
  | none => r.restart b
  | some p =>
    match p.expects with
    | [] => { r with open? := none }.restart b
    | (lo, hi) :: more =>
      if lo ≤ b && b ≤ hi then
        let bits := p.bits * 64 + (b &&& 0x3f).toNat
        match more with
        | [] => { done := .scalar (Char.ofNat bits) :: r.done }
        | _ :: _ => { r with open? := some ⟨bits, p.used + 1, more⟩ }
      else { done := .invalid p.used :: r.done, open? := none : Reader }.restart b

def Reader.finish (r : Reader) : List Segment :=
  match r.open? with
  | none => r.done.reverse
  | some p => (.truncated p.used :: r.done).reverse

def segments (bytes : Bytes) : List Segment := (bytes.foldl Reader.feed {}).finish

/-- Where the bytes stop being UTF-8; without a length they end inside a character. -/
structure Error where
  offset : Nat
  length? : Option Nat
  deriving DecidableEq

def Error.message (e : Error) : String :=
  match e.length? with
  | some n => s!"invalid utf-8 sequence of {n} bytes from index {e.offset}"
  | none => s!"incomplete utf-8 byte sequence from index {e.offset}"

def strictStep (state : Except Error (List Char × Nat)) (s : Segment) :
    Except Error (List Char × Nat) :=
  match state, s with
  | .error e, _ => .error e
  | .ok (cs, offset), .scalar c => .ok (c :: cs, offset + c.utf8Size)
  | .ok (_, offset), .invalid n => .error ⟨offset, some n⟩
  | .ok (_, offset), .truncated _ => .error ⟨offset, none⟩

def decode (bytes : Bytes) : Except Error String :=
  match (segments bytes).foldl strictStep (.ok ([], 0)) with
  | .error e => .error e
  | .ok (cs, _) => .ok (String.ofList cs.reverse)

def decode? (bytes : Bytes) : Option String := (decode bytes).toOption

def replacement : Char := '\uFFFD'

def Segment.toChar : Segment → Char
  | .scalar c => c
  | .invalid _ | .truncated _ => replacement

def decodeLossy (bytes : Bytes) : String := String.ofList ((segments bytes).map Segment.toChar)

def encodeChars (cs : List Char) : Bytes := cs.flatMap String.utf8EncodeChar

def encode (s : String) : Bytes := encodeChars s.toList

end CorpusTally.Utf8
