import Caret.Text.Quoted

/-!
# UTF-8

The octets of a file are read as code points. A lead octet tells how many octets follow it and
the range of the first of them; all others are between 80 and BF. The first octets that no code
point begins with are reported with their place. The lines of a text file end in a line feed,
whatever they end in on disk.
-/

namespace Caret.Text

/-- What is wrong with some octets. -/
inductive Utf8Fault where
  | invalidStart
  | invalidContinuation
  | unexpectedEnd
  deriving DecidableEq, Repr

/-- The description of a fault. -/
def Utf8Fault.text : Utf8Fault → String
  | invalidStart => "invalid start byte"
  | invalidContinuation => "invalid continuation byte"
  | unexpectedEnd => "unexpected end of data"

/-- Octets that stand for no code point: the first of them, their place and their number. -/
structure Utf8Error where
  fault : Utf8Fault
  octet : UInt8
  position : Nat
  length : Nat
  deriving DecidableEq, Repr

/-- The report on octets that stand for no code point. -/
def Utf8Error.message (error : Utf8Error) : String :=
  let place :=
    if error.length = 1 then
      s!"byte 0x{String.ofList (hexadecimal 2 error.octet.toNat)} in position {error.position}"
    else s!"bytes in position {error.position}-{error.position + error.length - 1}"
  s!"'utf-8' codec can't decode {place}: {error.fault.text}"

/-- What a lead octet promises: the bits it gives, the number of octets that follow, and the
range of the first of them. -/
structure Lead where
  bits : Nat
  tails : Nat
  low : Nat := 0x80
  high : Nat := 0xBF

/-- The promise of an octet, unless it starts no code point. -/
def lead? (octet : Nat) : Option Lead :=
  if octet < 0x80 then some { bits := octet, tails := 0 }
  else if octet < 0xC2 then none
  else if octet < 0xE0 then some { bits := octet - 0xC0, tails := 1 }
  else if octet = 0xE0 then some { bits := 0, tails := 2, low := 0xA0 }
  else if octet = 0xED then some { bits := 0xD, tails := 2, high := 0x9F }
  else if octet < 0xF0 then some { bits := octet - 0xE0, tails := 2 }
  else if octet = 0xF0 then some { bits := 0, tails := 3, low := 0x90 }
  else if octet < 0xF4 then some { bits := octet - 0xF0, tails := 3 }
  else if octet = 0xF4 then some { bits := 4, tails := 3, high := 0x8F }
  else none

/-- Reads `tails` octets behind the bits read so far, the first of them in a range of its own.
A failure tells how many octets belong to it. -/
def readTails (bits low high : Nat) : Nat → List UInt8 → Nat → Except (Utf8Fault × Nat) Nat
  | 0, _, _ => .ok bits
  | _ + 1, [], taken => .error (.unexpectedEnd, taken)
  | tails + 1, octet :: rest, taken =>
    if low ≤ octet.toNat ∧ octet.toNat ≤ high then
      readTails (64 * bits + (octet.toNat - 0x80)) 0x80 0xBF tails rest (taken + 1)
    else .error (.invalidContinuation, taken)

/-- Reads the octets from a position on. -/
def decodeFrom (position : Nat) (octets : List UInt8) : Except Utf8Error Text :=
  match octets with
  | [] => .ok []
  | octet :: rest =>
    match lead? octet.toNat with
    | none => .error ⟨.invalidStart, octet, position, 1⟩
    | some lead =>
      match readTails lead.bits lead.low lead.high lead.tails rest 1 with
      | .error (fault, length) => .error ⟨fault, octet, position, length⟩
      | .ok code =>
        (decodeFrom (position + 1 + lead.tails) (rest.drop lead.tails)).map (codePoint code :: ·)
termination_by octets.length
decreasing_by
  simp only [List.length_cons, List.length_drop]
  omega

/-- Reads octets as code points. -/
def decodeUtf8 (octets : List UInt8) : Except Utf8Error Text := decodeFrom 0 octets

/-- The text with every end of line as a line feed. -/
def unifyLineEnds : Text → Text
  | [] => []
  | '\r' :: '\n' :: rest => '\n' :: unifyLineEnds rest
  | c :: rest => (if c = '\r' then '\n' else c) :: unifyLineEnds rest

/-- No carriage return is left. -/
theorem not_mem_unifyLineEnds (text : Text) : '\r' ∉ unifyLineEnds text := by
  fun_induction unifyLineEnds text with
  | case1 => simp
  | case2 rest ih => simpa using ih
  | case3 c rest _ ih =>
    simp only [List.mem_cons, not_or]
    refine ⟨?_, ih⟩
    split
    · decide
    · next h => exact fun same ↦ h same.symm

end Caret.Text
