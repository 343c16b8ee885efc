import Subscriber.Bytes

/-! Reading bytes that ought to be UTF-8. Valid sequences become their characters; each longest
prefix of a sequence that breaks off, and each byte that starts none, becomes one U+FFFD. -/

namespace Subscriber.Text

/-- A multi-byte sequence whose end has not been read: the bits so far, the number of bytes still
missing, and the bounds of the next one. The bounds rule out overlong forms, surrogates and values
above U+10FFFF. -/
structure Sequence where
  bits : Nat
  missing : Nat
  low : UInt8 := 0x80
  high : UInt8 := 0xBF

def Sequence.ofLead? (lead : UInt8) : Option Sequence :=
  let bits := lead.toNat
  if 0xC2 ≤ lead ∧ lead ≤ 0xDF then some { bits := bits - 0xC0, missing := 1 }
  else if lead = 0xE0 then some { bits := 0, missing := 2, low := 0xA0 }
  else if lead = 0xED then some { bits := 0xD, missing := 2, high := 0x9F }
  else if 0xE1 ≤ lead ∧ lead ≤ 0xEF then some { bits := bits - 0xE0, missing := 2 }
  else if lead = 0xF0 then some { bits := 0, missing := 3, low := 0x90 }
  else if 0xF1 ≤ lead ∧ lead ≤ 0xF3 then some { bits := bits - 0xF0, missing := 3 }
  else if lead = 0xF4 then some { bits := 4, missing := 3, high := 0x8F }
  else none

def replacement : Char := '\uFFFD'

/-- The characters read so far, last one first, and the sequence in progress. -/
structure Lossy where
  read : List Char := []
  sequence : Option Sequence := none

namespace Lossy

def start (state : Lossy) (byte : UInt8) : Lossy :=
  if byte < 0x80 then { read := Char.ofNat byte.toNat :: state.read }
  else match Sequence.ofLead? byte with
    | some sequence => { read := state.read, sequence }
    | none => { read := replacement :: state.read }

/-- A byte outside the bounds ends the sequence in progress and is read again as a first byte. -/
def feed (state : Lossy) (byte : UInt8) : Lossy :=
  match state.sequence with
  | none => state.start byte
  | some sequence =>
    if sequence.low ≤ byte ∧ byte ≤ sequence.high then
      let bits := sequence.bits * 64 + (byte.toNat - 0x80)
      match sequence.missing with
      | missing + 2 => { state with sequence := some { bits, missing := missing + 1 } }
      | _ => { read := Char.ofNat bits :: state.read }
    else start { read := replacement :: state.read } byte

def finish (state : Lossy) : List Char :=
  match state.sequence with
  | none => state.read.reverse
  | some _ => (replacement :: state.read).reverse

end Lossy

def lossy (bytes : Bytes) : String :=
  String.ofList (bytes.foldl Lossy.feed {}).finish

end Subscriber.Text
