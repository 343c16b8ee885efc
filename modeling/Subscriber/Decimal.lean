import Subscriber.Bytes

/-! Decimal numbers on the wire: the canonical form that is written, and the looser form that is
read, which allows a sign of either kind and leading zeros. -/

namespace Subscriber.Decimal

def digit (n : Nat) : UInt8 := UInt8.ofNat (48 + n)

def ofNat (n : Nat) : Bytes :=
  if n < 10 then [digit n] else ofNat (n / 10) ++ [digit (n % 10)]

def ofInt : Int → Bytes
  | .ofNat n => ofNat n
  | .negSucc n => 45 :: ofNat (n + 1)

def isDigit (byte : UInt8) : Bool := 48 ≤ byte && byte ≤ 57

/-- The value of digits read from the left. -/
def value (digits : Bytes) : Nat :=
  digits.foldl (fun total byte => total * 10 + (byte.toNat - 48)) 0

def nat? (digits : Bytes) : Option Nat :=
  if !digits.isEmpty && digits.all isDigit then some (value digits) else none

/-- At most one sign, then at least one digit. -/
def int? : Bytes → Option Int
  | 43 :: digits => (nat? digits).map Int.ofNat
  | 45 :: digits => (nat? digits).map fun n => -Int.ofNat n
  | digits => (nat? digits).map Int.ofNat

/-- A number outside the 64-bit range is no number. -/
def int64? (bytes : Bytes) : Option Int64 :=
  match int? bytes with
  | some n => if Int64.minValue.toInt ≤ n ∧ n ≤ Int64.maxValue.toInt then some (Int64.ofInt n) else none
  | none => none

end Subscriber.Decimal
