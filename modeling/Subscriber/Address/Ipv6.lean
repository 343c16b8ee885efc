import Subscriber.Text.Quoted

/-! IPv6 addresses: eight groups of sixteen bits. Reading takes every form with at most one gap and
an optional dotted quad in the last two groups; writing gives the one canonical form. -/

namespace Subscriber.Address

def hexValue? (c : Char) : Option Nat :=
  let n := c.toNat
  if 48 ≤ n ∧ n ≤ 57 then some (n - 48)
  else if 65 ≤ n ∧ n ≤ 70 then some (n - 55)
  else if 97 ≤ n ∧ n ≤ 102 then some (n - 87)
  else none

/-- A run of digits in a base, highest digit first. A character that is no digit counts as 0. -/
def baseValue (base : Nat) (digits : List Char) : Nat :=
  digits.foldl (fun total c => total * base + (hexValue? c).getD 0) 0

namespace Ipv6

/-- The groups read so far, split at the gap once there is one. -/
structure Groups where
  before : List Nat := []
  after : Option (List Nat) := none

namespace Groups

/-- How many of the eight places are taken. A gap stands for at least one group. -/
def places (groups : Groups) : Nat :=
  groups.before.length + match groups.after with
    | none => 0
    | some after => after.length + 1

def push (groups : Groups) (value : Nat) : Groups :=
  match groups.after with
  | none => { groups with before := groups.before ++ [value] }
  | some after => { groups with after := some (after ++ [value]) }

/-- All eight groups, the gap filled with zeros. -/
def fill? (groups : Groups) : Option (List Nat) :=
  match groups.after with
  | none => if groups.before.length = 8 then some groups.before else none
  | some after =>
    let missing := 8 - groups.before.length - after.length
    some (groups.before ++ List.replicate missing 0 ++ after)

end Groups

/-- One number of a dotted quad: at most 255 and without leading zeros. -/
def quadNumber? (digits : List Char) : Option Nat :=
  let value := baseValue 10 digits
  if digits.isEmpty || !digits.all Char.isDigit then none
  else if digits.length > 1 && digits.head? == some '0' then none
  else if digits.length > 3 || 255 < value then none
  else some value

/-- A dotted quad as two groups. -/
def quad? (text : List Char) : Option (Nat × Nat) :=
  match (text.splitOn '.').mapM quadNumber? with
  | some [a, b, c, d] => some (a * 256 + b, c * 256 + d)
  | _ => none

def isHexDigit (c : Char) : Bool := (hexValue? c).isSome

theorem drop_span_shorter {text rest : List Char} {c : Char} (p : Char → Bool) (n : Nat)
    (found : text.drop ((text.take n).takeWhile p).length = c :: rest) :
    rest.length < text.length := by
  have size := congrArg List.length found
  simp only [List.length_drop, List.length_cons] at size
  omega

/-- Reads groups up to the end of the text. -/
def groups? (groups : Groups) (text : List Char) : Option (List Nat) :=
  match text with
  | [] => groups.fill?
  | ':' :: rest =>
    if groups.places = 8 || groups.after.isSome then none
    else groups? { groups with after := some [] } rest
  | first :: others =>
    if groups.places = 8 then none
    else
      let digits := ((first :: others).take 4).takeWhile isHexDigit
      match _found : (first :: others).drop digits.length with
      | [] => (groups.push (baseValue 16 digits)).fill?
      | ':' :: rest => if rest.isEmpty then none else groups? (groups.push (baseValue 16 digits)) rest
      | '.' :: _ =>
        if digits.isEmpty || 6 < groups.places then none
        else match quad? (first :: others) with
          | some (high, low) => ((groups.push high).push low).fill?
          | none => none
      | _ => none
termination_by text.length
decreasing_by
  · simp
  · exact drop_span_shorter isHexDigit 4 _found

def parse? (text : List Char) : Option (List Nat) :=
  match text with
  | ':' :: ':' :: rest => groups? { after := some [] } rest
  | ':' :: _ => none
  | _ => groups? {} text

def colons (groups : List Nat) : List Char := [':'].intercalate (groups.map Text.hexText)

/-- The length of the run of zeros at the front. -/
def zeros (groups : List Nat) : Nat := (groups.takeWhile (· == 0)).length

/-- Where the first of the longest runs of zeros starts, and its length. -/
def longestZeros (groups : List Nat) : Nat × Nat :=
  (List.range groups.length).foldl
    (fun best start => if best.2 < zeros (groups.drop start) then (start, zeros (groups.drop start)) else best)
    (0, 0)

/-- Lower-case groups without leading zeros; the first of the longest runs of at least two zeros
becomes the gap. -/
def render (groups : List Nat) : List Char :=
  let (start, length) := longestZeros groups
  if length < 2 then colons groups
  else colons (groups.take start) ++ [':', ':'] ++ colons (groups.drop (start + length))

end Ipv6

end Subscriber.Address
