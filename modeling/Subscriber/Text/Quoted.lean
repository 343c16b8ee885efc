import Subscriber.Bytes
import Subscriber.Text.Unmarked

/-! Quoted forms in which descriptions show byte strings, texts and lists. -/

namespace Subscriber.Text

def hexDigit (n : Nat) : Char := Char.ofNat (if n < 10 then 48 + n else 87 + n)

/-- The escapes that byte strings and texts have in common. -/
def escape? (c : Char) : Option String :=
  if c = '\n' then some "\\n"
  else if c = '\r' then some "\\r"
  else if c = '\t' then some "\\t"
  else if c = '"' then some "\\\""
  else if c = '\\' then some "\\\\"
  else if c.toNat = 0 then some "\\0"
  else none

def escapeByte (byte : UInt8) : String :=
  let c := Char.ofNat byte.toNat
  match escape? c with
  | some escaped => escaped
  | none =>
    if 0x20 ≤ byte ∧ byte ≤ 0x7E then c.toString
    else String.ofList ['\\', 'x', hexDigit (byte.toNat / 16), hexDigit (byte.toNat % 16)]

/-- A byte string: printable ASCII as it is, everything else escaped. -/
def quoteBytes (bytes : Bytes) : String :=
  "b\"" ++ String.join (bytes.map escapeByte) ++ "\""

def hexText (n : Nat) : List Char :=
  if n < 16 then [hexDigit n] else hexText (n / 16) ++ [hexDigit (n % 16)]

def escapeChar (c : Char) : String :=
  match escape? c with
  | some escaped => escaped
  | none =>
    if isUnmarked c then
      "\\u\x7b" ++ String.ofList (hexText c.toNat) ++ "\x7d"
    else c.toString

/-- A text: as it is, except for the common escapes and characters that leave no mark. -/
def quote (text : String) : String := "\"" ++ String.join (text.toList.map escapeChar) ++ "\""

def option (value : Option String) : String :=
  match value with
  | some shown => "Some(" ++ shown ++ ")"
  | none => "None"

/-- The digits behind the point, without zeros at the end. -/
def fraction (thousandths : Nat) : String :=
  let digits := [thousandths / 100, thousandths / 10 % 10, thousandths % 10]
  String.ofList ((digits.reverse.dropWhile (· == 0)).reverse.map hexDigit)

/-- A time in milliseconds, in the largest unit of which it is at least one. -/
def duration (milliseconds : Nat) : String :=
  if milliseconds = 0 then "0ns"
  else if milliseconds < 1000 then toString milliseconds ++ "ms"
  else
    let point := if milliseconds % 1000 = 0 then "" else "." ++ fraction (milliseconds % 1000)
    toString (milliseconds / 1000) ++ point ++ "s"

def list (items : List String) : String := "[" ++ ", ".intercalate items ++ "]"

end Subscriber.Text
