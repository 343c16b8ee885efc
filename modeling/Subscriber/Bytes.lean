/-! Byte strings. Channel names, payloads and everything on the wire are bytes; a text takes part
through its UTF-8 form. -/

namespace Subscriber

abbrev Bytes := List UInt8

namespace Bytes

def ofText (text : String) : Bytes := text.toList.flatMap String.utf8EncodeChar

/-- ASCII capitals become small letters; every other byte is kept. -/
def lower (bytes : Bytes) : Bytes :=
  bytes.map fun byte => if 65 ≤ byte ∧ byte ≤ 90 then byte + 32 else byte

/-- The line end of the wire format: carriage return, line feed. -/
def lineEnd : Bytes := [13, 10]

/-- Ascending order, comparing unsigned bytes from the left. -/
def sort (names : List Bytes) : List Bytes := names.mergeSort fun a b => decide (a ≤ b)

/-- The part before the first line end and the part behind it. The bytes already passed are kept
in reverse, so a long line needs no deep recursion. -/
def splitLine (passed : Bytes) : Bytes → Option (Bytes × Bytes)
  | [] => none
  | [_] => none
  | first :: second :: rest =>
    if first = 13 ∧ second = 10 then some (passed.reverse, rest)
    else splitLine (first :: passed) (second :: rest)

theorem splitLine_shorter {passed bytes line rest : Bytes}
    (found : splitLine passed bytes = some (line, rest)) : rest.length < bytes.length := by
  fun_induction splitLine passed bytes with
  | case1 => simp at found
  | case2 => simp at found
  | case3 =>
    simp only [Option.some.injEq, Prod.mk.injEq] at found
    obtain ⟨-, rfl⟩ := found
    simp only [List.length_cons]; omega
  | case4 _ _ _ _ _ ih =>
    have := ih found
    simp only [List.length_cons] at this ⊢; omega

end Bytes

end Subscriber
