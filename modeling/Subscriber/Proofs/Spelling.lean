import Mathlib.Tactic.IntervalCases
import Subscriber.Text.Lossy

/-! Texts come back from their UTF-8 form. The reader that replaces what is not UTF-8 finds nothing to replace in the
bytes of a text: it reads every character from the bytes that the character was written as. -/

namespace Subscriber.Text

private theorem Sequence.ofLead?_two {lead : Nat} (low : 0xC2 ≤ lead) (high : lead ≤ 0xDF) :
    Sequence.ofLead? (UInt8.ofNat lead) = some { bits := lead - 0xC0, missing := 1 } := by
  interval_cases lead <;> rfl

private theorem Sequence.ofLead?_three {lead : Nat} (low : 0xE0 ≤ lead) (high : lead ≤ 0xEF) :
    Sequence.ofLead? (UInt8.ofNat lead) = some {
      bits := lead - 0xE0, missing := 2,
      low := if lead = 0xE0 then 0xA0 else 0x80, high := if lead = 0xED then 0x9F else 0xBF } := by
  interval_cases lead <;> rfl

private theorem Sequence.ofLead?_four {lead : Nat} (low : 0xF0 ≤ lead) (high : lead ≤ 0xF4) :
    Sequence.ofLead? (UInt8.ofNat lead) = some {
      bits := lead - 0xF0, missing := 3,
      low := if lead = 0xF0 then 0x90 else 0x80, high := if lead = 0xF4 then 0x8F else 0xBF } := by
  interval_cases lead <;> rfl

namespace Lossy
variable {read : List Char}

theorem toNat_ofNat {byte : Nat} (small : byte < 256) : (UInt8.ofNat byte).toNat = byte :=
  UInt8.toNat_ofNat_of_lt' small

private theorem start_lead {lead : Nat} (high : 0x80 ≤ lead) (byte : lead < 256) {sequence : Sequence}
    (found : Sequence.ofLead? (UInt8.ofNat lead) = some sequence) :
    feed { read } (UInt8.ofNat lead) = { read, sequence := some sequence } := by
  have large : ¬ UInt8.ofNat lead < 0x80 := by
    rw [UInt8.lt_iff_toNat_lt, toNat_ofNat byte]
    exact Nat.not_lt.mpr high
  rw [feed, start, if_neg large, found]

theorem within_bounds {sequence : Sequence} {tail : Nat} (byte : tail < 256) (low : sequence.low.toNat ≤ tail)
    (high : tail ≤ sequence.high.toNat) :
    sequence.low ≤ UInt8.ofNat tail ∧ UInt8.ofNat tail ≤ sequence.high := by
  rw [UInt8.le_iff_toNat_le, UInt8.le_iff_toNat_le, toNat_ofNat byte]
  exact ⟨low, high⟩

private theorem feed_inside {sequence : Sequence} {tail more : Nat} (byte : tail < 256) (low : sequence.low.toNat ≤ tail)
    (high : tail ≤ sequence.high.toNat) (missing : sequence.missing = more + 2) :
    feed { read, sequence := some sequence } (UInt8.ofNat tail) =
      { read, sequence := some { bits := sequence.bits * 64 + (tail - 0x80), missing := more + 1 } } := by
  unfold feed
  dsimp only
  rw [if_pos (within_bounds byte low high), missing, toNat_ofNat byte]

private theorem feed_last {sequence : Sequence} {tail : Nat} (byte : tail < 256) (low : sequence.low.toNat ≤ tail)
    (high : tail ≤ sequence.high.toNat) (missing : sequence.missing = 1) :
    feed { read, sequence := some sequence } (UInt8.ofNat tail) =
      { read := Char.ofNat (sequence.bits * 64 + (tail - 0x80)) :: read } := by
  unfold feed
  dsimp only
  rw [if_pos (within_bounds byte low high), missing, toNat_ofNat byte]

private theorem start_single {byte : Nat} (small : byte < 0x80) :
    feed { read } (UInt8.ofNat byte) = { read := Char.ofNat byte :: read } := by
  have single : UInt8.ofNat byte < 0x80 := by
    rw [UInt8.lt_iff_toNat_lt, toNat_ofNat (by omega)]
    exact small
  unfold feed start
  dsimp only
  rw [if_pos single, toNat_ofNat (by omega)]

/-- Every character is read from its own bytes. The cases are the four lengths. -/
theorem feed_char (char : Char) : (String.utf8EncodeChar char).foldl feed { read } = { read := char :: read } := by
  have valid : char.val.toNat < 0xD800 ∨ 0xDFFF < char.val.toNat ∧ char.val.toNat < 0x110000 := char.valid
  have whole {code : Nat} (same : code = char.val.toNat) : Char.ofNat code = char := by
    rw [same]
    exact Char.ofNat_toNat char
  unfold String.utf8EncodeChar
  dsimp only
  generalize char.val.toNat = code at valid whole ⊢
  by_cases one : code ≤ 127
  · rw [if_pos one, List.foldl_cons, List.foldl_nil, start_single (by omega), whole rfl]
  rw [if_neg one]
  by_cases two : code ≤ 2047
  · rw [if_pos two]
    simp only [List.foldl_cons, List.foldl_nil]
    rw [start_lead (by omega) (by omega) (Sequence.ofLead?_two (by omega) (by omega)),
      feed_last (by omega) (by simp) (by simp; omega) rfl, whole (by dsimp only; omega)]
  rw [if_neg two]
  by_cases three : code ≤ 65535
  · rw [if_pos three]
    simp only [List.foldl_cons, List.foldl_nil]
    rw [start_lead (by omega) (by omega) (Sequence.ofLead?_three (by omega) (by omega)),
      feed_inside (by omega) (by dsimp only; split <;> simp; omega) (by dsimp only; split <;> simp <;> omega) rfl,
      feed_last (by omega) (by simp) (by simp; omega) rfl, whole (by dsimp only; omega)]
  · rw [if_neg three]
    simp only [List.foldl_cons, List.foldl_nil]
    rw [start_lead (by omega) (by omega) (Sequence.ofLead?_four (by omega) (by omega)),
      feed_inside (by omega) (by dsimp only; split <;> simp; omega) (by dsimp only; split <;> simp <;> omega) rfl,
      feed_inside (by omega) (by simp) (by simp; omega) rfl,
      feed_last (by omega) (by simp) (by simp; omega) rfl, whole (by dsimp only; omega)]

private theorem feed_chars (chars : List Char) :
    (chars.flatMap String.utf8EncodeChar).foldl feed { read } = { read := chars.reverse ++ read } := by
  induction chars generalizing read with
  | nil => rfl
  | cons char chars ih =>
    rw [List.flatMap_cons, List.foldl_append, feed_char, ih, List.reverse_cons, List.append_assoc]
    rfl

end Lossy

theorem lossy_ofText (text : String) : lossy (Bytes.ofText text) = text := by
  rw [lossy, Bytes.ofText, Lossy.feed_chars, Lossy.finish]
  simp

end Subscriber.Text
