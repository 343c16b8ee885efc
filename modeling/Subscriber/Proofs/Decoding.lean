import Subscriber.Frame.Decode

/-! What the decoder has found stays found. A frame or an error that a buffer begins with is the same
whatever bytes come behind it, so nothing but an incomplete buffer waits for more. -/

namespace Subscriber

namespace Bytes

private theorem splitLine_append {passed bytes line rest : Bytes} (found : splitLine passed bytes = some (line, rest))
    (more : Bytes) : splitLine passed (bytes ++ more) = some (line, rest ++ more) := by
  fun_induction splitLine passed bytes with
  | case1 => cases found
  | case2 => cases found
  | case3 passed first second behind ends =>
    cases found
    simp only [List.cons_append, splitLine, if_pos ends]
  | case4 passed first second behind goesOn ih =>
    have later := ih found
    simp only [List.cons_append] at later ⊢
    rw [splitLine, if_neg goesOn]
    exact later

end Bytes

/-- The same reading of a buffer with more bytes behind it. -/
def Reading.extend {α : Type} (more : Bytes) : Reading α → Reading α
  | .incomplete => .incomplete
  | .malformed cause => .malformed cause
  | .complete value rest => .complete value (rest ++ more)

namespace Frame

private theorem payload_append (length : Nat) (bytes more : Bytes) : payload length bytes = .incomplete ∨
    payload length (bytes ++ more) = (payload length bytes).extend more := by
  by_cases enough : length + 2 ≤ bytes.length
  · right
    obtain ⟨first, second, rest, behind⟩ : ∃ first second rest, bytes.drop length = first :: second :: rest := by
      match found : bytes.drop length with
      | [] | [_] =>
        have size := congrArg List.length found
        simp only [List.length_drop, List.length_cons, List.length_nil] at size
        omega
      | first :: second :: rest => exact ⟨first, second, rest, rfl⟩
    have longer : (bytes ++ more).drop length = first :: second :: (rest ++ more) := by
      rw [List.drop_append_of_le_length (by omega), behind]
      rfl
    simp only [payload, List.splitAt_eq, behind, longer, List.take_append_of_le_length (Nat.le_of_add_right_le enough)]
    split <;> rfl
  · left
    unfold payload
    split
    next content first second rest found =>
      have size := congrArg (fun parts => parts.2.length) found
      simp only [List.splitAt_eq, List.length_drop, List.length_cons] at size
      omega
    next => rfl

private theorem head_append (limit : Nat) (bytes more : Bytes) : head limit bytes = .incomplete ∨
    head limit (bytes ++ more) = (head limit bytes).extend more := by
  cases bytes with
  | nil => exact Or.inl rfl
  | cons tag bytes =>
    cases found : Bytes.splitLine [] bytes with
    | none => exact Or.inl (by simp only [head, found])
    | some line =>
      obtain ⟨text, rest⟩ := line
      simp only [head, List.cons_append, found, Bytes.splitLine_append found more]
      repeat' split
      all_goals first
        | exact Or.inr rfl
        | exact payload_append _ rest more

def resume (limit : Nat) (outer : List Opening) (frame : Frame) (rest : Bytes) : Reading Frame :=
  match settle outer frame with
  | .inl whole => .complete whole rest
  | .inr outer => readInside limit outer rest

theorem readInside_step (limit : Nat) (outer : List Opening) (bytes : Bytes) :
    readInside limit outer bytes =
      match head limit bytes with
      | .incomplete => .incomplete
      | .malformed cause => .malformed cause
      | .complete (.items (missing + 1)) rest => readInside limit ({ missing } :: outer) rest
      | .complete (.items 0) rest => resume limit outer (.array []) rest
      | .complete (.whole frame) rest => resume limit outer frame rest := by
  rw [readInside]
  split
  next found => rw [found]
  next found => rw [found]
  next found => rw [found]
  next found => rw [found]; rfl
  next found => rw [found]; rfl

theorem readInside_append (limit : Nat) (outer : List Opening) (bytes more : Bytes) :
    readInside limit outer bytes = .incomplete ∨
    readInside limit outer (bytes ++ more) = (readInside limit outer bytes).extend more := by
  rcases head_append limit bytes more with waits | same
  · exact Or.inl (by rw [readInside_step, waits])
  have resumed (outer : List Opening) (frame : Frame) (rest : Bytes) (shorter : rest.length < bytes.length) :
      resume limit outer frame rest = .incomplete ∨
      resume limit outer frame (rest ++ more) = (resume limit outer frame rest).extend more := by
    unfold resume
    split
    · exact Or.inr rfl
    · exact readInside_append limit _ rest more
  rw [readInside_step limit outer bytes, readInside_step limit outer (bytes ++ more), same]
  cases found : head limit bytes with
  | incomplete => exact Or.inl rfl
  | malformed => exact Or.inr rfl
  | complete value rest =>
    have shorter := head_shorter found
    cases value with
    | whole frame => exact resumed outer frame rest shorter
    | items count =>
      cases count with
      | zero => exact resumed outer _ rest shorter
      | succ missing => exact readInside_append limit _ rest more
termination_by bytes.length

end Frame

end Subscriber
