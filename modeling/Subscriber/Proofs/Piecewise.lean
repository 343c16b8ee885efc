import Subscriber.Proofs.ByteStreams

/-! Reading does not depend on how the bytes are cut. A decoder that is drained after every piece gives the frames, and
comes to the end, of one that gets all bytes at once, unless a frame that is still incomplete fills its buffer. -/

namespace Subscriber

namespace Frame

private theorem payload_ne_bufferTooLong (length : Nat) (bytes : Bytes) : payload length bytes ≠ .malformed .bufferTooLong := by
  unfold payload
  split
  · split <;> nofun
  · nofun

private theorem head_ne_bufferTooLong (limit : Nat) (bytes : Bytes) : head limit bytes ≠ .malformed .bufferTooLong := by
  unfold head
  repeat' split
  all_goals first
    | exact payload_ne_bufferTooLong _ _
    | nofun

/-- Only the size of a buffer makes it too long, never what is read from it. -/
theorem readInside_ne_bufferTooLong (limit : Nat) (outer : List Opening) (bytes : Bytes) :
    readInside limit outer bytes ≠ .malformed .bufferTooLong := by
  fun_induction readInside limit outer bytes with
  | case1 => exact fun same => by cases same
  | case2 outer bytes cause found =>
    intro same
    cases same
    exact head_ne_bufferTooLong limit bytes found
  | case3 _ _ _ _ _ ih => exact ih
  | case4 => exact fun same => by cases same
  | case5 _ _ _ _ _ _ ih => exact ih
  | case6 => exact fun same => by cases same
  | case7 _ _ _ _ _ _ _ ih => exact ih

end Frame

namespace Decoder

/-- What a series of frames came to: it waits with so many bytes unread, or it failed. -/
def Drained.ending (drained : Drained) : Except DecodeError Bytes :=
  match drained.stop with
  | none => .ok drained.rest.buffer
  | some cause => .error cause

/-- Several series, one after the other, as one that comes to what the last of them came to. -/
def Drained.joined (first : Drained) : List Drained → Drained
  | [] => first
  | next :: later => { next.joined later with frames := first.frames ++ (next.joined later).frames }

def unasked (decoder : Decoder) : Drained := { frames := [], stop := none, rest := decoder }

/-- The same answer with more bytes in the buffer, except that a buffer that was too long may have been completed. -/
theorem next_append (decoder : Decoder) (more : Bytes) :
    decoder.next = (.incomplete, decoder) ∨
    decoder.next = (.failed .bufferTooLong, decoder) ∧ decoder.limit < decoder.buffer.length ∨
    (∃ cause, cause ≠ .bufferTooLong ∧ decoder.next = (.failed cause, decoder) ∧
      (decoder.append more).next = (.failed cause, decoder.append more)) ∨
    ∃ frame rest, decoder.next = (.frame frame, rest) ∧ (decoder.append more).next = (.frame frame, rest.append more) := by
  have extended := Frame.readInside_append decoder.limit [] decoder.buffer more
  cases read : Frame.readInside decoder.limit [] decoder.buffer with
  | incomplete =>
    by_cases full : decoder.limit < decoder.buffer.length
    · exact .inr (.inl ⟨by simp only [next, Frame.decode, read, if_pos full], full⟩)
    · exact .inl (by simp only [next, Frame.decode, read, if_neg full])
  | malformed cause =>
    rw [read] at extended
    have same := extended.resolve_left fun waits => by cases waits
    have other : cause ≠ .bufferTooLong := by
      rintro rfl
      exact Frame.readInside_ne_bufferTooLong _ _ _ read
    have again : (decoder.append more).next = (.failed cause, decoder.append more) := next_malformed same
    exact .inr (.inr (.inl ⟨cause, other, next_malformed read, again⟩))
  | complete frame rest =>
    rw [read] at extended
    have same := extended.resolve_left fun waits => by cases waits
    have again : (decoder.append more).next = (.frame frame, { decoder with buffer := rest ++ more }) := next_complete same
    exact .inr (.inr (.inr ⟨frame, _, next_complete read, again⟩))

theorem next_limit {decoder rest : Decoder} {answer : Answer} (found : decoder.next = (answer, rest)) :
    rest.limit = decoder.limit := by
  unfold next at found
  split at found
  all_goals
    cases found
    rfl

private theorem drainOnto_eq (taken : List Frame) (decoder : Decoder) :
    decoder.drainOnto taken = { decoder.drain with frames := taken.reverse ++ decoder.drain.frames } := by
  unfold drain
  rw [drainOnto_step taken, drainOnto_step []]
  split
  · simp
  · simp
  next frame rest found =>
    have shorter := next_shorter found
    rw [drainOnto_eq (frame :: taken) rest, drainOnto_eq [frame] rest]
    simp
termination_by decoder.buffer.length

theorem drain_frame {decoder rest : Decoder} {frame : Frame} (found : decoder.next = (.frame frame, rest)) :
    decoder.drain = { rest.drain with frames := frame :: rest.drain.frames } := by
  rw [drain, drainOnto_step, found]
  exact drainOnto_eq [frame] rest

theorem drain_incomplete {decoder : Decoder} (waits : decoder.next = (.incomplete, decoder)) :
    decoder.drain = decoder.unasked := by
  rw [drain, drainOnto_step, waits]
  rfl

theorem drain_failed {decoder : Decoder} {cause : DecodeError} (failed : decoder.next = (.failed cause, decoder)) :
    decoder.drain = { decoder.unasked with stop := some cause } := by
  rw [drain, drainOnto_step, failed]
  rfl

private theorem drain_limit (decoder : Decoder) : decoder.drain.rest.limit = decoder.limit := by
  rcases next_append decoder [] with waits | ⟨failed, -⟩ | ⟨cause, -, failed, -⟩ | ⟨frame, rest, found, -⟩
  · rw [drain_incomplete waits]
    rfl
  · rw [drain_failed failed]
    rfl
  · rw [drain_failed failed]
    rfl
  · have shorter := next_shorter found
    rw [drain_frame found]
    exact (drain_limit rest).trans (next_limit found)
termination_by decoder.buffer.length

/-- How the series of a decoder stands to the one it gives with more bytes behind. -/
inductive Extends (more : Bytes) (now later : Drained) : Prop where
  | waits (stopped : now.stop = none) (idle : now.rest.next = (.incomplete, now.rest))
      (goesOn : later = { (now.rest.append more).drain with frames := now.frames ++ (now.rest.append more).drain.frames })
  | failed (cause : DecodeError) (other : cause ≠ .bufferTooLong) (stopped : now.stop = some cause)
      (frames : later.frames = now.frames) (same : later.stop = some cause)
  | full (stopped : now.stop = some .bufferTooLong) (long : now.rest.limit < now.rest.buffer.length)
      (frames : now.frames <+: later.frames)

private theorem Extends.behind {more : Bytes} {now later : Drained} (extended : Extends more now later) (frame : Frame) :
    Extends more { now with frames := frame :: now.frames } { later with frames := frame :: later.frames } := by
  cases extended with
  | waits stopped idle goesOn => exact .waits stopped idle (by rw [goesOn]; rfl)
  | failed cause other stopped frames same => exact .failed cause other stopped (by rw [frames]) same
  | full stopped long frames => exact .full stopped long (List.cons_prefix_cons.mpr ⟨rfl, frames⟩)

private theorem drain_append (decoder : Decoder) (more : Bytes) :
    Extends more decoder.drain (decoder.append more).drain := by
  rcases next_append decoder more with waits | ⟨failed, full⟩ | ⟨cause, other, failed, again⟩ | ⟨frame, rest, found, again⟩
  · rw [drain_incomplete waits]
    exact .waits rfl waits rfl
  · rw [drain_failed failed]
    exact .full rfl full List.nil_prefix
  · rw [drain_failed failed, drain_failed again]
    exact .failed cause other rfl rfl rfl
  · have shorter := next_shorter found
    rw [drain_frame found, drain_frame again]
    exact (drain_append rest more).behind frame
termination_by decoder.buffer.length

private theorem joined_waiting {first : Drained} (stopped : first.stop = none) (later : List Drained) :
    first.joined later = { first.rest.unasked.joined later with
      frames := first.frames ++ (first.rest.unasked.joined later).frames } := by
  cases later with
  | nil => simp [Drained.joined, unasked, ← stopped]
  | cons next later => simp [Drained.joined, unasked]

private theorem unasked_joined (decoder : Decoder) (first : Drained) (later : List Drained) :
    decoder.unasked.joined (first :: later) = first.joined later := rfl

/-- The series from pieces is the one from all bytes, unless it ended because a buffer was too long: then it is a
beginning of that one, and the buffer is longer than its limit. -/
def Agree (limit : Nat) (cut whole : Drained) : Prop :=
  if cut.stop = some .bufferTooLong then cut.frames <+: whole.frames ∧ limit < cut.rest.buffer.length
  else cut.frames = whole.frames ∧ cut.ending = whole.ending

private theorem Agree.behind {limit : Nat} {cut whole : Drained} (agree : Agree limit cut whole) (frames : List Frame) :
    Agree limit { cut with frames := frames ++ cut.frames } { whole with frames := frames ++ whole.frames } := by
  unfold Agree at agree ⊢
  dsimp only
  split
  next full =>
    rw [if_pos full] at agree
    exact ⟨(List.prefix_append_right_inj frames).mpr agree.1, agree.2⟩
  next other =>
    rw [if_neg other] at agree
    exact ⟨congrArg (frames ++ ·) agree.1, agree.2⟩

theorem append_nil (decoder : Decoder) : decoder.append [] = decoder := by
  rw [append, List.append_nil]

private theorem append_append (decoder : Decoder) (first second : Bytes) :
    (decoder.append first).append second = decoder.append (first ++ second) := by
  rw [append, append, append, List.append_assoc]

private theorem drainPieces_agree {decoder : Decoder} (idle : decoder.next = (.incomplete, decoder)) (pieces : List Bytes) :
    Agree decoder.limit (decoder.unasked.joined (decoder.drainPieces pieces)) (decoder.append pieces.flatten).drain := by
  induction pieces generalizing decoder with
  | nil =>
    rw [List.flatten_nil, append_nil, drain_incomplete idle]
    exact ⟨rfl, rfl⟩
  | cons piece pieces ih =>
    have limit : (decoder.append piece).drain.rest.limit = decoder.limit := drain_limit _
    have extended := drain_append (decoder.append piece) pieces.flatten
    rw [append_append] at extended
    rw [List.flatten_cons, drainPieces]
    cases extended with
    | waits stopped waiting goesOn =>
      rw [stopped, goesOn, unasked_joined, joined_waiting stopped, ← limit]
      exact (ih waiting).behind _
    | failed cause other stopped frames same =>
      rw [stopped, unasked_joined, Drained.joined, Agree, if_neg (by rw [stopped]; simpa using other)]
      exact ⟨frames.symm, by simp only [Drained.ending, stopped, same]⟩
    | full stopped long frames =>
      rw [stopped, unasked_joined, Drained.joined, Agree, if_pos stopped, ← limit]
      exact ⟨frames, long⟩

/-- However bytes are cut into pieces, a decoder that is drained after every piece gives the same frames and comes to
the same end as one that gets them at once, unless its buffer becomes too long on the way. -/
theorem pieces_drain_as_whole (limit : Nat) (pieces : List Bytes) :
    Agree limit ((unasked { limit }).joined (drainPieces { limit } pieces)) (append { limit } pieces.flatten).drain := by
  have idle : next { limit } = (.incomplete, { limit }) := by
    rw [next, Frame.decode, Frame.readInside_step]
    rfl
  exact drainPieces_agree idle pieces

/-- A line above the limit is read if it arrives whole. -/
example : (append { limit := 4 } [43, 65, 65, 65, 13, 10]).drain.frames = [.simple [65, 65, 65]] ∧
    ((unasked { limit := 4 }).joined (drainPieces { limit := 4 } [[43, 65, 65, 65, 13], [10]])).stop =
      some .bufferTooLong := by
  decide +kernel

end Decoder

end Subscriber
