import Subscriber.Proofs.Piecewise
import Subscriber.Proofs.RoundTrip

/-! Frames that keep to a limit as a whole. However much of them has arrived, reading never fails, takes the frames that
are complete and leaves the beginning of the next one. -/

namespace Subscriber

namespace Frame

/-- Neither a length inside one of these frames nor its size is above the limit. -/
def Within (limit : Nat) (frames : List Frame) : Prop :=
  ∀ frame ∈ frames, frame.Fits limit ∧ frame.encode.length ≤ limit

theorem Within.tail {limit : Nat} {frame : Frame} {frames : List Frame} (within : Within limit (frame :: frames)) :
    Within limit frames := fun other member => within other (List.mem_cons_of_mem _ member)

end Frame

namespace Decoder

theorem next_unfailed {decoder : Decoder} {frames : List Frame} (lined : Frame.LinedItems frames)
    (within : Frame.Within decoder.limit frames) (start : decoder.buffer <+: Frame.encodeItems frames)
    (cause : DecodeError) (rest : Decoder) : decoder.next ≠ (.failed cause, rest) := by
  cases frames with
  | nil =>
    have empty : decoder.buffer = [] := List.prefix_nil.mp start
    have waits : decoder.next = (.incomplete, decoder) := by
      rw [next, Frame.decode, empty, Frame.readInside_step]
      rfl
    rw [waits]
    exact fun failed => by cases failed
  | cons frame later =>
    obtain ⟨fits, size⟩ := within frame List.mem_cons_self
    by_cases short : decoder.buffer.length < frame.encode.length
    · have inside : decoder.buffer <+: frame.encode :=
        List.prefix_of_prefix_length_le start (List.prefix_append _ _) (Nat.le_of_lt short)
      obtain ⟨behind, form⟩ := inside
      cases read : Frame.readInside decoder.limit [] decoder.buffer with
      | incomplete =>
        have waits : decoder.next = (.incomplete, decoder) := by
          simp only [next, Frame.decode, read, if_neg (show ¬ decoder.limit < decoder.buffer.length by omega)]
        rw [waits]
        exact fun failed => by cases failed
      | malformed objection =>
        -- An objection would stand with the missing bytes behind, but the whole frame is read.
        have whole := Frame.readInside_encode decoder.limit [] frame lined.1 []
        rcases Frame.readInside_append decoder.limit [] decoder.buffer behind with waits | same
        · cases read.symm.trans waits
        · rw [form, read] at same
          rw [List.append_nil, same, fits.fault?] at whole
          cases whole
      | complete found left =>
        rw [next_complete read]
        exact fun failed => by cases failed
    · obtain ⟨behind, form⟩ := List.prefix_of_prefix_length_le (List.prefix_append _ _) start (Nat.not_lt.mp short)
      have taken := next_encoded lined.1 fits behind
      rw [form] at taken
      rw [show decoder.next = _ from taken]
      exact fun failed => by cases failed

/-- Draining takes the complete frames and leaves the beginning of the next one, or nothing. -/
theorem drain_of_prefix {limit : Nat} {frames : List Frame} {buffer : Bytes} (lined : Frame.LinedItems frames)
    (within : Frame.Within limit frames) (start : buffer <+: Frame.encodeItems frames) :
    ∃ whole later rest, frames = whole ++ later ∧ buffer = Frame.encodeItems whole ++ rest ∧
      drain { limit, buffer } = { frames := whole.map Frame.asRead, stop := none, rest := { limit, buffer := rest } } ∧
      (later = [] → rest = []) ∧ ∀ frame ∈ later.head?, rest <+: frame.encode ∧ rest ≠ frame.encode := by
  let decoder : Decoder := { limit, buffer }
  have held : decoder.buffer <+: Frame.encodeItems frames := start
  have unfailed : ∀ cause rest, decoder.next ≠ (.failed cause, rest) := next_unfailed lined within held
  rcases next_of_prefix lined held with
    ⟨cause, failed⟩ | ⟨waits, short⟩ | ⟨frame, later, rest, rfl, form, behind, found⟩
  · exact absurd failed (unfailed cause decoder)
  · refine ⟨[], frames, buffer, rfl, rfl, drain_incomplete waits, ?_, ?_⟩
    · rintro rfl
      exact List.prefix_nil.mp start
    · intro frame member
      obtain ⟨later, rfl⟩ : ∃ later, frames = frame :: later := List.head?_eq_some_iff.mp member
      have shorter := short frame member
      refine ⟨List.prefix_of_prefix_length_le start (List.prefix_append _ _) (Nat.le_of_lt shorter), ?_⟩
      rintro rfl
      exact Nat.lt_irrefl _ shorter
  · have lighter : later.length < (frame :: later).length := Nat.lt_succ_self _
    obtain ⟨whole, last, left, rfl, parts, drained, nothing, proper⟩ := drain_of_prefix lined.2 within.tail behind
    refine ⟨frame :: whole, last, left, rfl, ?_, ?_, nothing, proper⟩
    · rw [show buffer = frame.encode ++ rest from form, parts, Frame.encodeItems, List.append_assoc]
    · rw [drain_frame found, drained]
      rfl
termination_by frames.length

end Decoder

namespace Inbound

private theorem readFrame_unfailed {inbound : Inbound} {frames : List Frame} (lined : Frame.LinedItems frames)
    (within : Frame.Within inbound.decoder.limit frames) (start : inbound.unread <+: Frame.encodeItems frames)
    (faultless : Arrival.Faultless inbound.queue) (goesOn : inbound.ended = false) (error : Error) (rest : Inbound) :
    inbound.readFrame ≠ (.failed error, rest) := by
  have held : inbound.decoder.buffer <+: Frame.encodeItems frames := (List.prefix_append _ _).trans start
  rcases Decoder.next_of_prefix lined held with ⟨cause, failed⟩ | ⟨waits, -⟩ | ⟨frame, later, left, -, -, -, found⟩
  · exact absurd failed (Decoder.next_unfailed lined within held cause _)
  · rw [readFrame_waits waits]
    rcases Arrival.next?_faultless faultless with ⟨nothing, -⟩ | ⟨now, queue, found, parts, kept⟩
    · rw [nothing, goesOn]
      simp
    · have lighter := (Arrival.weight_next found).1
      let appended : Inbound := { inbound with queue, decoder := inbound.decoder.append now }
      have moved : appended.unread = inbound.unread := by
        simp only [appended, unread, Decoder.append, parts, List.append_assoc]
      have later : appended.unread <+: Frame.encodeItems frames := moved ▸ start
      have within' : Frame.Within appended.decoder.limit frames := within
      rw [found]
      exact readFrame_unfailed lined within' later kept goesOn error rest
  · rw [readFrame, found]
    exact fun failed => by cases failed
termination_by Arrival.weight inbound.queue

theorem limit_readFrame {inbound rest : Inbound} {incoming : Incoming} (found : inbound.readFrame = (incoming, rest)) :
    rest.decoder.limit = inbound.decoder.limit := by
  fun_induction readFrame inbound with
  | case1 inbound frame decoder taken =>
    cases found
    exact Decoder.next_limit taken
  | case2 inbound cause decoder failed =>
    cases found
    exact Decoder.next_limit failed
  | case3 inbound decoder waits nothing =>
    cases found
    exact Decoder.next_limit waits
  | case4 inbound decoder waits cause queue arrived =>
    cases found
    exact Decoder.next_limit waits
  | case5 inbound decoder waits bytes queue arrived ih =>
    have same : decoder.limit = inbound.decoder.limit := Decoder.next_limit waits
    exact (ih found).trans same

theorem limit_readOnto (read : List Frame) (inbound : Inbound) :
    (inbound.readOnto read).rest.decoder.limit = inbound.decoder.limit := by
  rw [readOnto_step]
  rcases found : inbound.readFrame with ⟨incoming, rest⟩
  have kept := limit_readFrame found
  cases incoming with
  | pending => exact kept
  | failed error => exact kept
  | frame frame =>
    have lighter := readFrame_lighter found
    exact (limit_readOnto (frame :: read) rest).trans kept
termination_by inbound.weight

/-- A pass over frames of which nothing is malformed does not fail. -/
theorem readOnto_unfailed {inbound : Inbound} {frames : List Frame} (read : List Frame) (lined : Frame.LinedItems frames)
    (within : Frame.Within inbound.decoder.limit frames) (start : inbound.unread <+: Frame.encodeItems frames)
    (faultless : Arrival.Faultless inbound.queue) (goesOn : inbound.ended = false) :
    (inbound.readOnto read).failure = none := by
  obtain ⟨incoming, rest, found, outcome⟩ := readFrame_of_prefix lined start faultless goesOn
  rw [readOnto_step, found]
  rcases outcome with ⟨error, rfl⟩ | ⟨kept, unended, ⟨rfl, -, -⟩ | ⟨frame, later, rfl, rfl, parts⟩⟩
  · exact absurd found (readFrame_unfailed lined within start faultless goesOn error rest)
  · rfl
  · have behind : rest.unread <+: Frame.encodeItems later := by
      rw [parts, Frame.encodeItems] at start
      exact (List.prefix_append_right_inj _).mp start
    have lighter := readFrame_lighter found
    exact readOnto_unfailed _ lined.2 (limit_readFrame found ▸ within.tail) behind kept unended
termination_by inbound.weight

end Inbound

end Subscriber
