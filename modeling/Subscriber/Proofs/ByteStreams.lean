import Subscriber.Connection
import Subscriber.Proofs.Encoding

/-! Both directions of a byte stream. Written frames are read back whole and in order however their bytes
are cut into pieces, and what a writer has handed over and what it still holds are together what it was
given. -/

namespace Subscriber

namespace Arrival

def bytes : List Arrival → Bytes
  | [] => []
  | .piece bytes :: later => bytes ++ Arrival.bytes later
  | .fault _ :: later => Arrival.bytes later

theorem bytes_append (first last : List Arrival) : bytes (first ++ last) = bytes first ++ bytes last := by
  induction first with
  | nil => rfl
  | cons arrival first ih =>
    cases arrival with
    | piece piece => rw [List.cons_append, bytes, bytes, ih, List.append_assoc]
    | fault cause => exact ih

def Faultless (queue : List Arrival) : Prop := ∀ cause, Arrival.fault cause ∉ queue

private theorem Faultless.later {arrival : Arrival} {later : List Arrival} (faultless : Faultless (arrival :: later)) :
    Faultless later := fun cause member => faultless cause (List.mem_cons_of_mem _ member)

theorem next?_faultless {queue : List Arrival} (faultless : Faultless queue) :
    (next? queue = none ∧ bytes queue = []) ∨
    ∃ now later, next? queue = some (.ok now, later) ∧ bytes queue = now ++ bytes later ∧ Faultless later := by
  induction queue with
  | nil => exact Or.inl ⟨rfl, rfl⟩
  | cons arrival later ih =>
    match arrival with
    | .fault cause => exact absurd List.mem_cons_self (faultless cause)
    | .piece [] =>
      rcases ih faultless.later with ⟨nothing, empty⟩ | ⟨now, behind, found, parts, kept⟩
      · exact Or.inl ⟨nothing, empty⟩
      · exact Or.inr ⟨now, behind, found, parts, kept⟩
    | .piece (first :: others) =>
      right
      have whole := List.take_append_drop chunk (first :: others)
      cases rest : (first :: others).drop chunk with
      | nil =>
        refine ⟨(first :: others).take chunk, later, by simp only [next?, rest], ?_, faultless.later⟩
        rw [rest, List.append_nil] at whole
        rw [bytes, whole]
      | cons byte behind =>
        refine ⟨(first :: others).take chunk, .piece (byte :: behind) :: later, by simp only [next?, rest], ?_, ?_⟩
        · rw [rest] at whole
          rw [bytes, bytes, ← List.append_assoc, whole]
        · intro cause member
          rcases List.mem_cons.mp member with same | inside
          · cases same
          · exact faultless.later cause inside

end Arrival

namespace Inbound

/-- The bytes that have arrived and are not part of a frame that was read. -/
def unread (inbound : Inbound) : Bytes := inbound.decoder.buffer ++ Arrival.bytes inbound.queue

theorem readFrame_waits {inbound : Inbound} (waits : inbound.decoder.next = (.incomplete, inbound.decoder)) :
    inbound.readFrame =
      match Arrival.next? inbound.queue with
      | none => (if inbound.ended then .failed .connectionClosed else .pending, inbound)
      | some (.error cause, queue) => (.failed (.io cause), { inbound with queue })
      | some (.ok bytes, queue) => readFrame { inbound with queue, decoder := inbound.decoder.append bytes } := by
  rw [readFrame, waits]
  dsimp only
  split
  next found => rw [found]
  next found => rw [found]
  next found => rw [found]

/-- What reading comes to when written frames arrive: the next of them as soon as it is there as a
whole. -/
theorem readFrame_of_prefix {inbound : Inbound} {frames : List Frame} (lined : Frame.LinedItems frames)
    (start : inbound.unread <+: Frame.encodeItems frames) (faultless : Arrival.Faultless inbound.queue)
    (goesOn : inbound.ended = false) : ∃ incoming rest, inbound.readFrame = (incoming, rest) ∧
      ((∃ error, incoming = .failed error) ∨
      (Arrival.Faultless rest.queue ∧ rest.ended = false ∧
        ((incoming = .pending ∧ rest.unread = inbound.unread ∧
          ∀ frame ∈ frames.head?, inbound.unread.length < frame.encode.length) ∨
        ∃ frame later, frames = frame :: later ∧ incoming = .frame frame.asRead ∧
          inbound.unread = frame.encode ++ rest.unread))) := by
  have held : inbound.decoder.buffer <+: Frame.encodeItems frames := (List.prefix_append _ _).trans start
  rcases Decoder.next_of_prefix lined held with ⟨cause, failed⟩ | ⟨waits, short⟩ | ⟨frame, later, rest, rfl, form, -, found⟩
  · exact ⟨.failed (.decode cause), inbound, by rw [readFrame, failed], Or.inl ⟨_, rfl⟩⟩
  · rcases Arrival.next?_faultless faultless with ⟨nothing, empty⟩ | ⟨now, queue, found, parts, kept⟩
    · have all : inbound.unread = inbound.decoder.buffer := by rw [unread, empty, List.append_nil]
      refine ⟨.pending, inbound, ?_, Or.inr ⟨faultless, goesOn, Or.inl ⟨rfl, rfl, all ▸ short⟩⟩⟩
      rw [readFrame_waits waits, nothing, goesOn]
      rfl
    · let appended := { inbound with queue, decoder := inbound.decoder.append now }
      have same : appended.unread = inbound.unread := by
        simp only [appended, unread, Decoder.append, parts, List.append_assoc]
      have moved : appended.unread <+: Frame.encodeItems frames := same ▸ start
      have lighter := (Arrival.weight_next found).1
      obtain ⟨incoming, rest, read, outcome⟩ := readFrame_of_prefix lined moved kept goesOn
      rw [same] at outcome
      exact ⟨incoming, rest, by rw [readFrame_waits waits, found]; exact read, outcome⟩
  · let taken := { inbound with decoder := { inbound.decoder with buffer := rest } }
    have parts : inbound.unread = frame.encode ++ taken.unread := by
      simp only [taken, unread, form, List.append_assoc]
    exact ⟨.frame frame.asRead, taken, by rw [readFrame, found],
      Or.inr ⟨faultless, goesOn, Or.inr ⟨frame, later, rfl, rfl, parts⟩⟩⟩
termination_by Arrival.weight inbound.queue

theorem readOnto_step (read : List Frame) (inbound : Inbound) :
    inbound.readOnto read =
      match inbound.readFrame with
      | (.pending, rest) => { frames := read.reverse, failure := none, rest }
      | (.failed error, rest) => { frames := read.reverse, failure := some error, rest }
      | (.frame frame, rest) => readOnto (frame :: read) rest := by
  rw [readOnto]
  split
  next found => rw [found]
  next found => rw [found]
  next found => rw [found]

/-- Unless a length is not accepted, a pass finds the frames whose last byte has arrived and leaves the
beginning of the next one. -/
theorem readOnto_of_prefix {inbound : Inbound} {frames : List Frame} (read : List Frame)
    (lined : Frame.LinedItems frames) (start : inbound.unread <+: Frame.encodeItems frames)
    (faultless : Arrival.Faultless inbound.queue) (goesOn : inbound.ended = false)
    (unfailed : (inbound.readOnto read).failure = none) :
    ∃ whole later, frames = whole ++ later ∧
      (inbound.readOnto read).frames = read.reverse ++ whole.map Frame.asRead ∧
      inbound.unread = Frame.encodeItems whole ++ (inbound.readOnto read).rest.unread ∧
      Arrival.Faultless (inbound.readOnto read).rest.queue ∧ (inbound.readOnto read).rest.ended = false ∧
      ∀ frame ∈ later.head?, (inbound.readOnto read).rest.unread.length < frame.encode.length := by
  obtain ⟨incoming, rest, found, outcome⟩ := readFrame_of_prefix lined start faultless goesOn
  rw [readOnto_step, found] at unfailed ⊢
  rcases outcome with ⟨error, rfl⟩ | ⟨kept, open', ⟨rfl, same, short⟩ | ⟨frame, later, rfl, rfl, parts⟩⟩
  · cases unfailed
  · refine ⟨[], frames, rfl, (List.append_nil _).symm, same.symm, kept, open', ?_⟩
    rw [same]
    exact short
  · have behind : rest.unread <+: Frame.encodeItems later := by
      rw [parts, Frame.encodeItems] at start
      exact (List.prefix_append_right_inj _).mp start
    have lighter := readFrame_lighter found
    obtain ⟨whole, last, rfl, taken, left, unbroken, ends, short⟩ :=
      readOnto_of_prefix (frame.asRead :: read) lined.2 behind kept open' unfailed
    refine ⟨frame :: whole, last, rfl, ?_, ?_, unbroken, ends, short⟩
    · simpa using taken
    · rw [parts, left, Frame.encodeItems, List.append_assoc]
termination_by inbound.weight

end Inbound

namespace Decoder

theorem drainOnto_step (taken : List Frame) (decoder : Decoder) :
    decoder.drainOnto taken =
      match decoder.next with
      | (.incomplete, rest) => { frames := taken.reverse, stop := none, rest }
      | (.failed cause, rest) => { frames := taken.reverse, stop := some cause, rest }
      | (.frame frame, rest) => drainOnto (frame :: taken) rest := by
  rw [drainOnto]
  split
  next found => rw [found]
  next found => rw [found]
  next found => rw [found]

/-- What a decoder finds in the beginning of written frames are the first of them. -/
theorem drainOnto_of_prefix {decoder : Decoder} {frames : List Frame} (taken : List Frame)
    (lined : Frame.LinedItems frames) (start : decoder.buffer <+: Frame.encodeItems frames) :
    ∃ whole later, frames = whole ++ later ∧ (decoder.drainOnto taken).frames = taken.reverse ++ whole.map Frame.asRead ∧
      Frame.encodeItems whole <+: decoder.buffer := by
  rw [drainOnto_step]
  rcases next_of_prefix lined start with ⟨cause, failed⟩ | ⟨waits, -⟩ | ⟨frame, later, rest, rfl, form, behind, found⟩
  · rw [failed]
    exact ⟨[], frames, rfl, (List.append_nil _).symm, List.nil_prefix⟩
  · rw [waits]
    exact ⟨[], frames, rfl, (List.append_nil _).symm, List.nil_prefix⟩
  · have shorter : rest.length < decoder.buffer.length := next_shorter found
    rw [found]
    let left : Decoder := { decoder with buffer := rest }
    have moved : left.buffer <+: Frame.encodeItems later := behind
    obtain ⟨whole, last, rfl, more, inside⟩ := drainOnto_of_prefix (frame.asRead :: taken) lined.2 moved
    refine ⟨frame :: whole, last, rfl, by simpa using more, ?_⟩
    rw [form, Frame.encodeItems]
    exact (List.prefix_append_right_inj _).mpr inside
termination_by decoder.buffer.length

end Decoder

namespace Outbound

theorem send_accepted {outbound after : Outbound} {bytes : Bytes} {sending : Sending}
    (sent : outbound.send bytes = (sending, after)) :
    (sending = .done → after.accepted = outbound.accepted ++ bytes) ∧
    ∀ unsent, sending = .blocked unsent → after.accepted ++ unsent = outbound.accepted ++ bytes := by
  fun_induction send outbound bytes with
  | case1 outbound bytes empty quiet =>
    cases sent
    rw [List.length_eq_zero_iff.mp empty, List.append_nil]
    exact ⟨fun _ => rfl, nofun⟩
  | case2 outbound bytes empty cause broken =>
    cases sent
    exact ⟨nofun, nofun⟩
  | case3 outbound bytes some waits =>
    cases sent
    exact ⟨nofun, fun _ same => by cases same; rfl⟩
  | case4 outbound bytes some cause fails =>
    cases sent
    exact ⟨nofun, nofun⟩
  | case5 outbound bytes some count taken ih =>
    have later := ih sent
    simpa only [List.append_assoc, List.take_append_drop] using later

end Outbound

end Subscriber
