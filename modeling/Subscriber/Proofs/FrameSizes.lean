import Subscriber.Proofs.Piecewise
import Subscriber.Proofs.RoundTrip

/-! What a size limit keeps out. A decoder that is asked after every piece of one frame objects to the lengths inside the
frame and, for as long as the frame is incomplete, to the size of its buffer. The size of a frame that has arrived is
never looked at: frames above the limit are found, and frames below it are refused for the number of their items. -/

namespace Subscriber

namespace Frame

private theorem lengthFault?_eq_none {limit length : Nat} {cause : DecodeError} :
    lengthFault? limit cause length = none ↔ length ≤ limit ∧ length ≤ longest := by
  refine ⟨fun accepted => ?_, fun small => lengthFault?_none small.1 small.2⟩
  unfold lengthFault? at accepted
  split at accepted
  · cases accepted
  next number =>
    split at accepted
    · cases accepted
    next small => exact ⟨Nat.not_lt.mp small, Int.ofNat_le.mp (Int.not_lt.mp number)⟩

mutual

private theorem fits_of_fault? {limit : Nat} {frame : Frame} (faultless : frame.fault? limit = none) : frame.Fits limit := by
  match frame with
  | .simple _ | .error _ | .integer _ | .bulk none | .null => exact trivial
  | .bulk (some payload) => exact lengthFault?_eq_none.mp faultless
  | .array items =>
    rw [Frame.fault?, Option.or_eq_none_iff] at faultless
    obtain ⟨count, inside⟩ := faultless
    obtain ⟨small, held⟩ := lengthFault?_eq_none.mp count
    exact ⟨small, held, fitsItems_of_faultItems? inside⟩

theorem fitsItems_of_faultItems? {limit : Nat} {items : List Frame} (faultless : faultItems? limit items = none) :
    FitsItems limit items := by
  match items with
  | [] => exact trivial
  | item :: items =>
    rw [Frame.faultItems?, Option.or_eq_none_iff] at faultless
    exact ⟨fits_of_fault? faultless.1, fitsItems_of_faultItems? faultless.2⟩

end

/-- No length in a frame is objected to exactly when all of them keep to the limit. -/
theorem fault?_eq_none {limit : Nat} {frame : Frame} : frame.fault? limit = none ↔ frame.Fits limit :=
  ⟨fits_of_fault?, Fits.fault?⟩

end Frame

namespace Decoder

/-- Appends the pieces one by one and asks for a frame after each, also after a failure. -/
def askEach (decoder : Decoder) : List Bytes → List Answer
  | [] => []
  | piece :: pieces =>
    let (answer, rest) := (decoder.append piece).next
    answer :: rest.askEach pieces

/-- The limit as a size in bytes: the frame comes back from its pieces if it is written in so many bytes, and with more
bytes no frame comes but an objection. -/
def KeepsSize (limit : Nat) (frame : Frame) (pieces : List Bytes) : Prop :=
  (frame.encode.length ≤ limit → .frame frame.asRead ∈ askEach { limit } pieces) ∧
  (limit < frame.encode.length → (∀ found, .frame found ∉ askEach { limit } pieces) ∧
    ∃ cause, .failed cause ∈ askEach { limit } pieces)

/-- Some of the pieces are above the limit together and still less than so many bytes. -/
def Crowds (limit size : Nat) (buffer : Bytes) (pieces : List Bytes) : Prop :=
  ∃ early, early <+: pieces ∧ limit < (buffer ++ early.flatten).length ∧ (buffer ++ early.flatten).length < size

section

variable {limit : Nat} {frame : Frame} {buffer : Bytes} {pieces : List Bytes}

theorem next_begun (limit : Nat) (lined : frame.Lined) (start : buffer <+: frame.encode)
    (short : buffer.length < frame.encode.length) :
    (∃ cause, next { limit, buffer } = (.failed cause, { limit, buffer })) ∨
    next { limit, buffer } = (.incomplete, { limit, buffer }) :=
  next_unfinished fun _ _ => Frame.readInside_proper limit lined start short

private theorem next_begun_fits (lined : frame.Lined) (fits : frame.Fits limit) (start : buffer <+: frame.encode)
    (short : buffer.length < frame.encode.length) :
    next { limit, buffer } =
      (if limit < buffer.length then .failed .bufferTooLong else .incomplete, { limit, buffer }) := by
  cases read : Frame.readInside limit [] buffer with
  | incomplete =>
    by_cases full : limit < buffer.length
    · simp only [next, Frame.decode, read, if_pos full]
    · simp only [next, Frame.decode, read, if_neg full]
  | complete found rest => exact absurd read (Frame.readInside_proper limit lined start short)
  | malformed cause =>
    -- The objection would stand with the missing bytes behind, but the whole frame is read.
    obtain ⟨behind, form⟩ := start
    have whole := Frame.readInside_encode limit [] frame lined []
    rcases Frame.readInside_append limit [] buffer behind with waits | same
    · cases read.symm.trans waits
    · rw [List.append_nil, fits.fault?, ← form, same, read] at whole
      cases whole

private theorem next_begun_crowded (lined : frame.Lined) (start : buffer <+: frame.encode)
    (short : buffer.length < frame.encode.length) (crowded : limit < buffer.length) :
    ∃ cause, next { limit, buffer } = (.failed cause, { limit, buffer }) := by
  cases read : Frame.readInside limit [] buffer with
  | incomplete => exact ⟨.bufferTooLong, by simp only [next, Frame.decode, read, if_pos crowded]⟩
  | malformed cause => exact ⟨cause, next_malformed read⟩
  | complete found rest => exact absurd read (Frame.readInside_proper limit lined start short)

theorem next_refused (lined : frame.Lined) (unfit : ¬ frame.Fits limit) :
    ∃ cause, next { limit, buffer := frame.encode } = (.failed cause, { limit, buffer := frame.encode }) := by
  have read := Frame.readInside_encode limit [] frame lined []
  rw [List.append_nil] at read
  cases objection : frame.fault? limit with
  | none => exact absurd (Frame.fault?_eq_none.mp objection) unfit
  | some cause =>
    rw [objection] at read
    exact ⟨cause, next_malformed read⟩

theorem next_whole (lined : frame.Lined) (fits : frame.Fits limit) :
    next { limit, buffer := frame.encode } = (.frame frame.asRead, { limit }) := by
  have taken := next_encoded lined fits []
  rwa [List.append_nil] at taken

theorem next_empty (limit : Nat) : next { limit } = (.incomplete, { limit }) := by
  rw [next, Frame.decode, Frame.readInside_step]
  rfl

/-- Without new bytes the answer stays the same, for as long as it takes nothing. -/
theorem askEach_unchanged {decoder : Decoder} {answer : Answer} (stays : decoder.next = (answer, decoder))
    (nothing : pieces.flatten = []) : ∀ other ∈ decoder.askEach pieces, other = answer := by
  induction pieces with
  | nil => exact nofun
  | cons piece pieces ih =>
    obtain ⟨rfl, later⟩ : piece = [] ∧ pieces.flatten = [] := List.append_eq_nil_iff.mp nothing
    rw [askEach, append_nil, stays]
    intro other member
    rcases List.mem_cons.mp member with rfl | member
    · rfl
    · exact ih later other member

theorem askEach_cons {rest : Decoder} {piece : Bytes} {answer : Answer}
    (asked : next { limit, buffer := buffer ++ piece } = (answer, rest)) :
    askEach { limit, buffer } (piece :: pieces) = answer :: rest.askEach pieces := by
  rw [askEach, append, asked]

/-- Either more of the frame is still to come or this piece was the last with a byte of it. -/
theorem arrived (cut : buffer ++ pieces.flatten = frame.encode) :
    (buffer <+: frame.encode ∧ buffer.length < frame.encode.length) ∨ (buffer = frame.encode ∧ pieces.flatten = []) := by
  by_cases last : pieces.flatten = []
  · rw [last, List.append_nil] at cut
    exact .inr ⟨cut, last⟩
  · have some := List.length_pos_iff.mpr last
    have size := congrArg List.length cut
    rw [List.length_append] at size
    exact .inl ⟨⟨_, cut⟩, by omega⟩

private theorem frame_mem_askEach (limit : Nat) (lined : frame.Lined) (cut : buffer ++ pieces.flatten = frame.encode)
    (short : buffer.length < frame.encode.length) (found : Frame) :
    .frame found ∈ askEach { limit, buffer } pieces ↔ found = frame.asRead ∧ frame.Fits limit := by
  induction pieces generalizing buffer with
  | nil =>
    rw [List.flatten_nil, List.append_nil] at cut
    exact absurd (congrArg List.length cut) (Nat.ne_of_lt short)
  | cons piece pieces ih =>
    rw [List.flatten_cons, ← List.append_assoc] at cut
    rcases arrived cut with ⟨start, goesOn⟩ | ⟨whole, last⟩
    · have later := ih cut goesOn
      rcases next_begun limit lined start goesOn with ⟨cause, failed⟩ | waits
      · rw [askEach_cons failed, ← later]
        simp
      · rw [askEach_cons waits, ← later]
        simp
    · by_cases fits : frame.Fits limit
      · have taken := next_whole lined fits
        rw [← whole] at taken
        have idle := askEach_unchanged (next_empty limit) last
        rw [askEach_cons taken]
        constructor
        · intro member
          rcases List.mem_cons.mp member with same | member
          · cases same
            exact ⟨rfl, fits⟩
          · cases idle _ member
        · rintro ⟨rfl, -⟩
          exact List.mem_cons_self
      · obtain ⟨cause, failed⟩ := next_refused lined fits
        rw [← whole] at failed
        have stuck := askEach_unchanged failed last
        rw [askEach_cons failed]
        refine ⟨fun member => ?_, fun taken => absurd taken.2 fits⟩
        rcases List.mem_cons.mp member with same | member
        · cases same
        · cases stuck _ member

private theorem crowds_cons {size : Nat} {piece : Bytes} : Crowds limit size buffer (piece :: pieces) ↔
    (limit < buffer.length ∧ buffer.length < size) ∨ Crowds limit size (buffer ++ piece) pieces := by
  constructor
  · rintro ⟨early, start, above, begun⟩
    rcases List.prefix_cons_iff.mp start with rfl | ⟨early, rfl, behind⟩
    · rw [List.flatten_nil, List.append_nil] at above begun
      exact .inl ⟨above, begun⟩
    · rw [List.flatten_cons, ← List.append_assoc] at above begun
      exact .inr ⟨early, behind, above, begun⟩
  · rintro (⟨above, begun⟩ | ⟨early, start, above, begun⟩)
    · exact ⟨[], List.nil_prefix, by simpa using above, by simpa using begun⟩
    · rw [List.append_assoc, ← List.flatten_cons] at above begun
      exact ⟨piece :: early, List.prefix_cons_iff.mpr (.inr ⟨early, rfl, start⟩), above, begun⟩

private theorem not_crowds_whole : ¬ Crowds limit buffer.length buffer pieces := by
  rintro ⟨early, -, -, begun⟩
  rw [List.length_append] at begun
  omega

/-- A failure comes from a length in the frame, or from a cut above the limit. -/
theorem failed_mem_askEach (lined : frame.Lined) (cut : buffer ++ pieces.flatten = frame.encode)
    (short : buffer.length < frame.encode.length) (small : buffer.length ≤ limit) :
    (∃ cause, .failed cause ∈ askEach { limit, buffer } pieces) ↔
      ¬ frame.Fits limit ∨ Crowds limit frame.encode.length buffer pieces := by
  induction pieces generalizing buffer with
  | nil =>
    rw [List.flatten_nil, List.append_nil] at cut
    exact absurd (congrArg List.length cut) (Nat.ne_of_lt short)
  | cons piece pieces ih =>
    rw [List.flatten_cons, ← List.append_assoc] at cut
    have room : ¬ (limit < buffer.length ∧ buffer.length < frame.encode.length) := fun now =>
      Nat.not_lt.mpr small now.1
    rw [crowds_cons, or_iff_right room]
    rcases arrived cut with ⟨start, goesOn⟩ | ⟨whole, last⟩
    · by_cases full : limit < (buffer ++ piece).length
      · obtain ⟨cause, failed⟩ := next_begun_crowded lined start goesOn full
        rw [askEach_cons failed]
        exact iff_of_true ⟨cause, List.mem_cons_self⟩
          (.inr ⟨[], List.nil_prefix, by simpa using full, by simpa using goesOn⟩)
      · rcases next_begun limit lined start goesOn with ⟨cause, failed⟩ | waits
        · have unfit : ¬ frame.Fits limit := by
            intro fits
            rw [next_begun_fits lined fits start goesOn, if_neg full] at failed
            cases failed
          rw [askEach_cons failed]
          exact iff_of_true ⟨cause, List.mem_cons_self⟩ (.inl unfit)
        · rw [askEach_cons waits, ← ih cut goesOn (Nat.not_lt.mp full)]
          simp
    · rw [whole, or_iff_left not_crowds_whole]
      by_cases fits : frame.Fits limit
      · have taken := next_whole lined fits
        rw [← whole] at taken
        have idle := askEach_unchanged (next_empty limit) last
        rw [askEach_cons taken]
        refine iff_of_false ?_ (not_not_intro fits)
        rintro ⟨cause, member⟩
        rcases List.mem_cons.mp member with same | member
        · cases same
        · cases idle _ member
      · obtain ⟨cause, failed⟩ := next_refused lined fits
        rw [← whole] at failed
        rw [askEach_cons failed]
        exact iff_of_true ⟨cause, List.mem_cons_self⟩ fits

end

/-- However a frame is cut, it is found if and only if every length in it is accepted. There is a failure if and only if
some length is not, or the frame is still incomplete when the pieces come to more than the limit. So the limit is kept
as one on the size of the frame exactly where it comes to the same as the limits on its lengths. -/
theorem keepsSize_iff {limit : Nat} {frame : Frame} {pieces : List Bytes} (lined : frame.Lined)
    (cut : pieces.flatten = frame.encode) :
    (∀ found, .frame found ∈ askEach { limit } pieces ↔ found = frame.asRead ∧ frame.Fits limit) ∧
    ((∃ cause, .failed cause ∈ askEach { limit } pieces) ↔ ¬ frame.Fits limit ∨
      ∃ early, early <+: pieces ∧ limit < early.flatten.length ∧ early.flatten.length < frame.encode.length) ∧
    (KeepsSize limit frame pieces ↔ (frame.Fits limit ↔ frame.encode.length ≤ limit)) := by
  have some : ([] : Bytes).length < frame.encode.length := List.length_pos_iff.mpr (Frame.encode_ne_nil frame)
  have whole : [] ++ pieces.flatten = frame.encode := cut
  have found := frame_mem_askEach limit lined whole some
  have failed := failed_mem_askEach lined whole some (Nat.zero_le limit)
  refine ⟨found, failed, ?_, fun same => ⟨fun small => ?_, fun large => ?_⟩⟩
  · rintro ⟨returned, refused⟩
    refine ⟨fun fits => Nat.not_lt.mp fun large => ?_, fun small => ((found _).mp (returned small)).2⟩
    exact (refused large).1 frame.asRead ((found _).mpr ⟨rfl, fits⟩)
  · exact (found _).mpr ⟨rfl, same.mpr small⟩
  · have unfit : ¬ frame.Fits limit := fun fits => Nat.not_lt.mpr (same.mp fits) large
    exact ⟨fun other member => unfit ((found other).mp member).2, failed.mpr (.inl unfit)⟩

/-- An array of eleven bytes in three pieces, at the lowest limit that leaves it its one item and just below. -/
theorem keepsSize_iff_one_item :
    let frame : Frame := .array [.bulk (some [120])]
    let pieces : List Bytes := [[42, 49, 13], [10, 36, 49, 13, 10], [120, 13, 10]]
    frame.Lined ∧ pieces.flatten = frame.encode ∧ KeepsSize 16 frame pieces ∧ ¬ KeepsSize 15 frame pieces := by
  intro frame pieces
  have lined : frame.Lined := ⟨trivial, trivial⟩
  have cut : pieces.flatten = frame.encode := by decide +kernel
  have fits : frame.Fits 16 := ⟨by decide, by decide, ⟨by decide, by decide⟩, trivial⟩
  have unfit : ¬ frame.Fits 15 := fun fits => absurd fits.1 (by decide)
  refine ⟨lined, cut, (keepsSize_iff lined cut).2.2.mpr (iff_of_true fits (by decide +kernel)), fun kept => ?_⟩
  exact unfit (((keepsSize_iff lined cut).2.2.mp kept).mpr (by decide +kernel))

/-- A line of 23 bytes is found whole at a limit of ten, and an array of seven bytes is refused at a limit of fifteen. -/
theorem size_not_kept :
    let line : Frame := .simple (List.replicate 20 120)
    let array : Frame := .array [.simple []]
    (line.Lined ∧ ¬ KeepsSize 10 line [line.encode]) ∧ array.Lined ∧ ¬ KeepsSize 15 array [array.encode] := by
  intro line array
  refine ⟨⟨?_, fun kept => ?_⟩, ⟨?_, trivial⟩, fun kept => ?_⟩
  · change ¬ Bytes.lineEnd <:+: List.replicate 20 120
    decide
  · have large : 10 < line.encode.length := by decide
    exact (kept.2 large).1 line (by decide +kernel)
  · change ¬ Bytes.lineEnd <:+: []
    decide
  · have small : array.encode.length ≤ 15 := by decide +kernel
    exact absurd (kept.1 small) (by decide +kernel)

end Decoder

end Subscriber
