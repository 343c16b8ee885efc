import Subscriber.Proofs.Numerals

/-! The grammar of the wire format, and that the decoder accepts it exactly. A frame has many written forms, since
numbers may carry signs and leading zeros, but every text begins with the written form of one frame at most. -/

namespace Subscriber

namespace Bytes

private theorem oneLine_cons {first : UInt8} {text : Bytes} (oneLine : OneLine text)
    (goesOn : ¬ (first = 13 ∧ text.head? = some 10)) : OneLine (first :: text) := by
  intro inside
  rcases List.infix_cons_iff.mp inside with start | later
  · obtain ⟨behind, form⟩ := start
    cases form
    exact goesOn ⟨rfl, rfl⟩
  · exact oneLine later

private theorem splitLine_some {passed bytes line rest : Bytes} (found : splitLine passed bytes = some (line, rest)) :
    ∃ text, OneLine text ∧ line = passed.reverse ++ text ∧ bytes = text ++ lineEnd ++ rest := by
  fun_induction splitLine passed bytes with
  | case1 => cases found
  | case2 => cases found
  | case3 passed first second behind ends =>
    obtain ⟨rfl, rfl⟩ := ends
    cases found
    exact ⟨[], oneLine_of_not_mem List.not_mem_nil, (List.append_nil _).symm, rfl⟩
  | case4 passed first second behind goesOn ih =>
    obtain ⟨text, oneLine, rfl, form⟩ := ih found
    have unbroken : ¬ (first = 13 ∧ text.head? = some 10) := by
      rintro ⟨return', feed⟩
      obtain ⟨later, rfl⟩ := List.head?_eq_some_iff.mp feed
      cases form
      exact goesOn ⟨return', rfl⟩
    exact ⟨first :: text, oneLine_cons oneLine unbroken, by simp, by rw [form]; rfl⟩

private theorem splitLine_found {bytes line rest : Bytes} (found : splitLine [] bytes = some (line, rest)) :
    OneLine line ∧ bytes = line ++ lineEnd ++ rest := by
  obtain ⟨text, oneLine, rfl, form⟩ := splitLine_some found
  exact ⟨oneLine, form⟩

end Bytes

namespace Frame
open Decimal (Numeral)

/-- The written forms of the frames that hold no other frames: a tag and a line, and a payload if one follows. -/
inductive Single (limit : Nat) : Frame → Bytes → Prop where
  | simple {text : Bytes} (oneLine : Bytes.OneLine text) : Single limit (.simple text) (line '+'.toUInt8 text)
  | error {text : Bytes} (oneLine : Bytes.OneLine text) : Single limit (.error text) (line '-'.toUInt8 text)
  | integer {numeral : Bytes} {value : Int64} (reads : Numeral numeral value.toInt) :
    Single limit (.integer value) (line ':'.toUInt8 numeral)
  | nullPayload {numeral : Bytes} {length : Int64} (reads : Numeral numeral length.toInt) (negative : length.toInt < 0) :
    Single limit (.bulk none) (line '$'.toUInt8 numeral)
  | payload {numeral content : Bytes} {length : Int64} (reads : Numeral numeral length.toInt)
      (counts : length.toInt = content.length) (small : content.length ≤ limit) :
    Single limit (.bulk (some content)) (line '$'.toUInt8 numeral ++ (content ++ Bytes.lineEnd))
  | nullArray {numeral : Bytes} {count : Int64} (reads : Numeral numeral count.toInt) (negative : count.toInt < 0) :
    Single limit .null (line '*'.toUInt8 numeral)

/-- The line before the items of an array. -/
inductive Announces (limit : Nat) (items : Nat) : Bytes → Prop where
  | line {numeral : Bytes} {count : Int64} (reads : Numeral numeral count.toInt) (counts : count.toInt = items)
      (few : items ≤ limit / 16) : Announces limit items (Frame.line '*'.toUInt8 numeral)

mutual

/-- The written forms of a frame. The items of an array stand one after the other behind their number. -/
inductive Written (limit : Nat) : Frame → Bytes → Prop where
  | single {frame : Frame} {text : Bytes} (form : Single limit frame text) : Written limit frame text
  | array {items : List Frame} {first inside : Bytes} (announced : Announces limit items.length first)
      (written : WrittenItems limit items inside) : Written limit (.array items) (first ++ inside)

inductive WrittenItems (limit : Nat) : List Frame → Bytes → Prop where
  | nil : WrittenItems limit [] []
  | cons {item : Frame} {items : List Frame} {first others : Bytes} (written : Written limit item first)
      (later : WrittenItems limit items others) : WrittenItems limit (item :: items) (first ++ others)

end

theorem line_length (tag : UInt8) (text : Bytes) : (line tag text).length = text.length + 3 := by
  simp [line, Bytes.lineEnd]

theorem Single.length {limit : Nat} {frame : Frame} {text : Bytes} (form : Single limit frame text) : 3 ≤ text.length := by
  cases form with
  | payload => rw [List.length_append, line_length]; omega
  | _ => rw [line_length]; omega

theorem Announces.length {limit items : Nat} {text : Bytes} (announced : Announces limit items text) :
    3 ≤ text.length := by
  cases announced with
  | line => rw [line_length]; omega

theorem Written.length {limit : Nat} {frame : Frame} {text : Bytes} (written : Written limit frame text) :
    3 ≤ text.length := by
  cases written with
  | single form => exact form.length
  | array announced inside =>
    have first := announced.length
    rw [List.length_append]
    omega

/-- What a reader takes at once: a frame that holds no others, or the line before the items of an array. -/
inductive Starts (limit : Nat) : Head → Bytes → Prop where
  | whole {frame : Frame} {text : Bytes} (form : Single limit frame text) : Starts limit (.whole frame) text
  | items {count : Nat} {text : Bytes} (announced : Announces limit count text) : Starts limit (.items count) text

private theorem payload_complete {length : Nat} {bytes rest : Bytes} {value : Head}
    (read : payload length bytes = .complete value rest) : ∃ content, content.length = length ∧
      value = .whole (.bulk (some content)) ∧ bytes = content ++ Bytes.lineEnd ++ rest := by
  unfold payload at read
  split at read
  next content first second behind parts =>
    split at read
    next ends =>
      obtain ⟨rfl, rfl⟩ := ends
      cases read
      rw [List.splitAt_eq, Prod.mk.injEq] at parts
      obtain ⟨rfl, behind⟩ := parts
      have size := congrArg List.length behind
      rw [List.length_drop, List.length_cons, List.length_cons] at size
      refine ⟨bytes.take length, List.length_take_of_le (by omega), rfl, ?_⟩
      have whole := List.take_append_drop length bytes
      rw [behind] at whole
      simpa [Bytes.lineEnd] using whole.symm
    next => cases read
  next => cases read

private theorem counted {n : Int64} {size : Nat} (counts : n.toInt = size) : ¬ n.toInt < 0 ∧ n.toInt.toNat = size := by
  rw [counts]
  exact ⟨Int.not_lt.mpr (Int.natCast_nonneg size), Int.toNat_natCast size⟩

private theorem Starts.head {limit : Nat} {value : Head} {text : Bytes} (starts : Starts limit value text) (rest : Bytes) :
    Frame.head limit (text ++ rest) = .complete value rest := by
  have said {numeral : Bytes} {n : Int64} (reads : Numeral numeral n.toInt) : Decimal.int64? numeral = some n :=
    Decimal.int64?_eq_some_iff.mpr reads
  cases starts with
  | whole form =>
    cases form with
    | simple oneLine | error oneLine =>
      simp only [line, List.cons_append, Frame.head, splitLine_encoded oneLine]
      rfl
    | integer reads =>
      simp only [line, List.cons_append, Frame.head, splitLine_encoded reads.oneLine, said reads]
      rfl
    | nullPayload reads negative | nullArray reads negative =>
      simp only [line, List.cons_append, Frame.head, splitLine_encoded reads.oneLine, said reads, if_pos negative]
      rfl
    | payload reads counts small =>
      obtain ⟨positive, size⟩ := counted counts
      rw [List.append_assoc]
      simp only [line, List.cons_append, Frame.head, splitLine_encoded reads.oneLine, said reads, if_neg positive, size,
        if_neg (Nat.not_lt.mpr small), payload_encoded]
      rfl
  | items announced =>
    cases announced with
    | line reads counts few =>
      obtain ⟨positive, size⟩ := counted counts
      simp only [line, List.cons_append, Frame.head, splitLine_encoded reads.oneLine, said reads, if_neg positive, size,
        if_neg (Nat.not_lt.mpr few)]
      rfl

theorem head_starts {limit : Nat} {bytes rest : Bytes} {value : Head} (read : head limit bytes = .complete value rest) :
    ∃ text, Starts limit value text ∧ bytes = text ++ rest := by
  unfold head at read
  split at read
  next => cases read
  next tag tail =>
    split at read
    next => cases read
    next text behind split =>
      obtain ⟨oneLine, rfl⟩ := Bytes.splitLine_found split
      change ∃ form, Starts limit value form ∧ line tag text ++ behind = form ++ rest
      split at read
      next same =>
        subst same
        cases read
        exact ⟨_, .whole (.simple oneLine), rfl⟩
      split at read
      next same =>
        subst same
        cases read
        exact ⟨_, .whole (.error oneLine), rfl⟩
      split at read
      next same =>
        subst same
        split at read
        next => cases read
        next value found =>
          cases read
          exact ⟨_, .whole (.integer (Decimal.int64?_eq_some_iff.mp found)), rfl⟩
      split at read
      next same =>
        subst same
        split at read
        next => cases read
        next length found =>
          have reads := Decimal.int64?_eq_some_iff.mp found
          split at read
          next negative =>
            cases read
            exact ⟨_, .whole (.nullPayload reads negative), rfl⟩
          next positive =>
            split at read
            next => cases read
            next small =>
              obtain ⟨content, size, rfl, rfl⟩ := payload_complete read
              rw [← size] at small
              have counts : length.toInt = content.length := by omega
              exact ⟨_, .whole (.payload reads counts (Nat.not_lt.mp small)), (List.append_assoc _ _ _).symm⟩
      split at read
      next same =>
        subst same
        split at read
        next => cases read
        next count found =>
          have reads := Decimal.int64?_eq_some_iff.mp found
          split at read
          next negative =>
            cases read
            exact ⟨_, .whole (.nullArray reads negative), rfl⟩
          next positive =>
            split at read
            next => cases read
            next few =>
              cases read
              exact ⟨_, .items (.line reads (by omega) (Nat.not_lt.mp few)), rfl⟩
      next => cases read

mutual

/-- Wherever a written form stands, the reader comes to its end with the frame. -/
theorem Written.read {limit : Nat} {frame : Frame} {text : Bytes} (written : Written limit frame text)
    (outer : List Opening) (rest : Bytes) : readInside limit outer (text ++ rest) = resume limit outer frame rest := by
  match written with
  | .single form => rw [readInside_step, (Starts.whole form).head]
  | @Written.array _ [] _ _ announced .nil =>
    rw [List.append_nil, readInside_step, (Starts.items announced).head]
    rfl
  | @Written.array _ (_ :: _) _ _ announced inside =>
    rw [List.append_assoc, readInside_step, (Starts.items announced).head]
    exact inside.read (List.cons_ne_nil _ _) outer [] rest

theorem WrittenItems.read {limit : Nat} {items : List Frame} {text : Bytes} (written : WrittenItems limit items text)
    (inhabited : items ≠ []) (outer : List Opening) (read : List Frame) (rest : Bytes) :
    readInside limit ({ missing := items.length - 1, read } :: outer) (text ++ rest) =
      resume limit outer (.array (read.reverse ++ items)) rest := by
  match written with
  | .nil => exact absurd rfl inhabited
  | .cons first .nil =>
    rw [List.append_nil, first.read, List.length_singleton, resume_last, List.reverse_cons]
  | @WrittenItems.cons _ item _ _ _ first (.cons second later) =>
    have others := (WrittenItems.cons second later).read (List.cons_ne_nil _ _) outer (item :: read) rest
    rw [List.append_assoc, first.read, List.length_cons, List.length_cons, Nat.add_sub_cancel, resume_next]
    rw [List.length_cons, Nat.add_sub_cancel] at others
    rw [others, List.reverse_cons, List.append_assoc, List.singleton_append]

end

mutual

/-- What the reader goes on with is a frame whose written form it has just passed. -/
theorem readInside_written {limit : Nat} {outer : List Opening} {bytes rest : Bytes} {frame : Frame}
    (read : readInside limit outer bytes = .complete frame rest) :
    ∃ inner text behind, Written limit inner text ∧ bytes = text ++ behind ∧
      resume limit outer inner behind = .complete frame rest := by
  rw [readInside_step] at read
  split at read
  next => cases read
  next => cases read
  next missing behind found =>
    have shorter := head_shorter found
    obtain ⟨first, starts, form⟩ := head_starts found
    obtain ⟨items, inside, last, size, written, parts, resumed⟩ := readInside_writtenItems read
    cases starts with
    | items announced =>
      refine ⟨.array items, first ++ inside, last, .array (size ▸ announced) written, ?_, resumed⟩
      rw [form, parts, List.append_assoc]
  next behind found =>
    obtain ⟨first, starts, form⟩ := head_starts found
    cases starts with
    | items announced =>
      exact ⟨.array [], first ++ [], behind, .array announced .nil, by rw [form, List.append_nil], read⟩
  next inner behind found =>
    obtain ⟨text, starts, form⟩ := head_starts found
    cases starts with
    | whole single => exact ⟨inner, text, behind, .single single, form, read⟩
termination_by (bytes.length, 0)

theorem readInside_writtenItems {limit missing : Nat} {before : List Frame} {outer : List Opening} {bytes rest : Bytes}
    {frame : Frame} (read : readInside limit ({ missing, read := before } :: outer) bytes = .complete frame rest) :
    ∃ items text behind, items.length = missing + 1 ∧ WrittenItems limit items text ∧ bytes = text ++ behind ∧
      resume limit outer (.array (before.reverse ++ items)) behind = .complete frame rest := by
  obtain ⟨item, first, behind, written, form, resumed⟩ := readInside_written read
  have shorter : behind.length < bytes.length := by
    have some := written.length
    rw [form, List.length_append]
    omega
  cases missing with
  | zero =>
    rw [resume_last, List.reverse_cons] at resumed
    exact ⟨[item], first ++ [], behind, rfl, .cons written .nil, by rw [form, List.append_nil], resumed⟩
  | succ missing =>
    rw [resume_next] at resumed
    obtain ⟨items, others, last, size, later, parts, finished⟩ := readInside_writtenItems resumed
    rw [List.reverse_cons, List.append_assoc, List.singleton_append] at finished
    refine ⟨item :: items, first ++ others, last, congrArg (· + 1) size, .cons written later, ?_, finished⟩
    rw [form, parts, List.append_assoc]
termination_by (bytes.length, 1)

end

private theorem decode_complete {limit : Nat} {buffer rest : Bytes} {frame : Frame} :
    decode limit buffer = .complete frame rest ↔ readInside limit [] buffer = .complete frame rest := by
  unfold decode
  split
  next waits =>
    rw [waits]
    constructor
    · split <;> nofun
    · nofun
  next => rfl

/-- The decoder takes a frame from a buffer exactly if the buffer begins with a written form of it. -/
theorem decode_complete_iff_written {limit : Nat} {buffer rest : Bytes} {frame : Frame} :
    decode limit buffer = .complete frame rest ↔ ∃ text, Written limit frame text ∧ buffer = text ++ rest := by
  rw [decode_complete]
  constructor
  · intro read
    obtain ⟨inner, text, behind, written, form, resumed⟩ := readInside_written read
    cases resumed
    exact ⟨text, written, form⟩
  · rintro ⟨text, written, rfl⟩
    exact written.read [] rest

/-- Signs and leading zeros are read and never written. -/
example : Written 16 (.array [.integer 0]) (Bytes.ofText "*+01\r\n:-0\r\n") := by
  have read : decode 16 (Bytes.ofText "*+01\r\n:-0\r\n") = .complete (.array [.integer 0]) [] := by decide +kernel
  obtain ⟨text, written, form⟩ := decode_complete_iff_written.mp read
  rwa [form, List.append_nil]

/-- Where the reader goes on when it has to read another frame inside an array. -/
def onward (limit : Nat) (place : List Opening × Bytes) : Option (List Opening × Bytes) :=
  match head limit place.2 with
  | .complete (.items (missing + 1)) rest => some ({ missing } :: place.1, rest)
  | .complete (.items 0) rest => (settle place.1 (.array [])).getRight?.map (·, rest)
  | .complete (.whole frame) rest => (settle place.1 frame).getRight?.map (·, rest)
  | _ => none

private theorem Starts.length {limit : Nat} {value : Head} {text : Bytes} (starts : Starts limit value text) :
    3 ≤ text.length := by
  cases starts with
  | whole form => exact form.length
  | items announced => exact announced.length

private theorem resume_onward (limit : Nat) {outer : List Opening} {frame : Frame} {rest : Bytes} {next : List Opening × Bytes}
    (goesOn : (settle outer frame).getRight?.map (·, rest) = some next) :
    resume limit outer frame rest = readInside limit next.1 next.2 ∧ next.2 = rest := by
  unfold resume
  cases found : settle outer frame with
  | inl whole =>
    rw [found] at goesOn
    cases goesOn
  | inr inner =>
    rw [found] at goesOn
    cases goesOn
    exact ⟨rfl, rfl⟩

/-- The reader goes on strictly later in the buffer, and what it finds there is what it finds. -/
theorem onward_later {limit : Nat} {place next : List Opening × Bytes} (goesOn : onward limit place = some next) :
    readInside limit place.1 place.2 = readInside limit next.1 next.2 ∧
      ∃ passed, passed ≠ [] ∧ place.2 = passed ++ next.2 := by
  have later {value : Head} {rest : Bytes} (found : head limit place.2 = .complete value rest) :
      ∃ passed, passed ≠ [] ∧ place.2 = passed ++ rest := by
    obtain ⟨text, starts, form⟩ := head_starts found
    have some := starts.length
    exact ⟨text, List.ne_nil_of_length_pos (by omega), form⟩
  rw [readInside_step]
  unfold onward at goesOn
  split at goesOn
  next missing rest found =>
    cases goesOn
    rw [found]
    exact ⟨rfl, later found⟩
  next rest found =>
    obtain ⟨resumed, same⟩ := resume_onward limit goesOn
    rw [found]
    exact ⟨resumed, same ▸ later found⟩
  next frame rest found =>
    obtain ⟨resumed, same⟩ := resume_onward limit goesOn
    rw [found]
    exact ⟨resumed, same ▸ later found⟩
  next => cases goesOn

private theorem onward_wellFounded (limit : Nat) : WellFounded fun next place => onward limit place = some next := by
  apply Subrelation.wf _ (measure fun place : List Opening × Bytes => place.2.length).wf
  intro next place goesOn
  obtain ⟨-, passed, some, form⟩ := onward_later goesOn
  have size := List.length_pos_of_ne_nil some
  change next.2.length < place.2.length
  rw [form, List.length_append]
  omega

end Frame

namespace Decoder

/-- Asked for a frame, a decoder gives this one and takes so many bytes from its buffer. -/
def Takes (limit : Nat) (buffer : Bytes) (frame : Frame) (n : Nat) : Prop :=
  n ≤ buffer.length ∧ next { limit, buffer } = (.frame frame, { limit, buffer := buffer.drop n })

private theorem takes_iff_decode {limit : Nat} {buffer : Bytes} {frame : Frame} {n : Nat} (inside : n ≤ buffer.length) :
    Takes limit buffer frame n ↔ Frame.decode limit buffer = .complete frame (buffer.drop n) := by
  unfold Takes next
  dsimp only
  split
  next found => simp [found]
  next found => simp [found]
  next found => simp [found, inside]

private theorem takes_iff_written {limit : Nat} {buffer : Bytes} {frame : Frame} {n : Nat} :
    Takes limit buffer frame n ↔ n ≤ buffer.length ∧ Frame.Written limit frame (buffer.take n) := by
  by_cases inside : n ≤ buffer.length
  · rw [takes_iff_decode inside, Frame.decode_complete_iff_written]
    have parts := List.take_append_drop n buffer
    constructor
    · rintro ⟨text, written, form⟩
      have same : text = buffer.take n := List.append_cancel_right (form.symm.trans parts.symm)
      exact ⟨inside, same ▸ written⟩
    · exact fun ⟨_, written⟩ => ⟨buffer.take n, written, parts.symm⟩
  · exact ⟨fun takes => absurd takes.1 inside, fun written => absurd written.1 inside⟩

private theorem Takes.unique {limit : Nat} {buffer : Bytes} {frame other : Frame} {n m : Nat}
    (takes : Takes limit buffer frame n) (again : Takes limit buffer other m) : frame = other ∧ n = m := by
  obtain ⟨same, left⟩ := Prod.mk.inj (takes.2.symm.trans again.2)
  refine ⟨Answer.frame.inj same, ?_⟩
  have size := congrArg (fun decoder : Decoder => decoder.buffer.length) left
  simp only [List.length_drop] at size
  have first := takes.1
  have second := again.1
  omega

/-- The decoder gives a frame and takes so many bytes exactly if these are a written form of the frame; that decides
the frame and their number. Inside arrays it goes on strictly later every time, so that it comes to an end. -/
theorem accepts_exactly_written (limit : Nat) (buffer : Bytes) :
    (∀ frame n, Takes limit buffer frame n ↔ n ≤ buffer.length ∧ Frame.Written limit frame (buffer.take n)) ∧
    (∀ frame n, Takes limit buffer frame n →
      (∀ other m, Takes limit buffer other m → frame = other ∧ n = m) ∧ 3 ≤ n ∧ n ≤ buffer.length) ∧
    (∀ place next, Frame.onward limit place = some next →
      Frame.readInside limit place.1 place.2 = Frame.readInside limit next.1 next.2 ∧
        ∃ passed, passed ≠ [] ∧ place.2 = passed ++ next.2) ∧
    WellFounded fun next place => Frame.onward limit place = some next := by
  refine ⟨fun _ _ => takes_iff_written, fun frame n takes => ⟨fun _ _ again => takes.unique again, ?_, takes.1⟩,
    fun _ _ => Frame.onward_later, Frame.onward_wellFounded limit⟩
  have size := (takes_iff_written.mp takes).2.length
  rwa [List.length_take_of_le takes.1] at size

end Decoder

end Subscriber
