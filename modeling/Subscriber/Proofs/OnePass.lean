import Subscriber.Proofs.Framing

/-! Reads of a connection. Whenever they are asked for, and however the bytes were cut, they find what one pass over
everything that has arrived finds: frames and read errors in their order, and behind them the end of what there is. -/

namespace Subscriber

def Incoming.finding? : Incoming → Option (Except IoError Frame)
  | .frame taken => some (.ok taken)
  | .failed (.io cause) => some (.error cause)
  | .failed _ | .pending => none

/-- What can be read of a stream, one thing after the other. -/
structure Course where
  findings : List (Except IoError Frame)
  /-- The bytes of a frame that is not complete, or why there will be no frame any more. -/
  ending : Except DecodeError Bytes

namespace Course

def behind (found : List (Except IoError Frame)) (course : Course) : Course :=
  { course with findings := found ++ course.findings }

/-- A course that goes on with the bytes it has left, unless they are no frame. -/
def followed (course : Course) (next : Bytes → Course) : Course :=
  match course.ending with
  | .error _ => course
  | .ok rest => (next rest).behind course.findings

/-- The frames that bytes begin with. -/
def ofBytes (limit : Nat) (bytes : Bytes) : Course :=
  match _read : Frame.readInside limit [] bytes with
  | .incomplete => { findings := [], ending := .ok bytes }
  | .malformed cause => { findings := [], ending := .error cause }
  | .complete frame rest => (ofBytes limit rest).behind [.ok frame]
termination_by bytes.length
decreasing_by exact Frame.readInside_shorter _read

/-- One pass over what has arrived, with some bytes in front of it. All bytes before a read error are taken together, and
those that are left over are taken with the bytes behind it. -/
def pass (limit : Nat) (bytes : Bytes) : List Arrival → Course
  | [] => ofBytes limit bytes
  | .piece more :: later => pass limit (bytes ++ more) later
  | .fault cause :: later =>
    (ofBytes limit bytes).followed fun rest => (pass limit rest later).behind [.error cause]

def answer (course : Course) (found : Nat) (ended : Bool) : Incoming :=
  match course.findings[found]? with
  | some (.ok frame) => .frame frame
  | some (.error cause) => .failed (.io cause)
  | none =>
    match course.ending with
    | .error cause => .failed (.decode cause)
    | .ok _ => if ended then .failed .connectionClosed else .pending

theorem behind_behind (first second : List (Except IoError Frame)) (course : Course) :
    (course.behind second).behind first = course.behind (first ++ second) := by
  simp only [behind, List.append_assoc]

private theorem followed_malformed {course : Course} {cause : DecodeError} (ends : course.ending = .error cause)
    (next : Bytes → Course) : course.followed next = course := by
  simp only [followed, ends]

theorem behind_followed (found : List (Except IoError Frame)) (course : Course) (next : Bytes → Course) :
    (course.behind found).followed next = (course.followed next).behind found := by
  cases ends : course.ending with
  | error cause => simp only [followed, behind, ends]
  | ok rest => simp only [followed, behind, ends, List.append_assoc]

theorem followed_followed (course : Course) (next last : Bytes → Course) :
    (course.followed next).followed last = course.followed fun rest => (next rest).followed last := by
  cases ends : course.ending with
  | error cause => simp only [followed, ends]
  | ok rest =>
    have goesOn (next : Bytes → Course) : course.followed next = (next rest).behind course.findings := by
      simp only [followed, ends]
    rw [goesOn, goesOn, behind_followed]

private theorem answer_malformed {course : Course} {found : Nat} {ended : Bool} {cause : DecodeError}
    (answered : course.answer found ended = .failed (.decode cause)) :
    course.findings.length ≤ found ∧ course.ending = .error cause := by
  unfold answer at answered
  split at answered
  next => cases answered
  next => cases answered
  next nothing =>
    refine ⟨List.getElem?_eq_none_iff.mp nothing, ?_⟩
    split at answered
    next ending =>
      cases answered
      exact ending
    next => split at answered <;> cases answered

theorem answer_behind (found : List (Except IoError Frame)) (course : Course) (ended : Bool) :
    (course.behind found).answer found.length ended = course.answer 0 ended := by
  simp only [answer, behind, List.getElem?_append_right (Nat.le_refl _), Nat.sub_self]

section
variable {limit : Nat} {bytes : Bytes}

theorem ofBytes_incomplete (read : Frame.readInside limit [] bytes = .incomplete) :
    ofBytes limit bytes = { findings := [], ending := .ok bytes } := by
  rw [ofBytes]
  split
  · rfl
  next found => cases read.symm.trans found
  next found => cases read.symm.trans found

theorem ofBytes_malformed {cause : DecodeError} (read : Frame.readInside limit [] bytes = .malformed cause) :
    ofBytes limit bytes = { findings := [], ending := .error cause } := by
  rw [ofBytes]
  split
  next found => cases read.symm.trans found
  next found => cases read.symm.trans found; rfl
  next found => cases read.symm.trans found

theorem ofBytes_complete {frame : Frame} {rest : Bytes} (read : Frame.readInside limit [] bytes = .complete frame rest) :
    ofBytes limit bytes = (ofBytes limit rest).behind [.ok frame] := by
  rw [ofBytes]
  split
  next found => cases read.symm.trans found
  next found => cases read.symm.trans found
  next found => cases read.symm.trans found; rfl

/-- With more bytes behind, what was found is found again. -/
theorem ofBytes_append (limit : Nat) (bytes more : Bytes) :
    ofBytes limit (bytes ++ more) = (ofBytes limit bytes).followed fun rest => ofBytes limit (rest ++ more) := by
  have extended := Frame.readInside_append limit [] bytes more
  cases read : Frame.readInside limit [] bytes with
  | incomplete =>
    rw [ofBytes_incomplete read]
    rfl
  | malformed cause =>
    rw [read] at extended
    have same := extended.resolve_left fun waits => by cases waits
    rw [ofBytes_malformed read, ofBytes_malformed same]
    rfl
  | complete frame rest =>
    rw [read] at extended
    have same := extended.resolve_left fun waits => by cases waits
    have shorter := Frame.readInside_shorter read
    rw [ofBytes_complete read, ofBytes_complete same, ofBytes_append limit rest more, behind_followed]
termination_by bytes.length

private theorem ofBytes_again (limit : Nat) (bytes : Bytes) :
    (ofBytes limit bytes).followed (ofBytes limit) = ofBytes limit bytes := by
  have again := ofBytes_append limit bytes []
  simp only [List.append_nil] at again
  exact again.symm

/-- The frames among the first bytes are found first. -/
theorem pass_eq (limit : Nat) (bytes : Bytes) (queue : List Arrival) :
    pass limit bytes queue = (ofBytes limit bytes).followed fun rest => pass limit rest queue := by
  induction queue generalizing bytes with
  | nil => exact (ofBytes_again limit bytes).symm
  | cons arrival queue ih =>
    cases arrival with
    | piece more =>
      calc pass limit (bytes ++ more) queue
        _ = (ofBytes limit (bytes ++ more)).followed fun rest => pass limit rest queue := ih _
        _ = (ofBytes limit bytes).followed fun rest =>
              (ofBytes limit (rest ++ more)).followed fun rest => pass limit rest queue := by
          rw [ofBytes_append, followed_followed]
        _ = (ofBytes limit bytes).followed fun rest => pass limit (rest ++ more) queue := by
          simp only [← ih]
    | fault cause =>
      change (ofBytes limit bytes).followed _ = _
      rw [← ofBytes_again, followed_followed, ofBytes_again]
      rfl

/-- A pass goes on with what arrives later. -/
theorem pass_append (limit : Nat) (bytes : Bytes) (queue more : List Arrival) :
    pass limit bytes (queue ++ more) = (pass limit bytes queue).followed fun rest => pass limit rest more := by
  induction queue generalizing bytes with
  | nil => exact pass_eq limit bytes more
  | cons arrival queue ih =>
    cases arrival with
    | piece piece => exact ih (bytes ++ piece)
    | fault cause =>
      simp only [List.cons_append, pass, followed_followed, ih, behind_followed]

private theorem pass_complete {frame : Frame} {rest : Bytes} (read : Frame.readInside limit [] bytes = .complete frame rest)
    (queue : List Arrival) : pass limit bytes queue = (pass limit rest queue).behind [.ok frame] := by
  rw [pass_eq, ofBytes_complete read, behind_followed, ← pass_eq]

private theorem pass_malformed {cause : DecodeError} (read : Frame.readInside limit [] bytes = .malformed cause)
    (queue : List Arrival) : pass limit bytes queue = { findings := [], ending := .error cause } := by
  rw [pass_eq, ofBytes_malformed read]
  rfl

private theorem pass_fault (read : Frame.readInside limit [] bytes = .incomplete) (cause : IoError) (later : List Arrival) :
    pass limit bytes (.fault cause :: later) = (pass limit bytes later).behind [.error cause] := by
  rw [pass, ofBytes_incomplete read]
  rfl

/-- Where a piece is cut makes no difference to a pass. -/
theorem pass_next (limit : Nat) (bytes : Bytes) (queue : List Arrival) :
    pass limit bytes queue =
      match Arrival.next? queue with
      | none => pass limit bytes []
      | some (.error cause, later) => pass limit bytes (.fault cause :: later)
      | some (.ok now, later) => pass limit (bytes ++ now) later := by
  induction queue generalizing bytes with
  | nil => rfl
  | cons arrival queue ih =>
    match arrival with
    | .fault cause => rfl
    | .piece [] =>
      have unnoticed : pass limit bytes (.piece [] :: queue) = pass limit bytes queue := by
        simp only [pass, List.append_nil]
      rw [unnoticed, Arrival.next?]
      exact ih bytes
    | .piece (first :: others) =>
      have whole := List.take_append_drop Arrival.chunk (first :: others)
      cases rest : (first :: others).drop Arrival.chunk with
      | nil =>
        rw [rest, List.append_nil] at whole
        simp only [Arrival.next?, rest, whole, pass]
      | cons byte behind =>
        rw [rest] at whole
        simp only [Arrival.next?, rest, pass, List.append_assoc, whole]

end

end Course

namespace Decoder

private theorem next_cases (decoder : Decoder) :
    (decoder.next = (.failed .bufferTooLong, decoder) ∧ decoder.limit < decoder.buffer.length) ∨
    (decoder.next = (.incomplete, decoder) ∧ Frame.readInside decoder.limit [] decoder.buffer = .incomplete) ∨
    (∃ cause, decoder.next = (.failed cause, decoder) ∧
      Frame.readInside decoder.limit [] decoder.buffer = .malformed cause) ∨
    ∃ frame rest, decoder.next = (.frame frame, { decoder with buffer := rest }) ∧
      Frame.readInside decoder.limit [] decoder.buffer = .complete frame rest := by
  cases read : Frame.readInside decoder.limit [] decoder.buffer with
  | incomplete =>
    by_cases full : decoder.limit < decoder.buffer.length
    · exact Or.inl ⟨by simp only [next, Frame.decode, read, if_pos full], full⟩
    · exact Or.inr (Or.inl ⟨by simp only [next, Frame.decode, read, if_neg full], rfl⟩)
  | malformed cause => exact Or.inr (Or.inr (Or.inl ⟨cause, next_malformed read, rfl⟩))
  | complete frame rest => exact Or.inr (Or.inr (Or.inr ⟨frame, rest, next_complete read, rfl⟩))

end Decoder

namespace Inbound

def course (inbound : Inbound) : Course := Course.pass inbound.decoder.limit inbound.decoder.buffer inbound.queue

/-- A read takes the first thing there is to read, and leaves the rest for the next one. -/
theorem readFrame_course {inbound rest : Inbound} {incoming : Incoming} (found : inbound.readFrame = (incoming, rest))
    (within : rest.decoder.buffer.length ≤ rest.decoder.limit) :
    incoming = inbound.course.answer 0 inbound.ended ∧
    inbound.course = rest.course.behind ([incoming].filterMap Incoming.finding?) ∧ rest.ended = inbound.ended := by
  rcases inbound.decoder.next_cases with ⟨failed, full⟩ | ⟨waits, read⟩ | ⟨cause, failed, read⟩ | ⟨frame, left, taken, read⟩
  · rw [readFrame, failed] at found
    cases found
    exact absurd full (Nat.not_lt.mpr within)
  · have next := Course.pass_next inbound.decoder.limit inbound.decoder.buffer inbound.queue
    rw [readFrame_waits waits] at found
    cases arrived : Arrival.next? inbound.queue with
    | none =>
      rw [arrived] at found next
      cases found
      have course : inbound.course = { findings := [], ending := .ok inbound.decoder.buffer } :=
        next.trans (Course.ofBytes_incomplete read)
      rw [course]
      cases inbound.ended with
      | false => exact ⟨rfl, rfl, rfl⟩
      | true => exact ⟨rfl, rfl, rfl⟩
    | some reading =>
      obtain ⟨outcome, queue⟩ := reading
      rw [arrived] at found next
      cases outcome with
      | error cause =>
        cases found
        have course := next.trans (Course.pass_fault read cause queue)
        exact ⟨by rw [show inbound.course = _ from course]; rfl, course, rfl⟩
      | ok bytes =>
        have lighter := (Arrival.weight_next arrived).1
        obtain ⟨answered, left, unended⟩ := readFrame_course found within
        have course : inbound.course = { inbound with queue, decoder := inbound.decoder.append bytes }.course := next
        rw [course]
        exact ⟨answered, left, unended⟩
  · rw [readFrame, failed] at found
    cases found
    have course : inbound.course = { findings := [], ending := .error cause } := Course.pass_malformed read _
    exact ⟨by rw [course]; rfl, rfl, rfl⟩
  · rw [readFrame, taken] at found
    cases found
    have course := Course.pass_complete read inbound.queue
    exact ⟨by rw [show inbound.course = _ from course]; rfl, course, rfl⟩
termination_by Arrival.weight inbound.queue

private theorem course_arrive (inbound : Inbound) (arrival : Arrival) :
    (inbound.arrive arrival).course =
      inbound.course.followed fun rest => Course.pass inbound.decoder.limit rest [arrival] :=
  Course.pass_append _ _ _ _

theorem course_followed (inbound : Inbound) :
    (inbound.course.followed fun rest => Course.pass inbound.decoder.limit rest []) = inbound.course := by
  have same := Course.pass_append inbound.decoder.limit inbound.decoder.buffer inbound.queue []
  rw [List.append_nil] at same
  exact same.symm

end Inbound

namespace Connection

/-- What can happen to a connection. A read that finds nothing is given up; one that is waited for is one that is asked
for again whenever something has arrived. -/
inductive Step where
  | event (event : Event)
  | read
  | write (frame : Frame)
  | split
deriving DecidableEq

def step (connection : Connection) : Step → Option Incoming × Connection
  | .event event => (none, connection.meet event)
  | .read => (some connection.read.1, connection.read.2)
  | .write frame => (none, (connection.write frame).2)
  | .split => (none, connection.split)

def after (connection : Connection) : List Step → Connection
  | [] => connection
  | step :: later => (connection.step step).2.after later

def answers (connection : Connection) : List Step → List Incoming
  | [] => []
  | step :: later => (connection.step step).1.toList ++ (connection.step step).2.answers later

def Step.arrival? : Step → Option Arrival
  | .event (.arrive arrival) => some arrival
  | _ => none

def arrivals (steps : List Step) : List Arrival := steps.filterMap Step.arrival?

def finished (steps : List Step) : Bool := decide (.event .finish ∈ steps)

theorem after_append (connection : Connection) (first last : List Step) :
    connection.after (first ++ last) = (connection.after first).after last := by
  induction first generalizing connection with
  | nil => rfl
  | cons step first ih => exact ih _

/-- Before and after any number of steps the bytes that are kept for a frame are within the limit. -/
def Within (limit : Nat) (connection : Connection) (steps : List Step) : Prop :=
  ∀ earlier, earlier <+: steps → (connection.after earlier).inbound.decoder.buffer.length ≤ limit

private theorem Within.tail {limit : Nat} {connection : Connection} {step : Step} {later : List Step}
    (within : Within limit connection (step :: later)) : Within limit (connection.step step).2 later :=
  fun earlier start => within (step :: earlier) (List.cons_prefix_cons.mpr ⟨rfl, start⟩)

theorem limit_step (connection : Connection) (step : Step) :
    (connection.step step).2.inbound.decoder.limit = connection.inbound.decoder.limit := by
  cases step with
  | event event => cases event <;> rfl
  | read =>
    exact Inbound.limit_readFrame (Prod.eta connection.inbound.readFrame).symm
  | write frame => rfl
  | split => rfl

/-- Whatever happens in one step, what was to be read is what has been found and what is to be read now, less what has
arrived. -/
theorem step_course {connection : Connection} {step : Step}
    (within : (connection.step step).2.inbound.decoder.buffer.length ≤ connection.inbound.decoder.limit) :
    (connection.inbound.course.followed fun rest =>
      Course.pass connection.inbound.decoder.limit rest step.arrival?.toList) =
    (connection.step step).2.inbound.course.behind ((connection.step step).1.toList.filterMap Incoming.finding?) ∧
    (connection.step step).2.inbound.ended = (connection.inbound.ended || decide (step = .event .finish)) := by
  have still := connection.inbound.course_followed
  cases step with
  | event event =>
    cases event with
    | arrive arrival => exact ⟨(connection.inbound.course_arrive arrival).symm, (Bool.or_false _).symm⟩
    | finish => exact ⟨still, (Bool.or_true _).symm⟩
    | accept acceptance => exact ⟨still, (Bool.or_false _).symm⟩
  | read =>
    have limit := connection.limit_step .read
    obtain ⟨-, left, unended⟩ :=
      Inbound.readFrame_course (Prod.eta connection.inbound.readFrame).symm (limit.symm ▸ within)
    exact ⟨still.trans left, unended.trans (Bool.or_false _).symm⟩
  | write frame => exact ⟨still, (Bool.or_false _).symm⟩
  | split => exact ⟨still, (Bool.or_false _).symm⟩

private theorem finished_cons (step : Step) (later : List Step) :
    finished (step :: later) = (decide (step = .event .finish) || finished later) := by
  simp only [finished, List.mem_cons, Bool.decide_or, eq_comm]

private theorem pass_arrivals_cons (limit : Nat) (bytes : Bytes) (step : Step) (later : List Step) :
    Course.pass limit bytes (arrivals (step :: later)) =
      (Course.pass limit bytes step.arrival?.toList).followed fun rest => Course.pass limit rest (arrivals later) := by
  rw [← Course.pass_append, arrivals, arrivals, List.filterMap_cons]
  cases step.arrival? <;> rfl

theorem course_after (connection : Connection) (steps : List Step)
    (within : Within connection.inbound.decoder.limit connection steps) :
    (connection.inbound.course.followed fun rest =>
      Course.pass connection.inbound.decoder.limit rest (arrivals steps)) =
    (connection.after steps).inbound.course.behind ((connection.answers steps).filterMap Incoming.finding?) ∧
    (connection.after steps).inbound.ended = (connection.inbound.ended || finished steps) ∧
    (connection.after steps).inbound.decoder.limit = connection.inbound.decoder.limit := by
  induction steps generalizing connection with
  | nil => exact ⟨connection.inbound.course_followed, (Bool.or_false _).symm, rfl⟩
  | cons step later ih =>
    have limit := limit_step connection step
    obtain ⟨moved, ended⟩ := step_course (within [step] ⟨later, rfl⟩)
    obtain ⟨behind, ends, kept⟩ := ih (connection.step step).2 (limit.symm ▸ within.tail)
    rw [limit] at behind kept
    refine ⟨?_, ?_, kept⟩
    · simp only [pass_arrivals_cons, ← Course.followed_followed, moved, Course.behind_followed, behind,
        Course.behind_behind, answers, List.filterMap_append]
      rfl
    · rw [finished_cons, ← Bool.or_assoc, ← ended]
      exact ends

theorem Within.before {limit : Nat} {connection : Connection} {earlier steps : List Step}
    (within : Within limit connection steps) (start : earlier <+: steps) : Within limit connection earlier :=
  fun first inside => within first (inside.trans start)

private theorem Within.read_after {connection : Connection} {earlier steps : List Step}
    (within : Within connection.inbound.decoder.limit connection steps) (start : earlier ++ [.read] <+: steps) :
    (connection.after earlier).read.1 =
      (connection.after earlier).inbound.course.answer 0 (connection.after earlier).inbound.ended := by
  obtain ⟨-, -, kept⟩ := connection.course_after earlier (within.before ((List.prefix_append _ _).trans start))
  have bound := within _ start
  rw [after_append] at bound
  have limit := limit_step (connection.after earlier) .read
  exact (Inbound.readFrame_course (Prod.eta (connection.after earlier).inbound.readFrame).symm
    (by rw [← kept, ← limit] at bound; exact bound)).1

private theorem Within.behind {limit : Nat} {connection : Connection} {first last : List Step}
    (within : Within limit connection (first ++ last)) : Within limit (connection.after first) last := by
  intro earlier start
  rw [← after_append]
  exact within _ ((List.prefix_append_right_inj first).mpr start)

/-- Nothing that happens is the end of a malformed frame. -/
theorem Within.malformed {connection : Connection} {steps : List Step} {cause : DecodeError}
    (within : Within connection.inbound.decoder.limit connection steps)
    (malformed : connection.inbound.course.answer 0 connection.inbound.ended = .failed (.decode cause)) :
    (connection.after steps).inbound.course.answer 0 (connection.after steps).inbound.ended = .failed (.decode cause) := by
  obtain ⟨nothing, ending⟩ := Course.answer_malformed malformed
  obtain ⟨course, -, -⟩ := connection.course_after steps within
  rw [Course.followed_malformed ending] at course
  have findings := congrArg (List.length ∘ Course.findings) course
  have same := congrArg Course.ending course
  simp only [Function.comp_apply, Course.behind, List.length_append] at findings same
  have empty : (connection.after steps).inbound.course.findings = [] := List.eq_nil_of_length_eq_zero (by omega)
  simp only [Course.answer, empty, ← same, ending, List.getElem?_nil]

/-- What a read finds depends only on what has arrived: a frame or an error is found in its turn in one pass over all of
it, wherever pieces were cut, and whenever reads were asked for or given up and the two sides were separated. When
everything has been found, the answer is the end of the stream, also inside a frame, or why the bytes are no frame, and
that remains the answer. -/
theorem reads_as_one_pass (connection : Connection) (limit : Nat) (steps : List Step)
    (fresh : connection.inbound = { decoder := { limit } }) (within : Within limit connection (steps ++ [.read])) :
    let whole := Course.pass limit [] (arrivals steps)
    let found := (connection.answers steps).filterMap Incoming.finding?
    found <+: whole.findings ∧
    (connection.after steps).read.1 = whole.answer found.length (finished steps) ∧
    ∀ earlier cause, earlier ++ [.read] <+: steps →
      (connection.after earlier).read.1 = .failed (.decode cause) →
      (connection.after steps).read.1 = .failed (.decode cause) := by
  have starts : connection.inbound.decoder.limit = limit ∧ connection.inbound.ended = false ∧
      connection.inbound.course = { findings := [], ending := .ok [] } := by
    rw [fresh]
    exact ⟨rfl, rfl, Course.ofBytes_incomplete (Frame.readInside_step _ _ _)⟩
  obtain ⟨rfl, goesOn, empty⟩ := starts
  obtain ⟨course, ended, -⟩ := connection.course_after steps (within.before (List.prefix_append _ _))
  have whole : Course.pass connection.inbound.decoder.limit [] (arrivals steps) =
      (connection.after steps).inbound.course.behind ((connection.answers steps).filterMap Incoming.finding?) := by
    rw [← course, empty]
    rfl
  rw [goesOn, Bool.false_or] at ended
  intro all found
  have next : (connection.after steps).read.1 =
      (connection.after steps).inbound.course.answer 0 (connection.after steps).inbound.ended :=
    within.read_after (List.prefix_refl _)
  refine ⟨?_, ?_, ?_⟩
  · rw [show all = _ from whole]
    exact List.prefix_append _ _
  · rw [show all = _ from whole, Course.answer_behind, ← ended]
    exact next
  · rintro earlier cause ⟨later, rfl⟩ answered
    have start := (List.prefix_append (earlier ++ [.read]) later).trans (List.prefix_append _ [.read])
    have limit := (connection.course_after earlier (within.before ((List.prefix_append _ _).trans start))).2.2
    rw [within.read_after start] at answered
    rw [next]
    have behind := within.before (List.prefix_append _ _)
    rw [List.append_assoc] at behind ⊢
    rw [after_append]
    exact Within.malformed (limit.symm ▸ behind.behind) answered

/-- A frame that an error interrupts and a read that is given up in it, a frame at the end, and bytes that are no frame,
which have arrived when the stream had ended. -/
theorem reads_as_one_pass_interrupted :
    let reset : IoError := { kind := .connectionReset, text := "reset" }
    let piece (text : String) : Step := .event (.arrive (.piece (Bytes.ofText text)))
    let steps : List Step := [piece "+O", .read, .split, .event (.arrive (.fault reset)), .read, piece "K\r", .read,
      piece "\n:1\r\n", .read, .event .finish, .read, .read, piece "!\r\n", .read, piece ":2\r\n"]
    (({} : Connection).answers steps).filterMap Incoming.finding? =
      [.error reset, .ok (.simple (Bytes.ofText "OK")), .ok (.integer 1)] ∧
    (({} : Connection).after steps).read.1 = .failed (.decode (.unknownTag 33)) := by
  intro reset piece steps
  have small : ∀ earlier ∈ (steps ++ [Step.read]).inits,
      (({} : Connection).after earlier).inbound.decoder.buffer.length ≤ Frame.defaultLimit := by
    decide +kernel
  have within : Within Frame.defaultLimit {} (steps ++ [.read]) :=
    fun earlier start => small earlier ((List.mem_inits _ _).mpr start)
  obtain ⟨-, next, -⟩ := reads_as_one_pass {} Frame.defaultLimit steps rfl within
  exact ⟨by decide +kernel, next.trans (by decide +kernel)⟩

end Connection

end Subscriber
