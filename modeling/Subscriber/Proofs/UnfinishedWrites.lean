import Subscriber.Proofs.OnePass

/-! Writes that may not come to their end. A write asks the stream to take bytes until all of them are taken, and then to
flush. The stream takes some, lets it wait or fails, and a write that waits can be given up. Whatever becomes of it, it has
sent the first bytes of its own frame and nothing else, and the writes behind it go as on a new connection. -/

namespace Subscriber

/-- What the caller of a write is told, unless it gives the write up. -/
def Sending.result? : Sending → Option (Except IoError Unit)
  | .done => some (.ok ())
  | .blocked _ => none
  | .failed cause => some (.error cause)

def Connection.accept (connection : Connection) (bytes : Bytes) : Connection :=
  { connection with outbound := { connection.outbound with accepted := connection.outbound.accepted ++ bytes } }

/-- A connection between two answers of its stream. -/
structure Transfer where
  connection : Connection
  /-- What the write under way has not sent. Once nothing is left it waits for the flush. -/
  unsent? : Option Bytes := none

namespace Transfer

inductive Ending where
  | done
  | refused (cause : IoError)
  | unflushed (cause : IoError)
deriving DecidableEq

/-- A caller cannot tell one failure from the other. -/
def Ending.result : Ending → Except IoError Unit
  | .done => .ok ()
  | .refused cause | .unflushed cause => .error cause

/-- What can happen while a write is under way, and while none is. Reads come at any time, as they do when the two sides
have different owners. -/
inductive Step where
  | event (event : Connection.Event)
  | read
  | split
  /-- A write begins. One that is under way is given up. -/
  | begin (frame : Frame)
  /-- The stream answers the write under way. To a flush all that is not a failure and not a delay means success. -/
  | answer (call : Acceptance.Call)
  | abandon
deriving DecidableEq

def accepted (transfer : Transfer) : Bytes := transfer.connection.outbound.accepted

/-- What the stream's answer does to the write under way, and how the write ends, if it does. -/
def answer (transfer : Transfer) (call : Acceptance.Call) : Option Ending × Transfer :=
  match transfer.unsent?, call with
  | none, _ | some _, .waits => (none, transfer)
  | some [], .takes _ => (some .done, { transfer with unsent? := none })
  | some [], .fails cause => (some (.unflushed cause), { transfer with unsent? := none })
  | some (_ :: _), .takes 0 => (some (.refused .writeZero), { transfer with unsent? := none })
  | some (_ :: _), .fails cause => (some (.refused cause), { transfer with unsent? := none })
  | some (byte :: bytes), .takes (count + 1) =>
    let unsent := byte :: bytes
    (none, {
      connection := transfer.connection.accept (unsent.take (count + 1))
      unsent? := some (unsent.drop (count + 1)) })

def step (transfer : Transfer) : Step → Transfer
  | .event event => { transfer with connection := transfer.connection.meet event }
  | .read => { transfer with connection := transfer.connection.read.2 }
  | .split => { transfer with connection := transfer.connection.split }
  | .begin frame =>
    let (bytes, connection) := transfer.connection.prepare frame
    { connection, unsent? := some bytes }
  | .answer call => (transfer.answer call).2
  | .abandon => { transfer with unsent? := none }

def after (transfer : Transfer) (steps : List Step) : Transfer := steps.foldl step transfer

def ending? (transfer : Transfer) : Step → Option Ending
  | .answer call => (transfer.answer call).1
  | _ => none

/-- How writes end, in the order in which they do. Those that are given up are not among them. -/
def endings (transfer : Transfer) : List Step → List Ending
  | [] => []
  | step :: later => (transfer.ending? step).toList ++ (transfer.step step).endings later

def incoming? (transfer : Transfer) : Step → Option Incoming
  | .read => some transfer.connection.read.1
  | _ => none

def incomings (transfer : Transfer) : List Step → List Incoming
  | [] => []
  | step :: later => (transfer.incoming? step).toList ++ (transfer.step step).incomings later

variable {transfer : Transfer}

theorem step_begin (transfer : Transfer) (frame : Frame) :
    transfer.step (.begin frame) = { connection := transfer.connection, unsent? := some frame.encode } := by
  simp only [step, Connection.prepare_eq]

/-! One write, and all that happens until the next begins. -/

/-- A write of these bytes has sent some of them, behind those that had been sent before it. While it is under way it still
has all the others. -/
structure Sends (before whole sent : Bytes) (transfer : Transfer) : Prop where
  accepted : transfer.accepted = before ++ sent
  first : sent <+: whole
  others : ∀ unsent, transfer.unsent? = some unsent → sent ++ unsent = whole

variable {before whole sent : Bytes}

private theorem Sends.begin (transfer : Transfer) (frame : Frame) :
    Sends transfer.accepted frame.encode [] (transfer.step (.begin frame)) := by
  rw [step_begin]
  refine ⟨(List.append_nil _).symm, List.nil_prefix, ?_⟩
  rintro unsent same
  cases same
  rfl

/-- A write that is over has sent what it has sent. -/
theorem Sends.stopped (sends : Sends before whole sent transfer) {connection : Connection}
    (same : connection.outbound.accepted = transfer.connection.outbound.accepted) :
    Sends before whole sent { connection } :=
  ⟨same.trans sends.accepted, sends.first, nofun⟩

/-- A write goes on in one step, or ends in it. If all went well or only the flush failed, everything has been sent. -/
def Proceeds (before whole : Bytes) (ending? : Option Ending) (next : Transfer) : Prop :=
  ∃ sent, Sends before whole sent next ∧
    ∀ ending, ending? = some ending → next.unsent? = none ∧ ((∀ cause, ending ≠ .refused cause) → sent = whole)

private theorem Sends.answer (sends : Sends before whole sent transfer) (call : Acceptance.Call) :
    Proceeds before whole (transfer.answer call).1 (transfer.answer call).2 := by
  have ends {ending : Ending} (all : (∀ cause, ending ≠ .refused cause) → sent = whole) :
      Proceeds before whole (some ending) { transfer with unsent? := none } := by
    refine ⟨sent, sends.stopped rfl, ?_⟩
    rintro _ ⟨⟩
    exact ⟨rfl, all⟩
  have flushed (flushes : transfer.unsent? = some []) : sent = whole :=
    (List.append_nil _).symm.trans (sends.others [] flushes)
  unfold Transfer.answer
  split
  next => exact ⟨sent, sends, nofun⟩
  next => exact ⟨sent, sends, nofun⟩
  next flushes => exact ends fun _ => flushed flushes
  next flushes => exact ends fun _ => flushed flushes
  next => exact ends fun taken => absurd rfl (taken _)
  next => exact ends fun taken => absurd rfl (taken _)
  next byte bytes count writes =>
    have rest := sends.others _ writes
    rw [← List.take_append_drop (count + 1) (byte :: bytes), ← List.append_assoc] at rest
    refine ⟨sent ++ (byte :: bytes).take (count + 1), ⟨?_, ⟨_, rest⟩, ?_⟩, nofun⟩
    · rw [← List.append_assoc, ← sends.accepted]
      rfl
    · rintro unsent ⟨⟩
      exact rest

theorem unbegun_cons {step : Step} {later : List Step} (unbegun : ∀ frame, .begin frame ∉ step :: later) :
    (∀ frame, step ≠ .begin frame) ∧ ∀ frame, .begin frame ∉ later := by
  constructor
  · intro frame same
    exact unbegun frame (same ▸ List.mem_cons_self)
  · intro frame member
    exact unbegun frame (List.mem_cons_of_mem step member)

/-- Until the next write begins, a step of the connection is a step of this write or none of its business. -/
theorem Sends.step (sends : Sends before whole sent transfer) {step : Step} (one : ∀ frame, step ≠ .begin frame) :
    Proceeds before whole (transfer.ending? step) (transfer.step step) := by
  cases step with
  | begin frame => exact absurd rfl (one frame)
  | answer call => exact sends.answer call
  | abandon => exact ⟨sent, sends.stopped rfl, nofun⟩
  | event event => cases event <;> exact ⟨sent, ⟨sends.accepted, sends.first, sends.others⟩, nofun⟩
  | read | split => exact ⟨sent, ⟨sends.accepted, sends.first, sends.others⟩, nofun⟩

private theorem idle_step (idle : transfer.unsent? = none) {step : Step} (unbegun : ∀ frame, step ≠ .begin frame) :
    (transfer.step step).unsent? = none ∧ (transfer.step step).accepted = transfer.accepted ∧
      transfer.ending? step = none := by
  cases step with
  | begin frame => exact absurd rfl (unbegun frame)
  | answer call =>
    have still : transfer.answer call = (none, transfer) := by simp only [Transfer.answer, idle]
    simp only [Transfer.step, ending?, still, idle, and_self]
  | abandon => exact ⟨rfl, rfl, rfl⟩
  | event event => cases event <;> exact ⟨idle, rfl, rfl⟩
  | read | split => exact ⟨idle, rfl, rfl⟩

private theorem idle_after (idle : transfer.unsent? = none) {steps : List Step} (unbegun : ∀ frame, .begin frame ∉ steps) :
    (transfer.after steps).accepted = transfer.accepted ∧ transfer.endings steps = [] := by
  induction steps generalizing transfer with
  | nil => exact ⟨rfl, rfl⟩
  | cons step later ih =>
    obtain ⟨first, others⟩ := unbegun_cons unbegun
    obtain ⟨still, accepted, unended⟩ := idle_step idle first
    obtain ⟨same, quiet⟩ := ih still others
    exact ⟨same.trans accepted, by rw [endings, unended, quiet]; rfl⟩

/-- All that happens until the next write begins. A write ends once at most, and nothing is sent behind its end. -/
theorem Sends.after (sends : Sends before whole sent transfer) {during : List Step} (one : ∀ frame, .begin frame ∉ during) :
    ∃ more, (transfer.after during).accepted = before ++ more ∧ more <+: whole ∧
      (transfer.endings during).length ≤ 1 ∧
      ∀ ending ∈ transfer.endings during, (∀ cause, ending ≠ .refused cause) → more = whole := by
  induction during generalizing transfer sent with
  | nil => exact ⟨sent, sends.accepted, sends.first, Nat.zero_le _, nofun⟩
  | cons step later ih =>
    obtain ⟨first, others⟩ := unbegun_cons one
    obtain ⟨more, moved, ends⟩ := sends.step first
    -- Up to its end the write is as after one step less; behind its end no step is one of its own.
    cases ended : transfer.ending? step with
    | none =>
      rw [endings, ended]
      exact ih moved others
    | some ending =>
      obtain ⟨idle, all⟩ := ends ending ended
      obtain ⟨still, quiet⟩ := idle_after idle others
      rw [endings, ended, quiet]
      refine ⟨more, still.trans moved.accepted, moved.first, Nat.le_refl _, ?_⟩
      intro other member
      cases List.mem_singleton.mp member
      exact all

/-! The writes behind it. -/

/-- Two connections on which a write is at the same point, where the first had sent these bytes before. -/
structure Abreast (before : Bytes) (first second : Transfer) : Prop where
  unsent : first.unsent? = second.unsent?
  accepted : first.accepted = before ++ second.accepted

variable {first second : Transfer}

private theorem Abreast.answer (abreast : Abreast before first second) (call : Acceptance.Call) :
    Abreast before (first.answer call).2 (second.answer call).2 ∧ (first.answer call).1 = (second.answer call).1 := by
  have stopped {a b : Option Ending} (same : a = b) :
      Abreast before { first with unsent? := none } { second with unsent? := none } ∧ a = b :=
    ⟨⟨rfl, abreast.accepted⟩, same⟩
  unfold Transfer.answer
  rw [abreast.unsent]
  split
  next => exact ⟨abreast, rfl⟩
  next => exact ⟨abreast, rfl⟩
  next => exact stopped rfl
  next => exact stopped rfl
  next => exact stopped rfl
  next => exact stopped rfl
  next byte bytes count _ =>
    refine ⟨⟨rfl, ?_⟩, rfl⟩
    have same := congrArg (· ++ (byte :: bytes).take (count + 1)) abreast.accepted
    simp only [List.append_assoc] at same
    exact same

private theorem Abreast.step (abreast : Abreast before first second) (step : Step) :
    Abreast before (first.step step) (second.step step) ∧ first.ending? step = second.ending? step := by
  cases step with
  | begin frame =>
    rw [step_begin, step_begin]
    exact ⟨⟨rfl, abreast.accepted⟩, rfl⟩
  | answer call => exact abreast.answer call
  | abandon => exact ⟨⟨rfl, abreast.accepted⟩, rfl⟩
  | event event => cases event <;> exact ⟨⟨abreast.unsent, abreast.accepted⟩, rfl⟩
  | read | split => exact ⟨⟨abreast.unsent, abreast.accepted⟩, rfl⟩

private theorem Abreast.after (abreast : Abreast before first second) (steps : List Step) :
    (first.after steps).accepted = before ++ (second.after steps).accepted ∧ first.endings steps = second.endings steps := by
  induction steps generalizing first second with
  | nil => exact ⟨abreast.accepted, rfl⟩
  | cons step later ih =>
    obtain ⟨moved, ended⟩ := abreast.step step
    obtain ⟨accepted, endings⟩ := ih moved
    exact ⟨accepted, by rw [Transfer.endings, Transfer.endings, ended, endings]⟩

/-- Whatever state writes have left a connection in, the next one begins as the first of all does. -/
theorem Abreast.begin (transfer : Transfer) (frame : Frame) :
    Abreast transfer.accepted (transfer.step (.begin frame)) (({ connection := {} } : Transfer).step (.begin frame)) := by
  rw [step_begin, step_begin]
  exact ⟨rfl, (List.append_nil _).symm⟩

/-! Reads. -/

def Step.heard? : Step → Option Connection.Step
  | .event (.arrive arrival) => some (.event (.arrive arrival))
  | .event .finish => some (.event .finish)
  | .read => some .read
  | .split => some .split
  | .event (.accept _) | .begin _ | .answer _ | .abandon => none

private theorem inbound_answer (transfer : Transfer) (call : Acceptance.Call) :
    (transfer.answer call).2.connection.inbound = transfer.connection.inbound := by
  unfold answer
  split <;> rfl

private theorem incoming_step {connection : Connection} (same : transfer.connection.inbound = connection.inbound) (step : Step) :
    (transfer.incoming? step).toList = connection.answers step.heard?.toList ∧
      (transfer.step step).connection.inbound = (connection.after step.heard?.toList).inbound := by
  cases step with
  | begin frame =>
    rw [step_begin]
    exact ⟨rfl, same⟩
  | answer call => exact ⟨rfl, (transfer.inbound_answer call).trans same⟩
  | abandon => exact ⟨rfl, same⟩
  | event event =>
    cases event with
    | arrive arrival => exact ⟨rfl, congrArg (Inbound.arrive · arrival) same⟩
    | finish => exact ⟨rfl, congrArg Inbound.finish same⟩
    | accept acceptance => exact ⟨rfl, same⟩
  | read =>
    have found : transfer.connection.read.1 = connection.read.1 := congrArg (·.readFrame.1) same
    exact ⟨congrArg (fun incoming => [incoming]) found, congrArg (·.readFrame.2) same⟩
  | split => exact ⟨rfl, same⟩

private theorem incomings_eq {connection : Connection} (same : transfer.connection.inbound = connection.inbound)
    (steps : List Step) : transfer.incomings steps = connection.answers (steps.filterMap Step.heard?) := by
  induction steps generalizing transfer connection with
  | nil => rfl
  | cons step later ih =>
    obtain ⟨found, left⟩ := incoming_step same step
    rw [incomings, found, ih left, List.filterMap_cons]
    cases step.heard? with
    | none => rfl
    | some heard => simp only [Option.toList_some, Connection.answers, Connection.after, List.append_nil]

/-! A write that is given up as soon as it has to wait. -/

private theorem after_abandon (transfer : Transfer) {outbound : Outbound} (same : transfer.accepted = outbound.accepted) :
    transfer.after [.abandon, .event (.accept outbound.acceptance)] =
      { connection := { transfer.connection with outbound } } := by
  have accepts : { transfer.connection.outbound with acceptance := outbound.acceptance } = outbound :=
    congrArg (Outbound.mk outbound.acceptance) same
  exact congrArg (fun outbound => Transfer.mk { transfer.connection with outbound } none) accepts

private theorem send_answers (outbound : Outbound) (bytes : Bytes) (connection : Connection)
    (same : connection.outbound.accepted = outbound.accepted) :
    ∃ calls : List Acceptance.Call,
      let transfer : Transfer := { connection, unsent? := some bytes }
      let steps := calls.map Step.answer ++ [.abandon, .event (.accept (outbound.send bytes).2.acceptance)]
      transfer.after steps = { connection := { connection with outbound := (outbound.send bytes).2 } } ∧
        (transfer.endings steps).map Ending.result = (outbound.send bytes).1.result?.toList := by
  -- The connection may accept bytes in another way than the one that sends: only the stream's answers count on it.
  fun_induction Outbound.send outbound bytes generalizing connection with
  | case1 outbound bytes empty quiet =>
    cases List.length_eq_zero_iff.mp empty
    exact ⟨[.takes 0], after_abandon { connection } same, rfl⟩
  | case2 outbound bytes empty cause broken =>
    cases List.length_eq_zero_iff.mp empty
    exact ⟨[.fails cause], after_abandon { connection } same, rfl⟩
  | case3 outbound bytes some waits => exact ⟨[], after_abandon { connection } same, rfl⟩
  | case4 outbound bytes some cause fails =>
    obtain ⟨byte, bytes, rfl⟩ := List.ne_nil_iff_exists_cons.mp fun empty => some (congrArg List.length empty)
    exact ⟨[.fails cause], after_abandon { connection } same, rfl⟩
  | case5 outbound bytes some count taken ih =>
    obtain ⟨byte, bytes, rfl⟩ := List.ne_nil_iff_exists_cons.mp fun empty => some (congrArg List.length empty)
    obtain ⟨count, rfl⟩ := Nat.exists_eq_succ_of_ne_zero
      (Nat.ne_of_gt (Acceptance.call_takes_pos (Nat.pos_of_ne_zero some) taken))
    let more := (byte :: bytes).take (count + 1)
    obtain ⟨calls, later⟩ := ih (connection.accept more) (congrArg (· ++ more) same)
    exact ⟨.takes (count + 1) :: calls, later⟩

private theorem write_answers (connection : Connection) (frame : Frame) :
    ∃ calls : List Acceptance.Call,
      let transfer : Transfer := { connection }
      let steps := .begin frame :: (calls.map Step.answer ++
        [.abandon, .event (.accept (connection.write frame).2.outbound.acceptance)])
      transfer.after steps = { connection := (connection.write frame).2 } ∧
        (transfer.endings steps).map Ending.result = (connection.write frame).1.result?.toList := by
  rw [connection.write_eq]
  obtain ⟨calls, sent⟩ := send_answers connection.outbound frame.encode connection rfl
  refine ⟨calls, ?_⟩
  intro transfer steps
  have begun : transfer.step (.begin frame) = { connection, unsent? := some frame.encode } := step_begin _ _
  rw [show transfer.after steps = (transfer.step (.begin frame)).after steps.tail from rfl,
    show transfer.endings steps = (transfer.step (.begin frame)).endings steps.tail from rfl, begun]
  exact sent

/-- Whatever the stream answers, and wherever writes were given up and the two sides separated: between its beginning and
that of the next a write sends the first bytes of its frame and nothing else, and the whole frame if it succeeds or only
its flush fails. What is written behind it is sent, and ends, as on a new connection. Reads find what they find where nothing
is written. And a write that is given up as soon as it has to wait is such a write. -/
theorem writes_leave_nothing_behind (connection : Connection) (earlier during later : List Step) (frame : Frame)
    (one : ∀ other, .begin other ∉ during) :
    let start : Transfer := { connection }
    let write : List Step := .begin frame :: during
    let before := start.after earlier
    let behind := before.after write
    (∃ sent, behind.accepted = before.accepted ++ sent ∧ sent <+: frame.encode ∧
      (before.endings write).length ≤ 1 ∧
      ∀ ending ∈ before.endings write, (∀ cause, ending ≠ .refused cause) → sent = frame.encode) ∧
    (∀ next,
      let fresh : Transfer := { connection := {} }
      let others : List Step := .begin next :: later
      (behind.after others).accepted = behind.accepted ++ (fresh.after others).accepted ∧
        behind.endings others = fresh.endings others) ∧
    start.incomings (earlier ++ write ++ later) = connection.answers ((earlier ++ write ++ later).filterMap Step.heard?) ∧
    ∃ calls : List Acceptance.Call,
      let steps := .begin frame :: (calls.map Step.answer ++
        [.abandon, .event (.accept (connection.write frame).2.outbound.acceptance)])
      start.after steps = { connection := (connection.write frame).2 } ∧
        (start.endings steps).map Ending.result = (connection.write frame).1.result?.toList := by
  intro start write before behind
  refine ⟨(Sends.begin before frame).after one, ?_, incomings_eq rfl _, write_answers connection frame⟩
  intro next fresh others
  exact (Abreast.begin behind next).after later

/-- A write that is given up behind two bytes, and behind it one whose flush fails, after the two sides were separated and
with a frame that arrives in the middle. -/
theorem writes_leave_nothing_behind_cut :
    let reset : IoError := { kind := .connectionReset, text := "reset" }
    let earlier : List Step := [.begin (.simple (Bytes.ofText "OK")), .answer (.takes 2), .answer .waits, .abandon, .split]
    let during : List Step := [.answer (.takes 1), .event (.arrive (.piece (Bytes.ofText "+A\r\n"))), .answer .waits, .read,
      .answer (.takes 9), .answer .waits, .answer (.fails reset), .answer (.takes 1)]
    let before := ({ connection := {} } : Transfer).after earlier
    let behind := before.after (.begin (.integer 7) :: during)
    (∀ other, .begin other ∉ during) ∧
      before.accepted = Bytes.ofText "+O" ∧
      before.endings (.begin (.integer 7) :: during) = [.unflushed reset] ∧
      behind.accepted = Bytes.ofText "+O" ++ (Frame.integer 7).encode ∧
      (behind.after [.begin .null, .answer (.takes 3)]).accepted = behind.accepted ++ Bytes.ofText "$-1" := by
  intro reset earlier during before behind
  have one : ∀ other, .begin other ∉ during := by
    intro other member
    simp [during] at member
  have sent : before.accepted = Bytes.ofText "+O" := by decide +kernel
  have ended : before.endings (.begin (.integer 7) :: during) = [.unflushed reset] := by decide +kernel
  obtain ⟨⟨part, grown, -, -, whole⟩, fresh, -⟩ :=
    writes_leave_nothing_behind {} earlier during [.answer (.takes 3)] (.integer 7) one
  refine ⟨one, sent, ended, ?_, ?_⟩
  · rw [← whole (.unflushed reset) (ended ▸ List.mem_singleton_self _) nofun, ← sent]
    exact grown
  · exact (fresh .null).1.trans (congrArg (behind.accepted ++ ·) (by decide +kernel))

end Transfer

end Subscriber
