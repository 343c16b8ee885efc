import Subscriber.Proofs.Framing
import Subscriber.Proofs.Scripts

/-! Writes that are never refused. They may have to wait, and may go out in portions of whatever size. On such a stream a
connection fails only through what it reads. -/

namespace Subscriber

/-- Writes may have to wait, and that is all. -/
inductive Acceptance.Patient : Acceptance → Prop where
  | everything : Patient .everything
  | atMost (count : Nat) : Patient (.atMost (count + 1))
  | waiting : Patient .waiting
  | upTo (count : Nat) {later : Acceptance} (patient : Patient later) : Patient (.upTo count later)

namespace Acceptance
variable {acceptance : Acceptance}

private theorem Patient.flushes (patient : acceptance.Patient) : acceptance.flushFailure? = none := by
  induction patient with
  | upTo count patient ih =>
    cases count with
    | zero => exact ih
    | succ count => rfl
  | _ => rfl

private theorem Patient.call (patient : acceptance.Patient) (offered : Nat) (cause : IoError) :
    acceptance.call offered ≠ .fails cause := by
  induction patient with
  | upTo count patient ih =>
    cases count with
    | zero => exact ih
    | succ count => exact fun failed => by cases failed
  | _ => exact fun failed => by cases failed

private theorem Patient.behind (patient : acceptance.Patient) (taken : Nat) : (acceptance.behind taken).Patient := by
  induction patient with
  | everything => exact .everything
  | atMost count => exact .atMost count
  | waiting => exact .waiting
  | upTo count patient ih =>
    cases count with
    | zero => exact ih
    | succ count => exact .upTo _ patient

end Acceptance

private theorem Outbound.send_patient {outbound : Outbound} (patient : outbound.acceptance.Patient) (bytes : Bytes) :
    (outbound.send bytes).2.acceptance.Patient ∧ ∀ cause, (outbound.send bytes).1 ≠ .failed cause := by
  fun_induction send outbound bytes with
  | case1 => exact ⟨patient, fun cause failed => by cases failed⟩
  | case2 outbound bytes empty cause broken => cases patient.flushes.symm.trans broken
  | case3 => exact ⟨patient, fun cause failed => by cases failed⟩
  | case4 outbound bytes some cause fails => exact absurd fails (patient.call bytes.length cause)
  | case5 outbound bytes some count taken ih => exact ih (patient.behind count)

namespace Link

/-- A connection that has not failed, on a stream that refuses nothing. -/
structure Flows (link : Link) : Prop where
  alive : link.failure = none
  patient : link.outbound.acceptance.Patient

namespace Flows
variable {link : Link}

theorem send (flows : link.Flows) (bytes : Bytes) : (link.send bytes).Flows := by
  obtain ⟨patient, unrefused⟩ := Outbound.send_patient flows.patient bytes
  unfold Link.send
  split
  next outbound sent =>
    rw [sent] at patient
    exact ⟨flows.alive, patient⟩
  next unsent outbound sent =>
    rw [sent] at patient
    exact ⟨flows.alive, patient⟩
  next cause outbound sent => exact absurd (congrArg Prod.fst sent) (unrefused cause)

private theorem takeUp (flows : link.Flows) (queue : List Request) (request : Request) :
    ((link.dequeue queue).perform request).Flows := by
  obtain ⟨queue', waiting, admitted, dequeued, -⟩ := dequeue_eq link queue
  have moved : (link.dequeue queue).Flows := by
    rw [dequeued]
    exact ⟨flows.alive, flows.patient⟩
  have pended : Flows { link.dequeue queue with pending := (link.dequeue queue).pending ++ [request.pending] } :=
    ⟨moved.alive, moved.patient⟩
  unfold perform
  split
  next fault failed => cases moved.alive.symm.trans failed
  next alive => exact pended.send _

private theorem serve {link : Link} (flows : link.Flows) : link.serve.Flows := by
  rw [Link.serve]
  split
  · exact flows
  next request queue front =>
    split
    · have shorter := Nat.lt_of_le_of_lt (backlog_perform (link.dequeue queue) request) (backlog_dequeue front)
      exact (flows.takeUp queue request).serve
    · exact flows
termination_by link.backlog

private theorem write (flows : link.Flows) : link.write.Flows := by
  unfold Link.write
  split
  · exact (flows.send _).serve
  · exact flows.serve

private theorem wind (flows : link.Flows) : link.wind.Flows := by
  unfold Link.wind
  split <;> exact ⟨flows.alive, flows.patient⟩

/-- What is read ends the connection only where it cannot be read. -/
theorem work (flows : link.Flows) (reading : link.reading = true) (unfailed : link.inbound.readAll.failure = none) :
    link.work.Flows ∧ link.work.inbound = link.inbound.readAll.rest := by
  obtain ⟨pending, observers, signals, received⟩ :=
    receiveAll_eq link.inbound.readAll.frames { link with inbound := link.inbound.readAll.rest }
  have read : link.read = { link with inbound := link.inbound.readAll.rest, pending, observers, signals } :=
    (read_complete reading unfailed).trans received
  have behind : link.read.Flows := by
    rw [read]
    exact ⟨flows.alive, flows.patient⟩
  refine ⟨behind.write.wind, ?_⟩
  have inbound : link.work.inbound = link.read.inbound := ((write_writes _).trans (wind_writes _)).inbound
  rw [inbound, read]

end Flows

end Link

/-- Only the network touches the stream. -/
theorem Clients.begin_stream (clients : Clients) {step : Step} (apart : ∀ event, step ≠ .network event) :
    (clients.begin step).2.link.inbound = clients.link.inbound ∧
      (clients.begin step).2.link.outbound = clients.link.outbound := by
  cases step with
  | network event => exact absurd rfl (apart event)
  | request call verb targets =>
    obtain ⟨queue, waiting, requested⟩ := Link.request_eq clients.link call verb targets
    unfold begin Clients.request
    dsimp only
    split
    · exact ⟨rfl, rfl⟩
    · split
      · rw [requested]
        exact ⟨rfl, rfl⟩
      · rw [link_answer]
        dsimp only
        rw [requested]
        exact ⟨rfl, rfl⟩
  | abandon call =>
    unfold begin Clients.abandon
    dsimp only
    split <;> exact ⟨rfl, rfl⟩
  | observe kind =>
    obtain ⟨observers, registered⟩ := Link.observe_eq clients.link kind
    unfold begin
    dsimp only
    split
    · exact ⟨rfl, rfl⟩
    · rw [registered]
      exact ⟨rfl, rfl⟩
  | poll observer =>
    unfold begin
    dsimp only
    split <;> exact ⟨rfl, rfl⟩
  | drain observer =>
    unfold begin
    dsimp only
    split <;> exact ⟨rfl, rfl⟩
  | drop observer => exact ⟨rfl, rfl⟩
  | close =>
    unfold begin
    dsimp only
    split
    · exact ⟨rfl, rfl⟩
    · rw [link_close]
      exact ⟨rfl, rfl⟩

end Subscriber
