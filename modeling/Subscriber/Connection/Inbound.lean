import Subscriber.Frame.Decode

/-! The receiving side of a connection: what has arrived and not been read, and the bytes that were
read and do not make a whole frame yet. -/

namespace Subscriber

/-- What one or more reads find: bytes, or a failure that is reported once. -/
inductive Arrival where
  | piece (bytes : Bytes)
  | fault (cause : IoError)
deriving DecidableEq

namespace Arrival

def chunk : Nat := 4096

/-- The next read: at most a chunk, and never from two pieces at once. Empty pieces go unnoticed. -/
def next? : List Arrival → Option (Except IoError Bytes × List Arrival)
  | [] => none
  | .piece [] :: later => next? later
  | .piece (byte :: bytes) :: later =>
    let now := (byte :: bytes).take chunk
    match (byte :: bytes).drop chunk with
    | [] => some (.ok now, later)
    | rest => some (.ok now, .piece rest :: later)
  | .fault cause :: later => some (.error cause, later)

def weight : List Arrival → Nat
  | [] => 0
  | .piece bytes :: later => bytes.length + 1 + weight later
  | .fault _ :: later => 1 + weight later

theorem weight_next {queue later : List Arrival} {bytes : Bytes}
    (found : next? queue = some (.ok bytes, later)) :
    weight later < weight queue ∧ weight later + bytes.length ≤ weight queue := by
  induction queue with
  | nil => simp [next?] at found
  | cons arrival rest ih =>
    match arrival with
    | .fault _ => simp [next?] at found
    | .piece [] =>
      have := ih found
      simp only [weight, List.length_nil]; omega
    | .piece (byte :: tail) =>
      simp only [next?] at found
      have size := congrArg List.length (List.take_append_drop chunk (byte :: tail))
      have some : 0 < ((byte :: tail).take chunk).length := by simp [chunk]
      simp only [List.length_append] at size
      split at found
      · simp only [Option.some.injEq, Prod.mk.injEq, Except.ok.injEq] at found
        obtain ⟨rfl, rfl⟩ := found
        simp only [weight]
        omega
      · simp only [Option.some.injEq, Prod.mk.injEq, Except.ok.injEq] at found
        obtain ⟨rfl, rfl⟩ := found
        simp only [weight]
        omega

end Arrival

structure Inbound where
  queue : List Arrival := []
  ended : Bool := false
  decoder : Decoder := {}

inductive Incoming where
  | frame (frame : Frame)
  | failed (error : Error)
  | pending
deriving DecidableEq

namespace Inbound

def arrive (inbound : Inbound) (arrival : Arrival) : Inbound :=
  { inbound with queue := inbound.queue ++ [arrival] }

/-- Once everything has been read, reads report the end. -/
def finish (inbound : Inbound) : Inbound := { inbound with ended := true }

/-- Reads until a frame is complete. Bytes of an incomplete frame stay with the decoder whatever
happens, so that a later read goes on from there. -/
def readFrame (inbound : Inbound) : Incoming × Inbound :=
  match inbound.decoder.next with
  | (.frame frame, decoder) => (.frame frame, { inbound with decoder })
  | (.failed cause, decoder) => (.failed (.decode cause), { inbound with decoder })
  | (.incomplete, decoder) =>
    match _next : Arrival.next? inbound.queue with
    | none => (if inbound.ended then .failed .connectionClosed else .pending, { inbound with decoder })
    | some (.error cause, queue) => (.failed (.io cause), { inbound with queue, decoder })
    | some (.ok bytes, queue) => readFrame { inbound with queue, decoder := decoder.append bytes }
termination_by Arrival.weight inbound.queue
decreasing_by exact (Arrival.weight_next _next).1

def weight (inbound : Inbound) : Nat :=
  Arrival.weight inbound.queue + inbound.decoder.buffer.length

theorem readFrame_lighter {inbound rest : Inbound} {frame : Frame}
    (read : inbound.readFrame = (.frame frame, rest)) : rest.weight < inbound.weight := by
  fun_induction readFrame inbound with
  | case1 inbound _ _ taken =>
    cases read
    have := Decoder.next_shorter taken
    simp only [weight]; omega
  | case2 => cases read
  | case3 => split at read <;> cases read
  | case4 => cases read
  | case5 inbound decoder same bytes queue found ih =>
    have lighter := ih read
    have moved := (Arrival.weight_next found).2
    have kept : decoder = inbound.decoder := by
      unfold Decoder.next at same
      split at same <;> cases same
      rfl
    subst kept
    simp only [weight, Decoder.append, List.length_append] at lighter ⊢
    omega

/-- The frames of one pass over everything that has arrived, and the failure that ended it, if one
did. -/
structure Pass where
  frames : List Frame
  failure : Option Error
  rest : Inbound

/-- `read` holds the frames already read, last one first. -/
def readOnto (read : List Frame) (inbound : Inbound) : Pass :=
  match _next : inbound.readFrame with
  | (.pending, rest) => { frames := read.reverse, failure := none, rest }
  | (.failed error, rest) => { frames := read.reverse, failure := some error, rest }
  | (.frame frame, rest) => readOnto (frame :: read) rest
termination_by inbound.weight
decreasing_by exact readFrame_lighter _next

def readAll (inbound : Inbound) : Pass := inbound.readOnto []

end Inbound

end Subscriber
