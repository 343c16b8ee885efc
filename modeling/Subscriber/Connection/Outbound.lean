import Subscriber.Error

/-! The sending side of a connection: how the network treats write calls at the moment, and all
bytes it has accepted so far. -/

namespace Subscriber

inductive Acceptance where
  | everything
  | atMost (count : Nat)
  /-- Calls wait until this changes. -/
  | waiting
  | refusing (cause : IoError)
  /-- Bytes are accepted, but the flush behind them fails. -/
  | refusingFlush (cause : IoError)
  /-- So many bytes in all, and then this changes by itself, even inside a command. -/
  | upTo (count : Nat) (later : Acceptance)
deriving DecidableEq

namespace Acceptance

inductive Call where
  | takes (count : Nat)
  | waits
  | fails (cause : IoError)
deriving DecidableEq

/-- A call that takes no byte of a text that is not empty fails, for it would be repeated without
end. -/
def call (acceptance : Acceptance) (offered : Nat) : Call :=
  match acceptance with
  | .everything | .refusingFlush _ => .takes offered
  | .atMost 0 => .fails .writeZero
  | .atMost (count + 1) => .takes (min (count + 1) offered)
  | .waiting => .waits
  | .refusing cause => .fails cause
  | .upTo 0 later => later.call offered
  | .upTo (count + 1) _ => .takes (min (count + 1) offered)

/-- How calls fare behind one that took so many bytes. -/
def behind (taken : Nat) : Acceptance → Acceptance
  | .upTo 0 later => later.behind taken
  | .upTo (count + 1) later => .upTo (count + 1 - taken) later
  | acceptance => acceptance

def flushFailure? : Acceptance → Option IoError
  | .refusingFlush cause => some cause
  | .upTo 0 later => later.flushFailure?
  | _ => none

theorem call_takes_pos {acceptance : Acceptance} {offered count : Nat} (some : 0 < offered)
    (taken : acceptance.call offered = .takes count) : 0 < count := by
  induction acceptance with
  | upTo limit later ih =>
    cases limit with
    | zero => exact ih taken
    | succ limit => simp only [call, Call.takes.injEq] at taken; omega
  | atMost limit =>
    cases limit with
    | zero => cases taken
    | succ limit => simp only [call, Call.takes.injEq] at taken; omega
  | _ => cases taken <;> exact some

end Acceptance

structure Outbound where
  acceptance : Acceptance := .everything
  accepted : Bytes := []

/-- What sending comes to. `blocked` carries the bytes that were not accepted. -/
inductive Sending where
  | done
  | blocked (unsent : Bytes)
  | failed (cause : IoError)
deriving DecidableEq

namespace Outbound

/-- Write calls until all bytes are accepted, then a flush. -/
def send (outbound : Outbound) (bytes : Bytes) : Sending × Outbound :=
  if _some : bytes.length = 0 then
    match outbound.acceptance.flushFailure? with
    | none => (.done, outbound)
    | some cause => (.failed cause, outbound)
  else
    match _call : outbound.acceptance.call bytes.length with
    | .waits => (.blocked bytes, outbound)
    | .fails cause => (.failed cause, outbound)
    | .takes count =>
      send { acceptance := outbound.acceptance.behind count, accepted := outbound.accepted ++ bytes.take count }
        (bytes.drop count)
termination_by bytes.length
decreasing_by
  have := Acceptance.call_takes_pos (by omega) _call
  simp only [List.length_drop]; omega

end Outbound

end Subscriber
