import Subscriber.Link

/-! What a session needs of a connection: commands that are answered at once or later, observers
for both kinds of messages, and work that goes on in the background. Failures come in the session's
own terms. -/

namespace Subscriber

def Signal.mapFault {ε δ : Type} (f : ε → δ) : Signal ε → Signal δ
  | .answer call result => .answer call (result.mapError f)
  | .admitted call => .admitted call
  | .observed => .observed
  | .notice event => .notice event

def Poll.mapFault {ε δ α : Type} (f : ε → δ) : Poll (Except ε α) → Poll (Except δ α)
  | .ready item => .ready (item.mapError f)
  | .pending => .pending
  | .ended => .ended

class Transport (τ : Type) where
  Event : Type
  meet : τ → Event → List (Signal Error) × τ
  /-- Sends a command for a call. The answer, if it is there at once. -/
  submit : τ → Nat → Verb → List Bytes → Option (Except Error Unit) × τ
  abandon : τ → Nat → τ
  /-- Background work, as far as it goes without waiting. -/
  work : τ → List (Signal Error) × τ
  observe : τ → Message.Kind → Nat × τ
  poll : τ → Nat → Poll (Except Error Message) × τ
  release : τ → Nat → τ
  backlog : τ → Nat

instance : Transport Link where
  Event := Connection.Event
  meet link event := ([], link.meet event)
  submit link call verb targets :=
    let (answer, link) := link.request call verb targets
    (answer.map (·.mapError Fault.toError), link)
  abandon := Link.abandon
  work link :=
    let (signals, link) := link.work.collect
    (signals.map (·.mapFault Fault.toError), link)
  observe := Link.observe
  poll link observer :=
    let (item, observers) := link.observers.poll observer
    (item.mapFault Fault.toError, { link with observers })
  release link observer := { link with observers := link.observers.release observer }
  backlog link := link.inbound.weight + link.observers.backlog + link.waiting.length

end Subscriber
