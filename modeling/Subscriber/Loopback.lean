import Subscriber.Transport

/-! A connection without a server. It records commands and answers each at once, can be told to
refuse the next one, and passes on whatever messages and failures it is given. -/

namespace Subscriber

structure Loopback where
  commands : List (Verb × List Bytes) := []
  refusal : Option Refusal := none
  observers : Observers Refusal := {}

namespace Loopback

inductive Event where
  /-- The next command is refused and not recorded. -/
  | refuseNext (refusal : Refusal)
  | emit (message : Message)
  | fail (kind : Message.Kind) (refusal : Refusal)

def execute (loopback : Loopback) (verb : Verb) (targets : List Bytes) : Except Refusal Unit × Loopback :=
  match loopback.refusal with
  | some refusal => (.error refusal, { loopback with refusal := none })
  | none => (.ok (), { loopback with commands := loopback.commands ++ [(verb, targets)] })

/-- The signal that observers of a kind have something new, if there are any. -/
def observed (loopback : Loopback) (kind : Message.Kind) : List (Signal Error) :=
  if loopback.observers.liveOf kind = 0 then [] else [.observed]

def meet (loopback : Loopback) : Event → List (Signal Error) × Loopback
  | .refuseNext refusal => ([], { loopback with refusal := some refusal })
  | .emit message =>
    (loopback.observed message.kind,
      { loopback with observers := loopback.observers.deliver message })
  | .fail kind refusal =>
    (loopback.observed kind, { loopback with observers := loopback.observers.fail kind refusal })

def describe (loopback : Loopback) : String :=
  "MockPubSubConnection \x7b commands: " ++ toString loopback.commands.length ++ " \x7d"

def describeEmitter : String := "Emitter \x7b .. \x7d"

end Loopback

instance : Transport Loopback where
  Event := Loopback.Event
  meet := Loopback.meet
  submit loopback _ verb targets :=
    let (answer, loopback) := loopback.execute verb targets
    (some (answer.mapError Refusal.toError), loopback)
  abandon loopback _ := loopback
  work loopback := ([], loopback)
  observe loopback kind :=
    let (id, observers) := loopback.observers.register kind
    (id, { loopback with observers })
  poll loopback observer :=
    let (item, observers) := loopback.observers.poll observer
    (item.mapFault Refusal.toError, { loopback with observers })
  release loopback observer := { loopback with observers := loopback.observers.release observer }
  backlog loopback := loopback.observers.backlog

end Subscriber
