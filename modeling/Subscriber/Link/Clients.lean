import Subscriber.Link

/-! Callers who share a connection directly. Each call has a number; its answer reaches the caller
unless the call has been given up. Between two steps everything is done that needs no waiting. -/

namespace Subscriber

structure Clients where
  link : Link
  calls : List Nat := []
  finished : List (Nat × Except Fault Unit) := []
  notices : List Notice := []

namespace Clients

inductive Step where
  | network (event : Connection.Event)
  | request (call : Nat) (verb : Verb) (targets : List Bytes)
  | abandon (call : Nat)
  | observe (kind : Message.Kind)
  | poll (observer : Nat)
  | drain (observer : Nat)
  | drop (observer : Nat)
  | close

inductive Reply where
  | nothing
  | closed
  | known (known : Bool)
  | observer (id : Nat)
  | noObserver
  | item (item : Poll (Except Fault Message))
  /-- The items up to the first poll that waits or finds the end. -/
  | items (items : List (Except Fault Message)) (last : Poll (Except Fault Message))

def answer (clients : Clients) (call : Nat) (result : Except Fault Unit) : Clients :=
  if clients.calls.contains call then
    { clients with
      calls := clients.calls.erase call,
      finished := clients.finished ++ [(call, result)] }
  else clients

def request (clients : Clients) (call : Nat) (verb : Verb) (targets : List Bytes) : Clients :=
  let (result, link) := clients.link.request call verb targets
  let waiting := { clients with link, calls := clients.calls ++ [call] }
  match result with
  | none => waiting
  | some result => waiting.answer call result

/-- Whether there was such a call. -/
def abandon (clients : Clients) (call : Nat) : Bool × Clients :=
  if clients.calls.contains call then
    (true, { clients with link := clients.link.abandon call, calls := clients.calls.erase call })
  else (false, clients)

/-- All calls are given up before the connection is. -/
def close (clients : Clients) : Clients :=
  { clients with link := (clients.calls.foldl Link.abandon clients.link).close, calls := [] }

def hear (clients : Clients) : Signal Fault → Clients
  | .answer call result => clients.answer call result
  | .notice notice => { clients with notices := clients.notices ++ [notice] }
  | .admitted _ | .observed => clients

def settle (clients : Clients) : Clients :=
  let (signals, link) := clients.link.work.collect
  signals.foldl hear { clients with link }

/-- A step before anything that follows from it is done. A closed connection takes no requests and
no observers. -/
def begin (clients : Clients) : Step → Reply × Clients
  | .network event => (.nothing, { clients with link := clients.link.meet event })
  | .request call verb targets =>
    if clients.link.closed then (.closed, clients) else (.nothing, clients.request call verb targets)
  | .abandon call =>
    let (known, clients) := clients.abandon call
    (.known known, clients)
  | .observe kind =>
    if clients.link.closed then (.closed, clients)
    else
      let (id, link) := clients.link.observe kind
      (.observer id, { clients with link })
  | .poll observer =>
    match clients.link.observers.find? observer with
    | none => (.noObserver, clients)
    | some _ =>
      let (item, observers) := clients.link.observers.poll observer
      (.item item, { clients with link := { clients.link with observers } })
  | .drain observer =>
    match clients.link.observers.find? observer with
    | none => (.noObserver, clients)
    | some _ =>
      let (items, last, observers) := clients.link.observers.drain observer
      (.items items last, { clients with link := { clients.link with observers } })
  | .drop observer =>
    (.nothing, { clients with
      link := { clients.link with observers := clients.link.observers.release observer } })
  | .close => (.nothing, if clients.link.closed then clients else clients.close)

def step (clients : Clients) (step : Step) : Reply × Clients :=
  let (reply, begun) := clients.begin step
  (reply, begun.settle)

end Clients

end Subscriber
