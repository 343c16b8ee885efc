import Subscriber.Message

/-! Observers of a connection. Each sees the messages of one kind that arrive while it is
registered, and at most one failure behind them. -/

namespace Subscriber

/-- What asking a stream for its next item comes to. -/
inductive Poll (α : Type) where
  | ready (value : α)
  | pending
  | ended

structure Observer (ε : Type) where
  id : Nat
  kind : Message.Kind
  queued : List (Except ε Message) := []
  /-- Whether the connection may still add to it. -/
  live : Bool := true

structure Observers (ε : Type) where
  next : Nat := 0
  members : List (Observer ε) := []

namespace Observers

variable {ε : Type}

def register (observers : Observers ε) (kind : Message.Kind) : Nat × Observers ε :=
  (observers.next,
    { next := observers.next + 1,
      members := observers.members ++ [{ id := observers.next, kind }] })

/-- An observer of a connection that has failed before: it sees the failure and nothing else. -/
def registerFailed (observers : Observers ε) (kind : Message.Kind) (fault : ε) : Nat × Observers ε :=
  (observers.next,
    { next := observers.next + 1,
      members := observers.members ++
        [{ id := observers.next, kind, queued := [.error fault], live := false }] })

def feeds (kind : Message.Kind) (observer : Observer ε) : Bool := observer.live && observer.kind == kind

def liveOf (observers : Observers ε) (kind : Message.Kind) : Nat :=
  (observers.members.filter (feeds kind)).length

def live (observers : Observers ε) : Nat := (observers.members.filter (·.live)).length

def deliver (observers : Observers ε) (message : Message) : Observers ε :=
  { observers with
    members := observers.members.map fun observer =>
      if feeds message.kind observer then
        { observer with queued := observer.queued ++ [.ok message] }
      else observer }

/-- Every observer of the kind sees the failure, and the connection forgets them. -/
def fail (observers : Observers ε) (kind : Message.Kind) (fault : ε) : Observers ε :=
  { observers with
    members := observers.members.map fun observer =>
      if feeds kind observer then
        { observer with queued := observer.queued ++ [.error fault], live := false }
      else observer }

/-- Observers end behind what they have queued. -/
def close (observers : Observers ε) : Observers ε :=
  { observers with
    members := observers.members.map fun observer => { observer with live := false } }

def find? (observers : Observers ε) (id : Nat) : Option (Observer ε) :=
  observers.members.find? (·.id == id)

def poll (observers : Observers ε) (id : Nat) : Poll (Except ε Message) × Observers ε :=
  match observers.find? id with
  | none => (.ended, observers)
  | some observer =>
    match observer.queued with
    | [] => (if observer.live then .pending else .ended, observers)
    | item :: queued =>
      (.ready item,
        { observers with
          members := observers.members.map fun other =>
            if other.id = id then { other with queued } else other })

def release (observers : Observers ε) (id : Nat) : Observers ε :=
  { observers with members := observers.members.filter (·.id != id) }

def drain (observers : Observers ε) (id : Nat) :
    List (Except ε Message) × Poll (Except ε Message) × Observers ε :=
  match observers.find? id with
  | none => ([], .ended, observers)
  | some observer =>
    (observer.queued, if observer.live then .pending else .ended,
      { observers with
        members := observers.members.map fun other =>
          if other.id = id then { other with queued := [] } else other })

def backlog (observers : Observers ε) : Nat :=
  observers.members.foldr (fun observer total => observer.queued.length + total) 0

end Observers

end Subscriber
