import Subscriber.Message
import Subscriber.Text.Lossy

/-! Changes to the names that a session tracks, as its listener is told of them. -/

namespace Subscriber

/-- What a listener is told: a name was added or removed, and how many there are then. -/
structure Change where
  kind : Message.Kind
  added : Bool
  name : Bytes
  count : Nat
  /-- Part of the removal of all names, which takes them in an order of its own. -/
  sweeping : Bool := false

namespace Change

def heading (change : Change) : String :=
  (if change.added then "+" else "-") ++
    (match change.kind with
      | .channel => "channel"
      | .pattern => "pattern")

def line (heading : String) (name : String) (count : Nat) : String :=
  heading ++ " " ++ name ++ " (" ++ toString count ++ ")"

def sameSweep (a b : Change) : Bool :=
  a.sweeping && b.sweeping && a.kind == b.kind && a.added == b.added

/-- Names in the order of their texts, counts in the order in which they were reported. -/
def sweepLines (changes : List Change) : List String :=
  let names := (changes.map fun change => Text.lossy change.name).mergeSort fun a b => decide (a ≤ b)
  (changes.zip names).map fun (change, name) => line change.heading name change.count

/-- The lines of a record. Since a sweep has no order that a reader could rely on, its lines are
sorted by name. -/
def lines (changes : List Change) : List String :=
  (changes.splitBy sameSweep).flatMap sweepLines

end Change

end Subscriber
