import Subscriber.Observers

/-! Two streams read as one. The two sides are asked alternately, and the side whose turn it is not
is asked when the other has nothing to give. -/

namespace Subscriber

inductive Side where
  | left
  | right
deriving DecidableEq

def Side.other : Side → Side
  | .left => .right
  | .right => .left

structure Merge where
  /-- The side to be asked first at the next poll. -/
  turn : Side := .left
  leftEnded : Bool := false
  rightEnded : Bool := false
deriving DecidableEq

namespace Merge

variable {σ α : Type}

def markEnded (merge : Merge) : Side → Merge
  | .left => { merge with leftEnded := true }
  | .right => { merge with rightEnded := true }

/-- The only side that is left, when the other has ended. -/
def pollLast (merge : Merge) (ask : Side → σ → Poll α × σ) (side : Side) (source : σ) :
    Poll α × Merge × σ :=
  match ask side source with
  | (.ended, source) => (.ended, merge.markEnded side, source)
  | (answer, source) => (answer, merge, source)

/-- Every poll passes the turn on, whether it finds something or not, as long as both sides go on. -/
def poll (merge : Merge) (ask : Side → σ → Poll α × σ) (source : σ) : Poll α × Merge × σ :=
  match merge.leftEnded, merge.rightEnded with
  | true, true => (.ended, merge, source)
  | true, false => merge.pollLast ask .right source
  | false, true => merge.pollLast ask .left source
  | false, false =>
    let side := merge.turn
    let merge := { merge with turn := side.other }
    match ask side source with
    | (.ready value, source) => (.ready value, merge, source)
    | (.ended, source) => (merge.markEnded side).pollLast ask side.other source
    | (.pending, source) =>
      match ask side.other source with
      | (.ended, source) => (.pending, merge.markEnded side.other, source)
      | (answer, source) => (answer, merge, source)

end Merge

end Subscriber
