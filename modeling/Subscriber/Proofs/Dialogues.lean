import Subscriber.Proofs.RequestLine

/-! Dialogues of a session with a server that refuses nothing: the moves of the session on one side, the remarks of the
server on the other. -/

namespace Subscriber

namespace Activity

theorem move_keeps (a : Activity Link) (move : Move Link) : a.transport.Keeps (a.move move).transport := by
  cases move with
  | step step => exact begin_keeps a step
  | turn task =>
    by_cases wants : task ∈ a.ready
    · have turned : a.move (.turn task) = { a with ready := a.ready.erase task }.run task := if_pos wants
      rw [turned]
      cases task with
      | call call => exact .of_eq (runCall_failure { a with ready := a.ready.erase (.call call) } call)
      | background => exact runBackground_keeps { a with ready := a.ready.erase .background }
      | pump => exact .of_eq (runPump_delivers Link.steady_failure pumpTurn { a with ready := a.ready.erase .pump }).transport
    · have still : a.move (.turn task) = a := if_neg wants
      rw [still]
      exact .of_eq rfl

end Activity

open Activity (Move Numbered moves)

/-- A session and its server, with all that was done and said so far. -/
structure Dialogue where
  activity : Activity Link
  history : List (Move Link) := []
  /-- The requests in the order in which they were made, without those given up before there was room for them. -/
  line : List Request := []
  /-- What the server has said, and the server after each remark. -/
  said : List (Remark × Server) := []
  fed : Bytes := []

namespace Dialogue

def heard (limit : Nat) (dialogue : Dialogue) : List Frame :=
  ({ limit, buffer := dialogue.activity.transport.outbound.accepted } : Decoder).drain.frames

def server (dialogue : Dialogue) : Server := ({} : Server).after dialogue.said

def make (dialogue : Dialogue) (move : Move Link) : Dialogue :=
  { dialogue with
    activity := dialogue.activity.move move,
    history := dialogue.history ++ [move],
    line := dialogue.activity.lineUp dialogue.line move }

def say (dialogue : Dialogue) (remark : Remark) (after : Server) : Dialogue :=
  { dialogue with said := dialogue.said ++ [(remark, after)] }

def deliver (dialogue : Dialogue) (piece : Bytes) : Dialogue :=
  { dialogue.make (.step (.transport (Connection.Event.arrive (.piece piece)))) with fed := dialogue.fed ++ piece }

def giveTurns : Nat → Dialogue → Dialogue
  | 0, dialogue => dialogue
  | turns + 1, dialogue =>
    match dialogue.activity.ready with
    | [] => dialogue
    | task :: _ => giveTurns turns (dialogue.make (.turn task))

def settle (dialogue : Dialogue) : Dialogue := dialogue.giveTurns dialogue.activity.turns

/-- Everything that can happen while the server neither refuses anything nor hangs up. Whoever wants a turn first has it
first; steps of any kind come in between. The server reads commands from the bytes written to it, with a size limit of its
own, and may say whatever the protocol allows then but no; what is delivered are its own bytes, in pieces of any size. -/
inductive Reached (limit queueSize : Nat) : Dialogue → Prop where
  | start : Reached limit queueSize { activity := { transport := .ofConnection {} queueSize } }
  | step {dialogue} (reached : Reached limit queueSize dialogue) (step : Activity.Step Link) (plain : step.Plain)
      (numbered : Numbered (dialogue.history ++ [.step step])) : Reached limit queueSize (dialogue.make (.step step))
  | turn {dialogue} (reached : Reached limit queueSize dialogue) {task : Task} {rest : List Task}
      (front : dialogue.activity.ready = task :: rest) : Reached limit queueSize (dialogue.make (.turn task))
  | say {dialogue} (reached : Reached limit queueSize dialogue) (remark : Remark) (after : Server) (grants : remark.Grants)
      (spoken : Server.Utters (dialogue.heard limit) dialogue.server remark after) :
    Reached limit queueSize (dialogue.say remark after)
  | deliver {dialogue} (reached : Reached limit queueSize dialogue) (piece : Bytes)
      (genuine : dialogue.fed ++ piece <+: Frame.encodeItems (Server.frames dialogue.said)) :
    Reached limit queueSize (dialogue.deliver piece)

section
variable {dialogue : Dialogue} {limit queueSize : Nat}

private theorem Reached.giveTurns (reached : Reached limit queueSize dialogue) (turns : Nat) :
    Reached limit queueSize (dialogue.giveTurns turns) := by
  induction turns generalizing dialogue with
  | zero => exact reached
  | succ turns ih =>
    unfold Dialogue.giveTurns
    split
    · exact reached
    next front => exact ih (reached.turn front)

theorem Reached.settle (reached : Reached limit queueSize dialogue) : Reached limit queueSize dialogue.settle :=
  reached.giveTurns dialogue.activity.turns

theorem history_settle (dialogue : Dialogue) : dialogue.history ⊆ dialogue.settle.history := by
  have given (turns : Nat) (dialogue : Dialogue) : dialogue.history ⊆ (dialogue.giveTurns turns).history := by
    induction turns generalizing dialogue with
    | zero => exact List.Subset.refl _
    | succ turns ih =>
      unfold Dialogue.giveTurns
      split
      · exact List.Subset.refl _
      next task _ _ => exact List.Subset.trans (List.subset_append_left _ _) (ih (dialogue.make (.turn task)))
  exact given dialogue.activity.turns dialogue

/-- What a session does between two steps of a script is nothing but giving turns. -/
theorem activity_settle (dialogue : Dialogue) : dialogue.settle.activity = dialogue.activity.settle := by
  have given (turns : Nat) (dialogue : Dialogue) :
      (dialogue.giveTurns turns).activity = dialogue.activity.runTasks turns := by
    induction turns generalizing dialogue with
    | zero => rfl
    | succ turns ih =>
      cases front : dialogue.activity.ready with
      | nil => simp only [Dialogue.giveTurns, Activity.runTasks, front]
      | cons task rest =>
        simp only [Dialogue.giveTurns, Activity.runTasks, front, ih]
        exact congrArg (Activity.runTasks turns) (Activity.move_turn front)
  exact given dialogue.activity.turns dialogue

theorem activity_step (dialogue : Dialogue) (step : Activity.Step Link) :
    (dialogue.make (.step step)).settle.activity = (dialogue.activity.step step).2 := activity_settle _

/-- The history tells all that has been done. -/
theorem Reached.moved (reached : Reached limit queueSize dialogue) :
    dialogue.activity = moves { transport := .ofConnection {} queueSize } dialogue.history ∧ Numbered dialogue.history := by
  have made {dialogue : Dialogue} (move : Move Link)
      (before : dialogue.activity = moves { transport := .ofConnection {} queueSize } dialogue.history) :
      (dialogue.make move).activity =
        moves { transport := .ofConnection {} queueSize } (dialogue.make move).history := by
    change dialogue.activity.move move = moves _ (dialogue.history ++ [move])
    rw [Activity.moves_append, ← before]
    rfl
  have unstarted {dialogue : Dialogue} {move : Move Link} (starts : move.call? = none) (before : Numbered dialogue.history) :
      Numbered (dialogue.make move).history := by
    change Numbered (dialogue.history ++ [move])
    rw [Numbered, List.filterMap_append, List.filterMap_cons_none starts, List.filterMap_nil, List.append_nil]
    exact before
  induction reached with
  | start => exact ⟨rfl, List.nodup_nil⟩
  | step reached step plain numbered ih => exact ⟨made _ ih.1, numbered⟩
  | turn reached front ih => exact ⟨made _ ih.1, unstarted rfl ih.2⟩
  | say reached remark after grants spoken ih => exact ih
  | deliver reached piece genuine ih =>
    exact ⟨made (.step (.transport (Connection.Event.arrive (.piece piece)))) ih.1, unstarted rfl ih.2⟩

end

end Dialogue

end Subscriber
