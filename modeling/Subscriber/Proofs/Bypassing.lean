import Subscriber.Proofs.Moves

/-! What goes past the pump of a session: calls, the commands that they send and the gate in front of them. It neither
touches the pump nor puts it to sleep. -/

namespace Subscriber

namespace Activity

section
variable {τ α : Type} {view : τ → α} {a b c : Activity τ}

/-- What goes past the pump; `view` is what there is of a transport besides its commands. -/
structure Bypasses (view : τ → α) (before after : Activity τ) : Prop where
  pump : after.pump = before.pump
  transport : view after.transport = view before.transport
  awake : .pump ∈ before.ready → .pump ∈ after.ready

theorem Bypasses.trans (first : Bypasses view a b) (second : Bypasses view b c) : Bypasses view a c :=
  ⟨second.pump.trans first.pump, second.transport.trans first.transport,
    fun awake => second.awake (first.awake awake)⟩

theorem Bypasses.wake (bypasses : Bypasses view a b) (task : Task) : Bypasses view a (b.wake task) :=
  ⟨by rw [wake_pump, bypasses.pump], by rw [wake_transport, bypasses.transport],
    fun awake => wake_mono (bypasses.awake awake) task⟩

theorem forget_bypasses (a : Activity τ) (call : Nat) : Bypasses view a (a.forget call) :=
  ⟨rfl, rfl, fun awake => List.mem_filter.mpr ⟨awake, rfl⟩⟩

theorem finish_bypasses (a : Activity τ) (call : Nat) (result : Except Error Unit) :
    Bypasses view a (a.finish call result) :=
  (forget_bypasses a call).trans ⟨rfl, rfl, id⟩

private theorem letThrough_bypasses (a : Activity τ) (call : Nat) : Bypasses view a (a.letThrough call).2 := by
  unfold letThrough
  split
  next phase _ =>
    have released : Bypasses view a (setStage { a with gate := { a.gate with calls := a.gate.calls.erase call } } call
        (.released phase)) := ⟨rfl, rfl, id⟩
    exact released.wake (.call call)
  · exact ⟨rfl, rfl, id⟩

end

section
variable {τ α : Type} [Transport τ] {view : τ → α}

/-- Commands are sent and given up without a change to the rest of the transport. -/
structure Reserved (view : τ → α) : Prop where
  submit : ∀ transport call verb targets, view (Transport.submit transport call verb targets).2 = view transport
  abandon : ∀ transport call, view (Transport.abandon transport call) = view transport

theorem submit_bypasses (reserved : Reserved view) (a : Activity τ) (call : Nat) (phase : Phase) :
    Bypasses view a (a.submit call phase) := by
  have sent := reserved.submit a.transport call phase.verb phase.targets
  unfold submit
  split
  next transport submitted =>
    rw [submitted] at sent
    have moved : Bypasses view a (setStage { a with transport } call (.sent phase)) := ⟨rfl, sent, id⟩
    exact moved.wake .background
  next answer transport submitted =>
    rw [submitted] at sent
    have moved (session : Session) : Bypasses view a { a with transport, session } := ⟨rfl, sent, id⟩
    split
    next result session _ => exact (moved session).trans (finish_bypasses _ call result)
    next next session _ =>
      split
      · exact ⟨rfl, sent, id⟩
      · exact (moved session).trans (submit_bypasses reserved _ call next)
termination_by phase.rank
decreasing_by exact Session.resume_rank (by assumption)

theorem proceed_bypasses (reserved : Reserved view) (a : Activity τ) (call : Nat) (progress : Progress) :
    Bypasses view a (a.proceed call progress) := by
  cases progress with
  | finished result => exact finish_bypasses a call result
  | asking phase =>
    unfold proceed
    dsimp only
    split
    · exact ⟨rfl, rfl, id⟩
    · exact submit_bypasses reserved a call phase

theorem runCall_bypasses (reserved : Reserved view) (a : Activity τ) (call : Nat) :
    a.runCall call = a ∨ ∃ after, Bypasses view a after ∧ a.runCall call = after.adjustPump := by
  have proceeded (session : Session) (progress : Progress) :
      Bypasses view a ({ a with session }.proceed call progress) :=
    Bypasses.trans (b := { a with session }) ⟨rfl, rfl, id⟩ (proceed_bypasses reserved _ call progress)
  unfold runCall
  split
  · exact .inr ⟨_, proceeded _ _, rfl⟩
  next phase _ => exact .inr ⟨_, submit_bypasses reserved a call phase, rfl⟩
  · exact .inr ⟨_, proceeded _ _, rfl⟩
  · exact .inl rfl

theorem begin_bypasses (reserved : Reserved view) (a : Activity τ) (step : Step τ)
    (other : match step with
      | .call .. | .abandon _ | .setGate _ | .letThrough _ | .letFirstThrough => True
      | _ => False) : Bypasses view a (a.begin step).2 ∧ (a.begin step).2.session = a.session := by
  cases step with
  | call id operation =>
    have started : Bypasses view a { a with calls := a.calls ++ [(id, .starting operation)] } :=
      ⟨rfl, rfl, fun awake => awake⟩
    exact ⟨started.wake (.call id), wake_session _ _⟩
  | abandon call =>
    change Bypasses view a (a.abandon call).2 ∧ (a.abandon call).2.session = a.session
    unfold abandon
    split
    · exact ⟨⟨rfl, rfl, id⟩, rfl⟩
    · exact ⟨(forget_bypasses a call).trans ⟨rfl, reserved.abandon _ _, id⟩, rfl⟩
  | setGate shut => exact ⟨⟨rfl, rfl, id⟩, rfl⟩
  | letThrough call => exact ⟨letThrough_bypasses a call, letThrough_session a call⟩
  | letFirstThrough =>
    unfold begin
    dsimp only
    split
    · exact ⟨⟨rfl, rfl, id⟩, rfl⟩
    next call _ _ => exact ⟨letThrough_bypasses a call, letThrough_session a call⟩
  | _ => exact False.elim other

end

end Activity

end Subscriber
