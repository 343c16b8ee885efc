import Subscriber.Proofs.Asides
import Subscriber.Proofs.Heeding
import Subscriber.Proofs.LoopbackPumps
import Subscriber.Proofs.TransportAgreement

/-! Coming to rest. Over a loopback every turn leaves less to do, as long as the pump is the one that is wanted and no two
observers have one number; so whatever is done to a session, it is at rest before the next step. -/

namespace Subscriber

namespace Observers
variable {ε : Type} {observers : Observers ε} {id : Nat}

/-- Every observer has a number of its own, which has been given out before. -/
structure Tagged (observers : Observers ε) : Prop where
  numbered : observers.Numbered
  distinct : (observers.members.map (·.id)).Nodup

theorem Tagged.map (tagged : observers.Tagged) {change : Observer ε → Observer ε}
    (same : ∀ observer, (change observer).id = observer.id) :
    ({ observers with members := observers.members.map change } : Observers ε).Tagged := by
  refine ⟨tagged.numbered.map same, ?_⟩
  have ids : (observers.members.map change).map (·.id) = observers.members.map (·.id) := by
    rw [List.map_map]
    exact List.map_congr_left fun observer _ => same observer
  exact ids ▸ tagged.distinct

private theorem Tagged.register (tagged : observers.Tagged) (kind : Message.Kind) : (observers.register kind).2.Tagged := by
  have opened : Touched none observers (observers.register kind).2 := .opened kind
  refine ⟨opened.numbered tagged.numbered, ?_⟩
  change ((observers.members ++ [_]).map _).Nodup
  rw [List.map_append]
  refine List.nodup_append.mpr ⟨tagged.distinct, List.nodup_singleton _, ?_⟩
  intro old member new last same
  obtain ⟨observer, inside, rfl⟩ := List.mem_map.mp member
  obtain rfl := List.mem_singleton.mp last
  exact absurd same (Nat.ne_of_lt (tagged.numbered observer inside))

theorem Tagged.release (tagged : observers.Tagged) (id : Nat) : (observers.release id).Tagged := by
  have dropped : Touched none observers (observers.release id) := .dropped id
  exact ⟨dropped.numbered tagged.numbered, (List.filter_sublist.map _).nodup tagged.distinct⟩

private theorem Tagged.deliver (tagged : observers.Tagged) (message : Message) : (observers.deliver message).Tagged :=
  tagged.map fun observer => by split <;> rfl

private theorem Tagged.fail (tagged : observers.Tagged) (kind : Message.Kind) (fault : ε) : (observers.fail kind fault).Tagged :=
  tagged.map fun observer => by split <;> rfl

theorem backlog_eq (observers : Observers ε) : observers.backlog = (observers.members.map (·.queued.length)).sum := by
  unfold backlog
  rw [List.sum, List.foldr_map]

private theorem backlog_register (observers : Observers ε) (kind : Message.Kind) :
    (observers.register kind).2.backlog = observers.backlog := by
  simp [backlog_eq, register]

theorem backlog_release (observers : Observers ε) (id : Nat) : (observers.release id).backlog ≤ observers.backlog := by
  rw [backlog_eq, backlog_eq]
  unfold release
  dsimp only
  induction observers.members with
  | nil => exact Nat.le_refl _
  | cons observer others ih =>
    rw [List.filter_cons]
    split <;> (simp only [List.map_cons, List.sum_cons]; omega)

/-- With one item taken from one observer there is one item less. -/
theorem backlog_taken (tagged : observers.Tagged) {observer : Observer ε} {item : Except ε Message}
    {queued : List (Except ε Message)} (found : observers.find? id = some observer) (waits : observer.queued = item :: queued) :
    backlog { observers with
      members := observers.members.map fun other => if other.id = id then { other with queued } else other } + 1 =
      observers.backlog := by
  have distinct := tagged.distinct
  unfold find? at found
  rw [backlog_eq, backlog_eq]
  dsimp only
  generalize observers.members = members at found distinct ⊢
  -- The first observer with the number is the only one.
  induction members with
  | nil => cases found
  | cons first others ih =>
    rw [List.map_cons, List.nodup_cons] at distinct
    simp only [List.map_cons, List.sum_cons]
    by_cases own : first.id = id
    · rw [List.find?_cons_of_pos (by simpa using own)] at found
      obtain rfl := Option.some.inj found
      have apart : others.map (fun other => if other.id = id then { other with queued } else other) = others := by
        refine (List.map_congr_left fun other member => if_neg fun same => ?_).trans (List.map_id _)
        exact distinct.1 (List.mem_map.mpr ⟨other, member, same.trans own.symm⟩)
      rw [apart, if_pos own, waits, List.length_cons]
      dsimp only
      omega
    · rw [List.find?_cons_of_neg (by simpa using own)] at found
      have later := ih found distinct.2
      rw [if_neg own]
      omega

end Observers

/-- What comes of asking: an item, and there is less to be asked for, or nothing at all. -/
def Poll.Spends {α σ : Type} (less : σ → Prop) (source : σ) (asked : Poll α × σ) : Prop :=
  (∃ value, asked.1 = .ready value) ∧ less asked.2 ∨ (∀ value, asked.1 ≠ .ready value) ∧ asked.2 = source

private theorem Observers.poll_spends {ε : Type} {observers : Observers ε} (tagged : observers.Tagged) (id : Nat) :
    Poll.Spends (fun after => after.Tagged ∧ after.backlog + 1 = observers.backlog) observers (observers.poll id) := by
  unfold poll
  split
  · exact .inr ⟨nofun, rfl⟩
  next observer found =>
    split
    · refine .inr ⟨?_, rfl⟩
      intro value
      dsimp only
      split <;> exact nofun
    next item queued waits =>
      exact .inl ⟨⟨item, rfl⟩, tagged.map fun other => by split <;> rfl, backlog_taken tagged found waits⟩

namespace Merge
variable {σ α : Type} {ask : Side → σ → Poll α × σ} {less : σ → Prop} {source : σ}

private theorem pollLast_spends (asked : ∀ side, Poll.Spends less source (ask side source)) (merge : Merge) (side : Side) :
    Poll.Spends less source ((merge.pollLast ask side source).1, (merge.pollLast ask side source).2.2) := by
  have found := asked side
  unfold pollLast
  split
  all_goals
    next answer =>
      rw [answer] at found
      exact found

/-- At most one side is found to have something. -/
theorem poll_spends (asked : ∀ side, Poll.Spends less source (ask side source)) (merge : Merge) :
    Poll.Spends less source ((merge.poll ask source).1, (merge.poll ask source).2.2) := by
  unfold poll
  split
  · exact .inr ⟨nofun, rfl⟩
  · exact pollLast_spends asked merge .right
  · exact pollLast_spends asked merge .left
  · have first := asked merge.turn
    dsimp only
    split
    next answer =>
      rw [answer] at first
      exact first
    next answer =>
      rw [answer] at first
      obtain ⟨⟨_, impossible⟩, -⟩ | ⟨-, same⟩ := first
      · cases impossible
      · cases same
        exact pollLast_spends asked _ _
    next answer =>
      rw [answer] at first
      obtain ⟨⟨_, impossible⟩, -⟩ | ⟨-, same⟩ := first
      · cases impossible
      · cases same
        have second := asked merge.turn.other
        split
        next other =>
          rw [other] at second
          obtain ⟨⟨_, impossible⟩, -⟩ | ⟨-, same⟩ := second
          · cases impossible
          · exact .inr ⟨nofun, same⟩
        next other =>
          rw [other] at second
          exact second

end Merge

namespace Activity
open Fanout (Quits)

variable {a b : Activity Loopback}

def load (activity : Activity Loopback) : Nat := activity.ready.length + activity.transport.observers.backlog

/-- The pump is the one that is wanted. -/
structure Moored (activity : Activity Loopback) : Prop where
  aligned : activity.pump.map (·.generation) = activity.session.fanout.pump
  tagged : activity.transport.observers.Tagged

/-- One state gives way to another with so much more to do at most. Nobody but the pump comes to want a turn. -/
structure Eases (more : Nat) (before after : Activity Loopback) : Prop where
  tagged : before.transport.observers.Tagged → after.transport.observers.Tagged
  load : after.load ≤ before.load + more
  ready : ∀ task ∈ after.ready, task ∈ before.ready ∨ task = .pump

theorem Eases.refl (a : Activity Loopback) : Eases 0 a a := ⟨id, Nat.le_refl _, fun _ => .inl⟩

theorem Eases.trans {first second : Nat} {c : Activity Loopback} (earlier : Eases first a b) (later : Eases second b c) :
    Eases (first + second) a c := by
  refine ⟨fun tagged => later.tagged (earlier.tagged tagged), ?_, fun task member => ?_⟩
  · have := earlier.load
    have := later.load
    omega
  · rcases later.ready task member with old | own
    · exact earlier.ready task old
    · exact .inr own

theorem Eases.more {more : Nat} (eases : Eases more a b) : Eases (more + 1) a b :=
  ⟨eases.tagged, Nat.le_succ_of_le eases.load, eases.ready⟩

/-- The observers are the same, and nobody comes to want a turn. -/
theorem Eases.of_sublist (ready : b.ready.Sublist a.ready) (observers : b.transport.observers = a.transport.observers) :
    Eases 0 a b := by
  refine ⟨fun tagged => observers ▸ tagged, ?_, fun task member => .inl (ready.subset member)⟩
  unfold Activity.load
  rw [observers]
  exact Nat.add_le_add_right ready.length_le _

theorem eases_wake (a : Activity Loopback) : Eases 1 a (a.wake .pump) := by
  refine ⟨fun tagged => (wake_transport a .pump).symm ▸ tagged, ?_, ?_⟩
  · unfold load
    rw [wake_transport]
    unfold wake
    split
    · omega
    · rw [List.length_append, List.length_singleton]
      omega
  · unfold wake
    split
    · exact fun _ => .inl
    · intro task member
      exact (List.mem_append.mp member).imp_right List.mem_singleton.mp

theorem stopPump_eases (a : Activity Loopback) : Eases 0 a a.stopPump := by
  unfold stopPump
  split
  · exact .refl a
  next pump _ =>
    let observers := a.transport.observers
    have fewer : ((observers.release pump.channels).release pump.patterns).backlog ≤ observers.backlog :=
      Nat.le_trans (Observers.backlog_release _ _) (observers.backlog_release pump.channels)
    exact ⟨fun tagged => (tagged.release pump.channels).release pump.patterns,
      show _ ≤ a.load from Nat.add_le_add (List.length_filter_le _ a.ready) fewer,
      fun task member => .inl (List.mem_filter.mp member).1⟩

private theorem startPump_eases (a : Activity Loopback) (generation : Nat) : Eases 1 a (a.startPump generation) := by
  let observers := a.transport.observers
  let opened : Activity Loopback := { a with
    transport := { a.transport with observers := ((observers.register .channel).2.register .pattern).2 },
    pump := some { generation, channels := observers.next, patterns := (observers.register .channel).2.next } }
  have backlog : opened.transport.observers.backlog = observers.backlog :=
    (Observers.backlog_register _ .pattern).trans (observers.backlog_register .channel)
  have registered : Eases 0 a opened :=
    ⟨fun tagged => (tagged.register .channel).register .pattern,
      Nat.le_of_eq (congrArg (a.ready.length + ·) backlog), fun _ => .inl⟩
  exact registered.trans (eases_wake opened)

theorem adjustPump_eases (a : Activity Loopback) : Eases 1 a a.adjustPump := by
  have stopped := stopPump_eases a
  unfold adjustPump
  split
  · exact stopped.more
  · split
    · exact (Eases.refl a).more
    · exact stopped.trans (startPump_eases _ _)

/-- After a look at the pump it is the one that is wanted. -/
theorem adjustPump_aligned {τ : Type} [Transport τ] (a : Activity τ) :
    a.adjustPump.pump.map (·.generation) = a.adjustPump.session.fanout.pump := by
  rw [adjustPump_session]
  unfold adjustPump
  split
  next unwanted =>
    rw [unwanted, Option.map_eq_none_iff]
    unfold stopPump
    split
    next stopped => exact stopped
    · rfl
  next generation wanted =>
    rw [wanted]
    split
    next current =>
      obtain ⟨pump, piped, same⟩ := (Option.any_eq_true _ _).mp current
      rw [piped]
      exact congrArg some (beq_iff_eq.mp same)
    · unfold startPump
      rw [wake_pump]
      rfl

theorem adjustPump_same {τ : Type} [Transport τ] {a : Activity τ}
    (aligned : a.pump.map (·.generation) = a.session.fanout.pump) : a.adjustPump = a := by
  unfold adjustPump
  split
  next unwanted =>
    rw [unwanted, Option.map_eq_none_iff] at aligned
    rw [stopPump, aligned]
  next generation wanted =>
    rw [wanted, Option.map_eq_some_iff] at aligned
    obtain ⟨pump, piped, same⟩ := aligned
    rw [if_pos]
    rw [piped, Option.any_some, same, beq_self_eq_true]

theorem adjustPump_released (released : a.session.fanout.pump = none) : Eases 0 a a.adjustPump := by
  unfold adjustPump
  rw [released]
  exact stopPump_eases a

private theorem adjustPump_quits (aligned : a.pump.map (·.generation) = a.session.fanout.pump) (pump : b.pump = a.pump)
    (quits : Quits a.session.fanout b.session.fanout) : Eases 0 b b.adjustPump := by
  rcases quits with same | cancelled
  · rw [adjustPump_same (by rw [pump, aligned, same])]
    exact .refl b
  · exact adjustPump_released (congrArg Fanout.pump cancelled)

/-- Over a loopback commands are answered at once, so nobody is woken for the answer. -/
theorem submit_sublist (a : Activity Loopback) (call : Nat) (phase : Phase) : (a.submit call phase).ready.Sublist a.ready := by
  unfold submit
  split
  next unanswered => cases congrArg Prod.fst unanswered
  next answer transport _ =>
    split
    · exact List.filter_sublist
    next next session _ =>
      split
      · exact List.Sublist.refl _
      · exact submit_sublist { a with transport, session } call next
termination_by phase.rank
decreasing_by exact Session.resume_rank (by assumption)

private theorem proceed_sublist (a : Activity Loopback) (call : Nat) (progress : Progress) :
    (a.proceed call progress).ready.Sublist a.ready := by
  unfold proceed
  split
  · exact List.filter_sublist
  · split
    · exact List.Sublist.refl _
    · exact submit_sublist a call _

private theorem runCall_moored (moored : a.Moored) (call : Nat) : (a.runCall call).Moored ∧ Eases 0 a (a.runCall call) := by
  have proceeded (session : Session) (quits : Quits a.session.fanout session.fanout) (progress : Progress) :
      (proceed { a with session } call progress).adjustPump.Moored ∧
        Eases 0 a (proceed { a with session } call progress).adjustPump := by
    have past := proceed_bypasses Loopback.reserved { a with session } call progress
    have after := proceed_advances (Session.quitting a.session.fanout) { a with session } call progress quits
    have went : Eases 0 a (proceed { a with session } call progress) :=
      .of_sublist (proceed_sublist { a with session } call progress) past.transport
    have eased := went.trans (adjustPump_quits moored.aligned past.pump after)
    exact ⟨⟨adjustPump_aligned _, eased.tagged moored.tagged⟩, eased⟩
  unfold runCall
  split
  next operation _ => exact proceeded _ (Session.start_quits a.session operation) _
  next phase _ =>
    have past := submit_bypasses Loopback.reserved a call phase
    have after := submit_advances (Session.quitting a.session.fanout) a call phase (.inl rfl)
    have eased := (Eases.of_sublist (submit_sublist a call phase) past.transport).trans
      (adjustPump_quits moored.aligned past.pump after)
    exact ⟨⟨adjustPump_aligned _, eased.tagged moored.tagged⟩, eased⟩
  next phase answer _ => exact proceeded _ (Session.resume_quits a.session phase answer) _
  · exact ⟨moored, .refl a⟩

def Drawn (before after : Loopback) : Prop :=
  after.observers.Tagged ∧ after.observers.backlog + 1 = before.observers.backlog

private theorem askSide_spends {loopback : Loopback} (tagged : loopback.observers.Tagged) (pump : Pump) (side : Side) :
    Poll.Spends (Drawn loopback) loopback (askSide pump side loopback) := by
  have polled (id : Nat) : Poll.Spends (Drawn loopback) loopback (Transport.poll loopback id) := by
    change Poll.Spends (Drawn loopback) loopback
      ((loopback.observers.poll id).1.mapFault _, { loopback with observers := (loopback.observers.poll id).2 })
    rcases Observers.poll_spends tagged id with ⟨⟨item, found⟩, less⟩ | ⟨nothing, same⟩
    · exact .inl ⟨⟨_, by rw [found]; rfl⟩, less⟩
    · refine .inr ⟨?_, by rw [same]⟩
      intro value
      cases answer : (loopback.observers.poll id).1 with
      | ready item => exact absurd answer (nothing item)
      | _ => exact nofun
  cases side with
  | left =>
    unfold askSide
    dsimp only
    split
    · exact .inr ⟨nofun, rfl⟩
    · exact polled pump.channels
  | right =>
    unfold askSide
    dsimp only
    split
    · exact .inr ⟨nofun, rfl⟩
    · exact polled pump.patterns

/-- What a poll of the pump comes to in an activity: the transport may have been drawn from, and the pump is still the
one it was. -/
structure Polled (a : Activity Loopback) (pump : Pump) (item : Poll (Except Error Message)) (after : Activity Loopback) :
    Prop where
  spends : Poll.Spends (Drawn a.transport) a.transport (item, after.transport)
  generation : after.pump.map (·.generation) = some pump.generation
  session : after.session = a.session
  ready : after.ready = a.ready

private theorem pollPump_polled (tagged : a.transport.observers.Tagged) (pump : Pump) :
    Polled a pump (a.pollPump pump (askSide pump)).1 (a.pollPump pump (askSide pump)).2 :=
  ⟨Merge.poll_spends (askSide_spends tagged pump) pump.merge, rfl, rfl, rfl⟩

theorem Polled.eases {pump : Pump} {item : Poll (Except Error Message)} (polled : Polled a pump item b)
    (tagged : a.transport.observers.Tagged) (session : Session) : Eases 0 a { b with session } := by
  refine ⟨fun _ => ?_, ?_, fun task member => .inl (polled.ready ▸ member)⟩
  · rcases polled.spends with ⟨-, left, -⟩ | ⟨-, same⟩
    · exact left
    · rw [show b.transport = a.transport from same]
      exact tagged
  · unfold Activity.load
    dsimp only
    rw [polled.ready]
    rcases polled.spends with ⟨-, -, less⟩ | ⟨-, same⟩
    · dsimp only at less
      omega
    · rw [show b.transport = a.transport from same]
      exact Nat.le_refl _

private theorem Polled.ends {pump : Pump} {item : Poll (Except Error Message)} (polled : Polled a pump item b)
    (tagged : a.transport.observers.Tagged) {session : Session} (released : session.fanout.pump = none) :
    (adjustPump { b with session }).Moored ∧ Eases 0 a (adjustPump { b with session }) := by
  have eased := (polled.eases tagged session).trans (adjustPump_released released)
  exact ⟨⟨adjustPump_aligned _, eased.tagged tagged⟩, eased⟩

private theorem Polled.delivers {pump : Pump} {message : Message} (polled : Polled a pump (.ready (.ok message)) b)
    (current : b.session.fanout.pump = some pump.generation) :
    Moored { b with session := b.session.publish pump.generation (.ok message) } ∧
      load { b with session := b.session.publish pump.generation (.ok message) } + 1 = a.load := by
  have drawn : Drawn a.transport b.transport := by
    rcases polled.spends with ⟨-, drawn⟩ | ⟨nothing, -⟩
    · exact drawn
    · exact absurd rfl (nothing _)
  have delivered : (b.session.publish pump.generation (.ok message)).fanout.pump = some pump.generation := by
    rw [Session.fanout_publish, Fanout.publish_ok current]
    exact current
  refine ⟨⟨polled.generation.trans delivered.symm, drawn.1⟩, ?_⟩
  unfold Activity.load
  dsimp only
  rw [polled.ready, ← drawn.2]
  exact Nat.add_assoc ..

/-- A turn of the pump leaves less to read if it has to come again. -/
theorem runPump_moored (moored : a.Moored) (budget : Nat) :
    (a.runPump budget).Moored ∧ Eases 1 a (a.runPump budget) ∧ (0 < budget → Eases 0 a (a.runPump budget)) := by
  induction budget generalizing a with
  | zero =>
    unfold runPump
    split
    · exact ⟨moored, (Eases.refl a).more, fun none => absurd none (Nat.lt_irrefl 0)⟩
    next pump piped =>
      have same : id (pump.merge.poll askNothing a.transport).2.2 = id a.transport :=
        Merge.poll_keeps (fun _ _ => rfl) pump.merge a.transport
      have observers := congrArg Loopback.observers same
      have aligned := moored.aligned
      rw [piped] at aligned
      have turned : Eases 0 a (a.pollPump pump askNothing).2 := .of_sublist (List.Sublist.refl _) observers
      have woken := turned.trans (eases_wake _)
      refine ⟨⟨?_, woken.tagged moored.tagged⟩, woken, fun none => absurd none (Nat.lt_irrefl 0)⟩
      rw [wake_pump, wake_session]
      exact aligned
  | succ budget ih =>
    suffices turn : (a.runPump (budget + 1)).Moored ∧ Eases 0 a (a.runPump (budget + 1)) from
      ⟨turn.1, turn.2.more, fun _ => turn.2⟩
    unfold runPump
    split
    · exact ⟨moored, .refl a⟩
    next pump piped =>
      have polled := pollPump_polled moored.tagged pump
      have wanted := moored.aligned.symm
      rw [piped] at wanted
      have current {between : Activity Loopback} {item : Poll (Except Error Message)} (polled : Polled a pump item between) :
          between.session.fanout.pump = some pump.generation := polled.session ▸ wanted
      split
      next between found =>
        rw [found] at polled
        have eased : Eases 0 a between := polled.eases moored.tagged between.session
        exact ⟨⟨polled.generation.trans (current polled).symm, eased.tagged moored.tagged⟩, eased⟩
      next between found =>
        rw [found] at polled
        refine polled.ends moored.tagged ?_
        unfold Session.finish Fanout.finish
        rw [if_pos (current polled), if_pos (current polled)]
        rfl
      next message between found =>
        rw [found] at polled
        obtain ⟨later, less⟩ := polled.delivers (current polled)
        obtain ⟨after, eases, -⟩ := ih later
        refine ⟨after, fun _ => eases.tagged later.tagged, less ▸ eases.load, ?_⟩
        intro task member
        exact polled.ready ▸ eases.ready task member
      next error between found =>
        rw [found] at polled
        refine polled.ends moored.tagged ?_
        rw [Session.fanout_publish, Fanout.publish_error (current polled)]
        rfl

/-- Every turn leaves the pump in order and brings no more to do. -/
theorem run_moored (moored : a.Moored) (task : Task) : (a.run task).Moored ∧ Eases 0 a (a.run task) := by
  cases task with
  | call call => exact runCall_moored moored call
  | background => exact ⟨moored, .refl a⟩
  | pump =>
    obtain ⟨after, -, eases⟩ := runPump_moored moored pumpTurn
    exact ⟨after, eases (Nat.zero_lt_succ _)⟩

/-- Everything is done in as many turns as there is to do. -/
theorem Moored.settles (moored : a.Moored) {bound : Nat} (enough : a.load ≤ bound) :
    ∃ count rest, Settles count a rest ∧ count ≤ bound ∧ rest.Moored := by
  -- Every turn takes a task away, and brings one back only for something read.
  induction bound generalizing a with
  | zero =>
    have idle : a.ready.length = 0 := Nat.eq_zero_of_le_zero (Nat.le_trans (Nat.le_add_right _ _) enough)
    exact ⟨0, a, .rest (List.length_eq_zero_iff.mp idle), Nat.le_refl 0, moored⟩
  | succ bound ih =>
    cases wanting : a.ready with
    | nil => exact ⟨0, a, .rest wanting, Nat.zero_le _, moored⟩
    | cons task ready =>
      obtain ⟨after, eases⟩ := run_moored (a := { a with ready }) ⟨moored.aligned, moored.tagged⟩ task
      have fewer : Activity.load { a with ready } + 1 = a.load := by
        unfold load
        rw [wanting, List.length_cons]
        exact Nat.add_right_comm ..
      have less := eases.load
      obtain ⟨count, rest, settles, few, moored⟩ := ih after (by omega)
      exact ⟨count + 1, rest, .turn wanting settles, Nat.succ_le_succ few, moored⟩

/-- A session settles in a state of rest, however many turns more there are. -/
theorem Moored.settle (moored : a.Moored) :
    a.settle.Moored ∧ a.settle.ready = [] ∧ ∀ turns, a.load ≤ turns → runTasks turns a = a.settle := by
  obtain ⟨count, rest, settles, few, after⟩ := moored.settles (Nat.le_refl _)
  have enough : a.load ≤ a.turns := by
    unfold load turns
    change _ ≤ _ + a.transport.observers.backlog
    omega
  have ends : a.settle = rest := settles.runTasks (Nat.le_trans few enough)
  rw [ends]
  exact ⟨after, settles.rested, fun turns more => settles.runTasks (Nat.le_trans few more)⟩

theorem settle_quiet (quiet : a.ready = []) : a.settle = a := by
  have rests : Settles 0 a a := .rest quiet
  exact rests.settle (Nat.zero_le 16)

theorem settle_turn {task : Task} (wanting : a.ready = [task]) (done : (run { a with ready := [] } task).ready = []) :
    a.settle = run { a with ready := [] } task := by
  have settles : Settles 1 a (run { a with ready := [] } task) := .turn wanting (.rest done)
  exact settles.settle (by decide)

theorem settle_first {task : Task} (wanting : a.ready = [task]) :
    ∃ tasks : List Task, a.settle = (run { a with ready := [] } task).moves (tasks.map .turn) := by
  have some : a.turns ≠ 0 := by
    unfold turns
    omega
  obtain ⟨turns, more⟩ := Nat.exists_eq_succ_of_ne_zero some
  unfold settle
  rw [more, runTasks, wanting]
  exact runTasks_moves turns _

theorem Moored.wake (moored : a.Moored) (task : Task) : (a.wake task).Moored := by
  refine ⟨?_, (wake_transport a task).symm ▸ moored.tagged⟩
  rw [wake_pump, wake_session]
  exact moored.aligned

private theorem Moored.told (moored : a.Moored) (loopback : Loopback) (kind : Message.Kind) :
    ((loopback.observed kind).foldl hear a).Moored := by
  unfold Loopback.observed
  split
  · exact moored
  · change (a.hear .observed).Moored
    unfold hear
    dsimp only
    split
    · exact moored.wake .pump
    · exact moored

private theorem affect_moored (moored : a.Moored) (event : Loopback.Event) : (a.affect event).Moored := by
  apply Moored.wake
  have told {observers : Observers Refusal} (tagged : observers.Tagged) (kind : Message.Kind) :
      ((a.transport.observed kind).foldl hear { a with transport := { a.transport with observers } }).Moored :=
    Moored.told (a := { a with transport := { a.transport with observers } }) ⟨moored.aligned, tagged⟩ a.transport kind
  cases event with
  | refuseNext refusal => exact ⟨moored.aligned, moored.tagged⟩
  | emit message => exact told (moored.tagged.deliver message) message.kind
  | fail kind refusal => exact told (moored.tagged.fail kind refusal) kind

theorem begin_moored (moored : a.Moored) (step : Step Loopback) : (a.begin step).2.Moored := by
  have adjusted (session : Session) : (adjustPump { a with session }).Moored :=
    ⟨adjustPump_aligned _, (adjustPump_eases { a with session }).tagged moored.tagged⟩
  have aside {b : Activity Loopback} (past : Bypasses Loopback.observers a b ∧ b.session = a.session) : b.Moored := by
    refine ⟨?_, past.1.transport ▸ moored.tagged⟩
    rw [past.1.pump, past.2]
    exact moored.aligned
  cases step with
  | openStream => exact ⟨moored.aligned, moored.tagged⟩
  | poll stream =>
    cases found : a.session.fanout.stream? stream with
    | none => exact (begin_poll_none found).symm ▸ moored
    | some attachment => exact (begin_poll_some found).symm ▸ adjusted _
  | drain stream =>
    cases found : a.session.fanout.stream? stream with
    | none => exact (begin_drain_none found).symm ▸ moored
    | some attachment => exact (begin_drain_some found).symm ▸ adjusted _
  | drop stream => exact adjusted _
  | cut kind =>
    change (a.cut kind).Moored
    have aligned := moored.aligned
    unfold cut
    split
    · exact moored
    next pump piped =>
      rw [piped] at aligned
      apply Moored.wake
      refine ⟨aligned.symm ▸ ?_, moored.tagged⟩
      cases kind <;> rfl
  | transport event => exact affect_moored moored event
  | _ => exact aside (begin_bypasses Loopback.reserved a _ trivial)

theorem step_moored (moored : a.Moored) (step : Step Loopback) : (a.step step).2.Moored ∧ (a.step step).2.ready = [] := by
  obtain ⟨after, idle, -⟩ := (begin_moored moored step).settle
  exact ⟨after, idle⟩

end Activity

end Subscriber
