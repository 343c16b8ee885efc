import Mathlib.Data.Fintype.EquivFin
import Subscriber.Proofs.Attending

/-! Calls on a connection that has failed. Nobody who asked for something is left without an answer, and nobody who
asks for something later will be, as long as no write is blocked. -/

namespace Subscriber

namespace Link

private theorem receive_unheard {link : Link} (nobody : link.pending = []) (push : Push) :
    (link.receive push).pending = [] ∧
      ∀ call result, .answer call result ∈ (link.receive push).signals → .answer call result ∈ link.signals := by
  have noted (notice : Notice) : (link.note notice).pending = [] ∧
      ∀ call result, .answer call result ∈ (link.note notice).signals → .answer call result ∈ link.signals :=
    ⟨nobody, fun _ _ told => by simpa [note, signal] using told⟩
  cases push with
  | message message =>
    unfold receive
    dsimp only
    split
    · exact ⟨nobody, fun _ _ told => told⟩
    · exact ⟨nobody, fun _ _ told => by simpa [signal] using told⟩
  | acknowledgement verb =>
    unfold receive acknowledge
    rw [nobody]
    exact noted _
  | refusal text =>
    unfold receive refuse
    rw [nobody]
    exact noted _
  | _ => exact noted _

private theorem receiveAll_unheard {link : Link} (nobody : link.pending = []) (frames : List Frame) :
    ∀ call result, .answer call result ∈ (link.receiveAll frames).signals → .answer call result ∈ link.signals := by
  induction frames generalizing link with
  | nil => exact fun _ _ told => told
  | cons frame frames ih =>
    obtain ⟨still, first⟩ := receive_unheard nobody (.ofFrame frame)
    exact fun call result told => first call result (ih still call result told)

private theorem read_unheard {link : Link} {fault : Fault} (failed : link.failure = some fault) (nobody : link.pending = [])
    {call : Nat} {result : Except Fault Unit} (told : .answer call result ∈ link.read.signals) :
    .answer call result ∈ link.signals := by
  have still : { link with inbound := link.inbound.readAll.rest }.pending = [] := nobody
  have passed : .answer call result ∈ link.passed.signals → .answer call result ∈ link.signals :=
    receiveAll_unheard still link.inbound.readAll.frames call result
  cases reading : link.reading with
  | false =>
    rw [read, if_neg (by simp [reading])] at told
    exact told
  | true =>
    cases outcome : link.inbound.readAll.failure with
    | none =>
      rw [read_complete reading outcome] at told
      exact passed told
    | some error =>
      rw [read_broken reading outcome, fail_failed (passed_keeps link fault failed)] at told
      exact passed told

/-- A blocked write keeps everything behind it as it is. -/
theorem work_blocked {link : Link} {unsent : Bytes} (sending : link.writer = .sending unsent)
    (blocked : link.outbound.send unsent = (.blocked unsent, link.outbound)) : link.work = link.read := by
  obtain ⟨inbound, reading, pending, observers, failure, signals, read⟩ := read_eq link
  have still : link.read.writer = .sending unsent := by
    rw [read]
    exact sending
  have sent : link.read.send unsent = link.read := by
    rw [send, read]
    dsimp only
    rw [blocked]
    dsimp only
    rw [sending]
  have served : link.read.serve = link.read := by
    rw [serve]
    split
    · rfl
    · rw [if_neg (by simp [still])]
  have written : link.read.write = link.read := by
    rw [write, still]
    dsimp only
    rw [sent, served]
  rw [work, written, wind, still]
  cases link.read.closed <;> rfl

end Link

namespace Clients

/-- What callers make of the signals of a pass. -/
structure Hears (signals : List (Signal Fault)) (before after : Clients) : Prop where
  once : after.calls.Nodup
  finished : before.finished <+: after.finished
  waits : ∀ call ∈ after.calls, call ∈ before.calls ∧ ∀ result, .answer call result ∉ signals
  told : ∀ call ∈ before.calls, call ∈ after.calls ∨
    ∃ result, .answer call result ∈ signals ∧ (call, result) ∈ after.finished
  own : ∀ entry ∈ after.finished, entry ∈ before.finished ∨ entry.1 ∈ before.calls ∧ .answer entry.1 entry.2 ∈ signals

section
variable {signals : List (Signal Fault)} {clients last : Clients} {call : Nat} {result : Except Fault Unit}

private theorem Hears.aside {signal : Signal Fault} (later : Hears signals clients last)
    (silent : ∀ call result, Signal.answer call result ≠ signal) : Hears (signal :: signals) clients last := by
  refine ⟨later.once, later.finished, fun call waits => ?_, fun call waits => ?_, fun entry ends => ?_⟩
  · obtain ⟨early, unheard⟩ := later.waits call waits
    exact ⟨early, fun result member => (List.mem_cons.mp member).elim (silent call result) (unheard result)⟩
  · exact (later.told call waits).imp_right fun ⟨result, member, ends⟩ => ⟨result, List.mem_cons_of_mem _ member, ends⟩
  · exact (later.own entry ends).imp_right fun ⟨own, member⟩ => ⟨own, List.mem_cons_of_mem _ member⟩

private theorem Hears.unheard (later : Hears signals clients last) (stranger : call ∉ clients.calls) :
    Hears (.answer call result :: signals) clients last := by
  refine ⟨later.once, later.finished, fun other waits => ?_, fun other waits => ?_, fun entry ends => ?_⟩
  · obtain ⟨early, unheard⟩ := later.waits other waits
    refine ⟨early, fun given member => ?_⟩
    rcases List.mem_cons.mp member with same | behind
    · cases same
      exact stranger early
    · exact unheard given behind
  · exact (later.told other waits).imp_right fun ⟨given, member, ends⟩ => ⟨given, List.mem_cons_of_mem _ member, ends⟩
  · exact (later.own entry ends).imp_right fun ⟨own, member⟩ => ⟨own, List.mem_cons_of_mem _ member⟩

private theorem Hears.answered (once : clients.calls.Nodup) (waiting : call ∈ clients.calls)
    (later : Hears signals { clients with
      calls := clients.calls.erase call, finished := clients.finished ++ [(call, result)] } last) :
    Hears (.answer call result :: signals) clients last := by
  refine ⟨later.once, (List.prefix_append _ _).trans later.finished, fun other waits => ?_, fun other waits => ?_,
    fun entry ends => ?_⟩
  · obtain ⟨early, unheard⟩ := later.waits other waits
    obtain ⟨different, before⟩ := once.mem_erase_iff.mp early
    refine ⟨before, fun given member => ?_⟩
    rcases List.mem_cons.mp member with same | behind
    · cases same
      exact different rfl
    · exact unheard given behind
  · by_cases same : other = call
    · subst same
      exact .inr ⟨result, List.mem_cons_self, later.finished.subset (List.mem_append_right _ List.mem_cons_self)⟩
    · exact (later.told other (once.mem_erase_iff.mpr ⟨same, waits⟩)).imp_right
        fun ⟨given, member, ends⟩ => ⟨given, List.mem_cons_of_mem _ member, ends⟩
  · rcases later.own entry ends with before | ⟨own, member⟩
    · rcases List.mem_append.mp before with old | this
      · exact .inl old
      · cases List.mem_singleton.mp this
        exact .inr ⟨waiting, List.mem_cons_self⟩
    · exact .inr ⟨(once.mem_erase_iff.mp own).2, List.mem_cons_of_mem _ member⟩

end

private theorem hears (signals : List (Signal Fault)) {clients : Clients} (once : clients.calls.Nodup) :
    Hears signals clients (signals.foldl hear clients) := by
  induction signals generalizing clients with
  | nil => exact ⟨once, List.prefix_refl _, fun _ waits => ⟨waits, by simp⟩, fun _ => .inl, fun _ => .inl⟩
  | cons signal signals ih =>
    cases signal with
    | admitted call => exact (ih once).aside (fun _ _ same => by cases same)
    | observed => exact (ih once).aside (fun _ _ same => by cases same)
    | notice notice =>
      have later : Hears signals { clients with notices := clients.notices ++ [notice] } _ := ih once
      have same : Hears signals clients _ := ⟨later.once, later.finished, later.waits, later.told, later.own⟩
      exact same.aside (fun _ _ same => by cases same)
    | answer call result =>
      by_cases waiting : call ∈ clients.calls
      · have heard : clients.hear (.answer call result) = { clients with
            calls := clients.calls.erase call, finished := clients.finished ++ [(call, result)] } :=
          if_pos (List.contains_iff_mem.mpr waiting)
        rw [List.foldl_cons, heard]
        exact .answered once waiting (ih (once.erase call))
      · have heard : clients.hear (.answer call result) = clients := if_neg (mt List.contains_iff_mem.mp waiting)
        rw [List.foldl_cons, heard]
        exact (ih once).unheard waiting

theorem answer_new {clients : Clients} {call : Nat} (new : call ∉ clients.calls) (result : Except Fault Unit) :
    ({ clients with calls := clients.calls ++ [call] } : Clients).answer call result =
      { clients with finished := clients.finished ++ [(call, result)] } := by
  unfold answer
  rw [if_pos (List.contains_iff_mem.mpr (by simp))]
  simp [List.erase_append_right _ new]

/-- How callers stand who have made certain calls so far. -/
structure Accounted (called : List Nat) (clients : Clients) : Prop where
  sound : clients.link.Sound
  collected : clients.link.signals = []
  held : ∀ call ∈ clients.calls, clients.link.Holds call
  once : clients.calls.Nodup
  left : clients.link.closed = true → clients.calls = []
  known : ∀ call ∈ clients.calls, call ∈ called
  finished : ∀ entry ∈ clients.finished, entry.1 ∈ called

namespace Accounted
variable {called : List Nat} {clients : Clients}

theorem settled (accounted : clients.Accounted called) :
    Hears clients.link.work.signals { clients with link := { clients.link.work with signals := [] } } clients.settle :=
  hears _ accounted.once

theorem settle (accounted : clients.Accounted called) :
    clients.settle.Accounted called ∧ clients.settle.link.Rests := by
  obtain ⟨attends, rests⟩ := accounted.sound.work
  have heard := accounted.settled
  have link := link_settle clients
  refine ⟨⟨?_, ?_, fun call waits => ?_, heard.once, fun closed => ?_, fun call waits => ?_, fun entry ends => ?_⟩, ?_⟩
  · rw [link]
    exact { attends.sound with }
  · rw [link]
  · obtain ⟨before, unheard⟩ := heard.waits call waits
    rw [link]
    refine (attends.held call (accounted.held call before)).resolve_right ?_
    rintro ⟨result, answered⟩
    exact unheard result answered
  · rw [link] at closed
    have none := accounted.left ((Link.closed_work clients.link).symm.trans closed)
    refine List.eq_nil_iff_forall_not_mem.mpr fun call waits => ?_
    have before : call ∈ clients.calls := (heard.waits call waits).1
    rw [none] at before
    cases before
  · exact accounted.known call (heard.waits call waits).1
  · rcases heard.own entry ends with before | ⟨own, -⟩
    · exact accounted.finished entry before
    · exact accounted.known _ own
  · rw [link]
    exact ⟨rests.served, rests.blocked⟩

private theorem settle_failed (accounted : clients.Accounted called) {fault : Fault} (failed : clients.link.failure = some fault)
    {call : Nat} (waits : call ∈ clients.calls) :
    call ∈ clients.settle.calls ∨ (call, .error fault) ∈ clients.settle.finished := by
  obtain ⟨attends, -⟩ := accounted.sound.work
  refine (accounted.settled.told call waits).imp_right ?_
  rintro ⟨result, answered, ends⟩
  rcases (attends.failing fault failed).2 call result answered with before | rfl
  · rw [accounted.collected] at before
    cases before
  · exact ends

theorem nobody (accounted : clients.Accounted called) (rests : clients.link.Rests) (failed : clients.link.failure ≠ none)
    (goesOn : ∀ unsent, clients.link.writer ≠ .sending unsent) : clients.calls = [] := by
  have sound := accounted.sound
  have empty : clients.link.queue = [] ∧ clients.link.waiting = [] := by
    cases writer : clients.link.writer with
    | idle =>
      have served := rests.served writer
      refine ⟨served, ?_⟩
      by_contra crowded
      have filled := sound.full crowded
      rw [served] at filled
      exact absurd sound.room (Nat.not_lt.mpr filled)
    | sending unsent => exact absurd writer (goesOn unsent)
    | stopped => exact sound.stopped writer
  refine List.eq_nil_iff_forall_not_mem.mpr fun call waits => ?_
  have holds := accounted.held call waits
  rw [Link.Holds, sound.failed failed, empty.1, empty.2] at holds
  simp at holds

private theorem ask (accounted : clients.Accounted called) (link : Link) {call : Nat} (fresh : call ∉ called)
    (sound : link.Sound) (collected : link.signals = []) (unclosed : link.closed = false)
    (held : ∀ other, clients.link.Holds other → link.Holds other) (own : link.Holds call) :
    Accounted (called ++ [call]) { clients with link, calls := clients.calls ++ [call] } where
  sound := sound
  collected := collected
  held other waits := by
    rcases List.mem_append.mp waits with before | this
    · exact held other (accounted.held other before)
    · exact List.mem_singleton.mp this ▸ own
  once := List.nodup_append.mpr ⟨accounted.once, by simp, fun other before last this => by
    rintro rfl
    exact fresh (List.mem_singleton.mp this ▸ accounted.known other before)⟩
  left closed := by cases unclosed.symm.trans closed
  known other waits := by
    rcases List.mem_append.mp waits with before | this
    · exact List.mem_append_left _ (accounted.known other before)
    · exact List.mem_append_right _ this
  finished entry ends := List.mem_append_left _ (accounted.finished entry ends)

/-- On a connection that has failed and writes nothing any more, everybody who waits is told of the failure. -/
theorem told_failed (accounted : clients.Accounted called) {fault : Fault} (failed : clients.link.failure = some fault)
    (goesOn : ∀ unsent, clients.link.writer ≠ .sending unsent) {call : Nat} (waits : call ∈ clients.calls) :
    (call, .error fault) ∈ clients.settle.finished := by
  obtain ⟨attends, -⟩ := accounted.sound.work
  obtain ⟨settled, rests⟩ := accounted.settle
  have link := link_settle clients
  have nobody : clients.settle.calls = [] := by
    refine settled.nobody rests ?_ fun unsent sending => ?_
    · rw [link]
      simp [(attends.failing fault failed).1]
    · rw [link] at sending
      obtain ⟨earlier, before⟩ := attends.quiet (by simp [failed]) unsent sending
      exact goesOn earlier before
  refine (accounted.settle_failed failed waits).resolve_left fun later => ?_
  rw [nobody] at later
  cases later

/-- Behind a blocked write nobody is told anything. -/
theorem untold_blocked (accounted : clients.Accounted called) {fault : Fault}
    (failed : clients.link.failure = some fault) {unsent : Bytes} (sending : clients.link.writer = .sending unsent)
    (blocked : clients.link.outbound.send unsent = (.blocked unsent, clients.link.outbound)) :
    ∀ entry ∈ clients.settle.finished, entry ∈ clients.finished := by
  intro entry ends
  refine (accounted.settled.own entry ends).resolve_right ?_
  rintro ⟨-, answered⟩
  rw [Link.work_blocked sending blocked] at answered
  have before := Link.read_unheard failed (accounted.sound.failed (by simp [failed])) answered
  rw [accounted.collected] at before
  cases before

theorem begin (accounted : clients.Accounted called) {step : Step} {begun : Clients} (begins : clients.Begins step begun)
    (fresh : ∀ request ∈ step.request?, request.call ∉ called) :
    begun.Accounted (called ++ step.request?.toList.map Request.call) := by
  have sound := accounted.sound
  have more {call : Nat} (member : call ∈ called) : call ∈ called ++ step.request?.toList.map Request.call :=
    List.mem_append_left _ member
  cases begins with
  | aside step _ inbound acceptance observers =>
    exact { accounted with
      sound := { sound with }
      known := fun call waits => more (accounted.known call waits)
      finished := fun entry ends => more (accounted.finished entry ends) }
  | enters request aimed unclosed running room =>
    refine accounted.ask { clients.link with queue := clients.link.queue ++ [request] } (fresh request rfl)
      { sound with full := fun crowded => ?_, stopped := fun stopped => absurd stopped running }
      accounted.collected unclosed (fun other holds => ?_) (.inr (.inl (by simp)))
    · exact absurd (sound.full crowded) (Nat.not_le.mpr room)
    · exact holds.imp_right fun later => later.imp_left fun queued => by simp [List.mem_map.mp queued]
  | waits request aimed unclosed running crowded =>
    refine accounted.ask { clients.link with waiting := clients.link.waiting ++ [request] } (fresh request rfl)
      { sound with full := fun _ => crowded, stopped := fun stopped => absurd stopped running }
      accounted.collected unclosed (fun other holds => ?_) (.inr (.inr (by simp)))
    exact holds.imp_right fun later => later.imp_right fun waiting => by simp [List.mem_map.mp waiting]
  | answered request result why =>
    have new : request.call ∉ clients.calls := mt (accounted.known _) (fresh request rfl)
    rw [answer_new new]
    refine { accounted with
      known := fun call waits => more (accounted.known call waits)
      finished := fun entry ends => ?_ }
    rcases List.mem_append.mp ends with before | this
    · exact more (accounted.finished entry before)
    · cases List.mem_singleton.mp this
      exact List.mem_append_right _ List.mem_cons_self
  | leaves call =>
    refine ⟨{ sound with full := fun crowded => ?_, stopped := fun stopped => ?_ },
      accounted.collected, fun other waits => ?_, accounted.once.erase call, fun closed => ?_, fun other waits => ?_,
      fun entry ends => more (accounted.finished entry ends)⟩
    · exact sound.full fun empty => crowded (by rw [Link.abandon, empty]; rfl)
    · obtain ⟨queue, waiting⟩ := sound.stopped stopped
      exact ⟨queue, by rw [Link.abandon, waiting]; rfl⟩
    · obtain ⟨different, before⟩ := accounted.once.mem_erase_iff.mp waits
      refine (accounted.held other before).imp_right fun later => later.imp_right fun waiting => ?_
      obtain ⟨request, member, rfl⟩ := List.mem_map.mp waiting
      exact List.mem_map_of_mem (List.mem_filter.mpr ⟨member, by simpa using different⟩)
    · change clients.calls.erase call = []
      rw [accounted.left closed]
      rfl
    · exact more (accounted.known other (accounted.once.mem_erase_iff.mp waits).2)
  | closes =>
    have nobody (call : Nat) : call ∉ clients.close.calls := List.not_mem_nil
    refine ⟨?_, ?_, fun call waits => absurd waits (nobody call), List.nodup_nil, fun _ => rfl,
      fun call waits => absurd waits (nobody call), fun entry ends => more (accounted.finished entry ends)⟩
    · rw [link_close]
      refine { sound with full := fun crowded => ?_, stopped := fun stopped => ?_ }
      · exact sound.full fun empty => crowded (by simp [empty])
      · obtain ⟨queue, waiting⟩ := sound.stopped stopped
        exact ⟨queue, by simp [waiting]⟩
    · rw [link_close]
      exact accounted.collected

end Accounted

/-- Whatever has happened, every call that has not been given up has its answer or its request with the connection. -/
theorem accounted (connection : Connection) (queueSize : Nat) {steps : List Step}
    (numbered : ((requests steps).map Request.call).Nodup) :
    ((start connection queueSize).after steps).Accounted ((requests steps).map Request.call) ∧
      ((start connection queueSize).after steps).link.Rests := by
  induction steps using List.reverseRecOn with
  | nil =>
    have room : 0 < max queueSize 1 := Nat.lt_of_lt_of_le Nat.one_pos (Nat.le_max_right queueSize 1)
    constructor
    · exact ⟨⟨room, absurd rfl, absurd rfl, nofun⟩, rfl, nofun, List.nodup_nil, nofun, nofun, nofun⟩
    · exact ⟨fun _ => rfl, nofun⟩
  | append_singleton steps step ih =>
    rw [requests_concat, List.map_append, List.nodup_append] at numbered
    obtain ⟨early, -, apart⟩ := numbered
    have fresh : ∀ request ∈ step.request?, request.call ∉ (requests steps).map Request.call :=
      fun request made before => apart _ before request.call (List.mem_map_of_mem (by simpa using made)) rfl
    have begun := (ih early).1.begin (begins _ step) fresh
    rw [after_concat, requests_concat, List.map_append]
    exact begun.settle

/-- What becomes of a call that is made when everything that can be done is done. -/
theorem answered_iff {clients : Clients} {called : List Nat} (accounted : clients.Accounted called)
    (rests : clients.link.Rests) {fault : Fault} (failed : clients.link.failure = some fault)
    (unclosed : clients.link.closed = false) (request : Request) (fresh : request.call ∉ called)
    (aimed : request.targets ≠ []) :
    (request.call, .error fault) ∈ (clients.step (.request request.call request.verb request.targets)).2.finished ↔
      ∀ unsent, clients.link.writer ≠ .sending unsent := by
  have begun := accounted.begin (begins clients (.request request.call request.verb request.targets))
    fun made same => by cases same; exact fresh
  have unheard {entry : Nat × Except Fault Unit} (ends : entry ∈ clients.finished) : entry.1 ≠ request.call :=
    fun same => fresh (same ▸ accounted.finished entry ends)
  rw [step, begin_request unclosed] at *
  rcases request_cases clients aimed with ⟨-, -, taken⟩ | ⟨-, -, taken⟩ | ⟨stopped, told⟩
  · rw [taken] at begun ⊢
    exact ⟨fun ends unsent sending => unheard (begun.untold_blocked failed sending (rests.blocked unsent sending) _ ends) rfl,
      fun goesOn => begun.told_failed failed goesOn (by simp)⟩
  · rw [taken] at begun ⊢
    exact ⟨fun ends unsent sending => unheard (begun.untold_blocked failed sending (rests.blocked unsent sending) _ ends) rfl,
      fun goesOn => begun.told_failed failed goesOn (by simp)⟩
  · rw [told, answer_new (mt (accounted.known _) fresh)] at begun ⊢
    have ends : (request.call, .error fault) ∈ clients.finished ++ [(request.call, .error clients.link.loss)] := by
      simp [Link.loss, failed]
    exact ⟨fun _ unsent sending => by simp [stopped] at sending, fun _ => begun.settled.finished.subset ends⟩

/-- On a connection that has failed nobody waits and everybody who calls is told of the failure, if and only if the
connection is closed or no write is blocked. -/
theorem nobody_hangs_iff {connection : Connection} {queueSize : Nat} {steps : List Step} {fault : Fault}
    (numbered : ((requests steps).map Request.call).Nodup)
    (failed : ((start connection queueSize).after steps).link.failure = some fault) :
    let clients := (start connection queueSize).after steps
    (clients.calls = [] ∧ ∀ request : Request, request.call ∉ (requests steps).map Request.call → request.targets ≠ [] →
      clients.link.closed = false →
      (request.call, .error fault) ∈ (clients.step (.request request.call request.verb request.targets)).2.finished) ↔
    clients.link.closed = true ∨ ∀ unsent, clients.link.writer ≠ .sending unsent := by
  intro clients
  obtain ⟨accounted, rests⟩ := accounted connection queueSize numbered
  constructor
  · rintro ⟨-, later⟩
    by_cases closed : clients.link.closed = true
    · exact .inl closed
    · have unclosed : clients.link.closed = false := by simpa using closed
      obtain ⟨call, fresh⟩ := Infinite.exists_notMem_finset ((requests steps).map Request.call).toFinset
      rw [List.mem_toFinset] at fresh
      let request : Request := { call, verb := .subscribe, targets := [[]] }
      exact .inr ((answered_iff accounted rests failed unclosed request fresh nofun).mp
        (later request fresh nofun unclosed))
  · rintro (closed | goesOn)
    · exact ⟨accounted.left closed, fun _ _ _ unclosed => by cases closed.symm.trans unclosed⟩
    · exact ⟨accounted.nobody rests (by simp [failed]) goesOn, fun request fresh aimed unclosed =>
        (answered_iff accounted rests failed unclosed request fresh aimed).mpr goesOn⟩

/-- Two calls wait when the server hangs up, one for its answer and one for room in the queue; a third comes later. -/
theorem nobody_hangs_hung_up :
    let steps : List Step := [.request 1 .subscribe [[97]], .request 2 .psubscribe [[98]], .network .finish]
    let clients := (start {} 1).after steps
    clients.link.failure = some .closed ∧ clients.calls = [] ∧
      (3, .error .closed) ∈ (clients.step (.request 3 .unsubscribe [[97]])).2.finished := by
  intro steps clients
  have failed : clients.link.failure = some .closed := by decide +kernel
  have goesOn : clients.link.writer = .idle := by decide +kernel
  obtain ⟨nobody, later⟩ := (nobody_hangs_iff (by decide) failed).mpr (.inr fun unsent sending => by
    cases goesOn.symm.trans sending)
  exact ⟨failed, nobody, later ⟨3, .unsubscribe, [[97]]⟩ (by decide) (by decide) (by decide +kernel)⟩

/-- While a write is blocked, the end of the stream answers the call whose command is being written and leaves the next
one, and any later one, without an answer. -/
theorem blocked_write_keeps_callers :
    let steps : List Step := [.network (.accept .waiting), .request 1 .subscribe [[97]], .request 2 .subscribe [[98]],
      .network .finish]
    let clients := (start {} 1024).after steps
    clients.link.failure = some .closed ∧ clients.link.closed = false ∧ clients.calls = [2] ∧
      clients.finished = [(1, .error .closed)] ∧
      (clients.step (.request 3 .subscribe [[99]])).2.calls = [2, 3] := by
  decide +kernel

end Clients

end Subscriber
