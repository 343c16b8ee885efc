import Subscriber.Proofs.Rehearsals

/-! The two transports agree. Cue by cue a rehearsal and an exchange stay in step, so whoever watches the session cannot
tell whether its commands are carried out by a loopback at a word, or by a server at the other end of a connection. -/

namespace Subscriber
open Activity (Level Calm Meets requestBytes)

namespace Activity

section
variable {number bound : Nat} {answered : Bytes} {line later : List Request} {busy : Option Nat}
  {mock nextMock : Activity Loopback} {wire nextWire : Activity Link}

private theorem Level.resumed {request : Request} (level : Level number (request :: later) none mock wire)
    {loopback : Loopback} {link : Link} (twins : Loopback.Twins loopback link) {session : Session}
    (tracks : session.Tracks Bytes.Acknowledgeable) (mine yours : Stage) (asleep idle : List Task) :
    Level number later (some request.call)
      ({ mock with
        transport := loopback, session, gate := { mock.gate with calls := later.map Request.call },
        ready := asleep }.setStage request.call mine)
      ({ wire with transport := link, session, ready := idle }.setStage request.call yours) := by
  let released : Activity Loopback := { mock with
    transport := loopback, session, gate := { mock.gate with calls := later.map Request.call }, ready := asleep }
  let told : Activity Link := { wire with transport := link, session, ready := idle }
  obtain ⟨phase, held, -⟩ := level.owed request List.mem_cons_self
  have waits := level.mirrors request.call (by simp)
  have known : (mock.stage? request.call).isSome := by rw [held]; rfl
  have sent : (wire.stage? request.call).isSome := by
    rw [held] at waits
    generalize wire.stage? request.call = stage at waits
    cases waits
    rfl
  have stages (id : Nat) : (released.setStage request.call mine).stage? id =
      if id = request.call then some mine else mock.stage? id := stage?_setStage_known (a := released) known mine id
  have others (id : Nat) : (told.setStage request.call yours).stage? id =
      if id = request.call then some yours else wire.stage? id := stage?_setStage_known (a := told) sent yours id
  have distinct : (request.call :: later.map Request.call).Nodup := level.distinct
  obtain ⟨apart, rest⟩ := List.nodup_cons.mp distinct
  have made : request.call < number := by
    apply Nat.lt_of_not_le
    intro unmade
    rw [level.fresh _ unmade] at held
    cases held
  refine ⟨⟨twins, rfl, level.pump⟩, level.finished, level.shut, level.opened, rfl, rest, ?_,
    fun other member => level.aimed other (List.mem_cons_of_mem _ member), ?_, ?_, ?_, tracks⟩
  · intro other member
    have different : other.call ≠ request.call := fun same => apart (same ▸ List.mem_map_of_mem member)
    unfold Owes
    rw [stages, if_neg different]
    exact level.owed other (List.mem_cons_of_mem _ member)
  · intro id different
    have foreign : id ≠ request.call := fun same => different (same ▸ rfl)
    rw [stages, others, if_neg foreign, if_neg foreign]
    exact level.mirrors id (by simp)
  · intro id own
    cases own
    rw [stages, others, if_pos rfl, if_pos rfl]
    exact ⟨made, rfl, rfl, apart⟩
  · intro id unmade
    have foreign : id ≠ request.call := fun same => Nat.not_le.mpr made (same ▸ unmade)
    rw [stages, if_neg foreign]
    exact level.fresh id unmade

end

section
variable {τ : Type} [Transport τ] {a : Activity τ} {call : Nat} {phase : Phase}

private theorem runCall_answered {answer : Except Error Unit} (found : a.stage? call = some (.answered phase answer)) :
    a.runCall call =
      (proceed { a with session := (a.session.resume phase answer).2 } call (a.session.resume phase answer).1).adjustPump := by
  rw [runCall, found]

private theorem submit_answered {answer : Except Error Unit} {transport : τ} (shut : a.gate.shut = true)
    (submitted : Transport.submit a.transport call phase.verb phase.targets = (some answer, transport)) :
    a.submit call phase =
      proceed { a with transport, session := (a.session.resume phase answer).2 } call (a.session.resume phase answer).1 := by
  rw [submit, submitted]
  dsimp only
  split
  next result session next => rw [next, proceed]
  next further session next =>
    rw [next, proceed, if_pos shut]

private theorem runCall_released {answer : Except Error Unit} {transport : τ} (found : a.stage? call = some (.released phase))
    (shut : a.gate.shut = true)
    (submitted : Transport.submit a.transport call phase.verb phase.targets = (some answer, transport)) :
    a.runCall call = (proceed { a with transport, session := (a.session.resume phase answer).2 } call
      (a.session.resume phase answer).1).adjustPump := by
  rw [runCall, found]
  exact congrArg adjustPump (submit_answered shut submitted)

private theorem begin_letFirst {rest : List Nat} (front : a.gate.calls = call :: rest) (held : a.stage? call = some (.held phase))
    (quiet : a.ready = []) : (a.begin .letFirstThrough).2 =
      { { a with gate := { a.gate with calls := rest } }.setStage call (.released phase) with ready := [.call call] } := by
  let released : Activity τ := { a with gate := { a.gate with calls := rest } }.setStage call (.released phase)
  unfold begin
  rw [front]
  dsimp only
  rw [letThrough, held, front, List.erase_cons_head]
  exact wake_quiet (a := released) quiet (.call call)

private theorem settles_letFirst {rest : List Nat} {answer : Except Error Unit} {transport : τ} {count : Nat} {b : Activity τ}
    (front : a.gate.calls = call :: rest) (held : a.stage? call = some (.held phase)) (quiet : a.ready = [])
    (shut : a.gate.shut = true)
    (submitted : Transport.submit a.transport call phase.verb phase.targets = (some answer, transport))
    (later : Settles count (proceed { { a with
        transport, gate := { a.gate with calls := rest }, ready := [] }.setStage call (.released phase) with session := (a.session.resume phase answer).2 } call
      (a.session.resume phase answer).1).adjustPump b) :
    Settles (count + 1) (a.begin .letFirstThrough).2 b := by
  let released : Activity τ := { { a with gate := { a.gate with calls := rest } }.setStage call (.released phase) with ready := [] }
  have turn : released.runCall call = (proceed { released with transport, session := (a.session.resume phase answer).2 } call
      (a.session.resume phase answer).1).adjustPump := runCall_released (stage?_setStage_self (a := a) held _) shut submitted
  rw [begin_letFirst front held quiet]
  refine .turn rfl ?_
  change Settles count (released.runCall call) b
  rw [turn]
  exact later

end

section
variable {sent : Bytes} {later : List Request} {wire : Activity Link}

theorem begin_arrive (bytes : Bytes) (still : wire.ready = []) :
    (wire.begin (.transport (Connection.Event.arrive (.piece bytes)))).2 =
      { wire with transport := wire.transport.meet (.arrive (.piece bytes)), ready := [.background] } :=
  wake_quiet (a := { wire with transport := wire.transport.meet (.arrive (.piece bytes)) }) still .background

private theorem runBackground_hears {request : Request} {remarks : List Remark} {result : Except Fault Unit} {phase : Phase}
    (poised : wire.transport.Poised sent (request :: later) [] (Remark.bytes remarks))
    (legible : ∀ remark ∈ remarks, remark.Legible) (answer : Remark.Answer remarks request result)
    (waits : wire.stage? request.call = some (.sent phase)) (still : wire.ready = []) :
    ∃ link : Link, wire.runBackground = { { wire with transport := link }.setStage request.call
        (.answered phase (result.mapError Fault.toError)) with ready := [.call request.call] } ∧
      link.Poised sent later [] [] ∧ link.observers = wire.transport.observers := by
  obtain ⟨link, worked, heard, same⟩ := poised.hears legible answer
  refine ⟨link, ?_, heard, same⟩
  let told : Activity Link := { wire with transport := link }
  have sent : told.stage? request.call = some (.sent phase) := waits
  rw [runBackground_work worked]
  change hear told (.answer request.call (result.mapError Fault.toError)) = _
  rw [hear, sent]
  exact wake_quiet (a := told.setStage request.call (.answered phase _)) still (.call request.call)

/-- What the server says to the oldest command is read in the next turn, and its call goes on in the one behind. -/
theorem settles_answered {request : Request} {remarks : List Remark} {result : Except Fault Unit} {phase : Phase}
    (poised : wire.transport.Poised sent (request :: later) [] []) (legible : ∀ remark ∈ remarks, remark.Legible)
    (answer : Remark.Answer remarks request result) (waits : wire.stage? request.call = some (.sent phase))
    (still : wire.ready = []) :
    ∃ link : Link, link.Poised sent later [] [] ∧ link.observers = wire.transport.observers ∧
      ∀ count b, Settles count (proceed { { wire with transport := link, ready := [] }.setStage request.call
          (.answered phase (result.mapError Fault.toError)) with
            session := (wire.session.resume phase (result.mapError Fault.toError)).2 } request.call
          (wire.session.resume phase (result.mapError Fault.toError)).1).adjustPump b →
        Settles (count + 2) (wire.begin (.transport (Connection.Event.arrive (.piece (Remark.bytes remarks))))).2 b := by
  have fed := poised.arrive (Remark.bytes remarks)
  let reading : Activity Link :=
    { wire with transport := wire.transport.meet (.arrive (.piece (Remark.bytes remarks))), ready := [] }
  have reads : reading.transport.Poised sent (request :: later) [] (Remark.bytes remarks) := fed
  obtain ⟨link, heard, poised, observers⟩ := runBackground_hears reads legible answer waits rfl
  refine ⟨link, poised, observers, fun count b later => ?_⟩
  let told : Activity Link := { wire with transport := link, ready := [] }.setStage request.call
    (.answered phase (result.mapError Fault.toError))
  have turn : told.runCall request.call = _ := runCall_answered (stage?_setStage_self (a := wire) waits _)
  rw [begin_arrive _ still]
  refine .turn rfl ?_
  change Settles (count + 1) reading.runBackground b
  rw [heard]
  refine .turn rfl ?_
  change Settles count (told.runCall request.call) b
  rw [turn]
  exact later

end

section
variable {number : Nat} {answered : Bytes} {later : List Request} {mock : Activity Loopback} {wire : Activity Link}

theorem requestBytes_cons (request : Request) (line : List Request) :
    requestBytes (request :: line) = request.frame.encode ++ requestBytes line := rfl

private theorem Calm.sent {request : Request} (calm : Calm number answered (request :: later) mock wire) : ∃ phase,
    mock.stage? request.call = some (.held phase) ∧ wire.stage? request.call = some (.sent phase) ∧
      request.verb = phase.verb ∧ request.targets = phase.targets := by
  obtain ⟨phase, held, form⟩ := calm.owed request List.mem_cons_self
  have mirrors := calm.mirrors request.call (by simp)
  rw [held] at mirrors
  refine ⟨phase, held, ?_, congrArg Request.verb form, congrArg Request.targets form⟩
  generalize wire.stage? request.call = stage at mirrors ⊢
  cases mirrors
  rfl

/-- The oldest command is carried out on both sides, and with the same result. -/
theorem Calm.carriesOut {request : Request} (calm : Calm number answered (request :: later) mock wire)
    (quiet : mock.ready = []) (still : wire.ready = []) {remarks : List Remark} {result : Except Fault Unit}
    (legible : ∀ remark ∈ remarks, remark.Legible) (answer : Remark.Answer remarks request result)
    {told done : Loopback} (submitted : Transport.submit told request.call request.verb request.targets =
      (some (result.mapError Fault.toError), done))
    (same : told.observers = mock.transport.observers) (kept : done.observers = told.observers)
    (willing : done.refusal = none) :
    ∃ line, Meets 5 number (answered ++ request.frame.encode) line
      (({ mock with transport := told } : Activity Loopback).begin .letFirstThrough).2
      (wire.begin (.transport (Connection.Event.arrive (.piece (Remark.bytes remarks))))).2 := by
  obtain ⟨phase, held, waits, verb, targets⟩ := calm.sent
  obtain ⟨aimed, names⟩ := calm.aimed request List.mem_cons_self
  rw [verb, targets] at submitted
  rw [targets] at aimed names
  obtain ⟨aims, tracks⟩ := calm.tracks.resume phase (result.mapError Fault.toError) aimed names
  obtain ⟨link, poised, observers, answers⟩ := settles_answered calm.poised legible answer waits still
  rw [requestBytes_cons, ← List.append_assoc] at poised
  rw [calm.session] at answers
  let session := (mock.session.resume phase (result.mapError Fault.toError)).2
  let after : Activity Link := { wire with transport := link, session, ready := [] }.setStage request.call
    (.answered phase (result.mapError Fault.toError))
  have twins : Loopback.Twins done link := by
    refine ⟨?_, poised.alive⟩
    rw [kept, same, observers]
    exact calm.twins.observers
  have members : link.observers.members = Pump.holding [] none wire.pump :=
    observers ▸ calm.piped.members calm.poised.alive
  have piped : Piped { wire with transport := link } [] :=
    calm.piped.anew poised members (fun some => absurd rfl some) rfl rfl
  have sound : session.fanout.Sound :=
    (Session.resume_quits mock.session phase _).sound (calm.session ▸ calm.piped.sound)
  have carried : Carried after [] := by
    refine piped.toCarried.aside ⟨rfl, rfl, rfl, rfl, rfl, ?_⟩ sound
    change .pump ∈ wire.ready → _
    rw [still]
    exact fun member => by cases member
  obtain ⟨line, few, more, nextMock, nextWire, short, brief, mine, yours, after⟩ :=
    (calm.toLevel.resumed twins tracks (.released phase) (.answered phase (result.mapError Fault.toError)) [] []).advances
      poised carried willing rfl rfl aims
  refine ⟨line, few + 1, more + 2, nextMock, nextWire, by omega, by omega, ?_, answers more nextWire yours, after⟩
  exact settles_letFirst (a := { mock with transport := told }) calm.held held quiet calm.shut submitted mine

theorem foldl_hear_observed {τ : Type} {a : Activity τ} {live : Nat} (told : a.pump.isSome = true → live ≠ 0)
    (quiet : a.ready = []) : (if live = 0 then [] else [.observed]).foldl hear a =
      { a with ready := if a.pump.isSome then [.pump] else [] } := by
  by_cases some : a.pump.isSome = true
  · rw [if_neg (told some), if_pos some]
    change hear a .observed = _
    rw [hear, if_pos some, wake_quiet quiet]
  · have alone : a = { a with ready := [] } := by rw [← quiet]
    rw [if_neg some]
    split
    · exact alone
    · change hear a .observed = _
      rw [hear, if_neg some]
      exact alone

private theorem begin_emit {message : Message} (told : mock.pump.isSome = true → mock.transport.observers.liveOf message.kind ≠ 0)
    (quiet : mock.ready = []) :
    (mock.begin (.transport (Loopback.Event.emit message))).2 = { mock with
      transport := { mock.transport with observers := mock.transport.observers.deliver message },
      ready := (if mock.pump.isSome then [.pump] else []) ++ [.background] } := by
  let delivered : Activity Loopback := { mock with
    transport := { mock.transport with observers := mock.transport.observers.deliver message } }
  change wake ((if mock.transport.observers.liveOf message.kind = 0 then [] else [.observed]).foldl hear delivered) _ = _
  rw [foldl_hear_observed (a := delivered) told quiet]
  unfold wake
  dsimp only [delivered]
  cases mock.pump <;> rfl

private theorem runBackground_delivers {link : Link} {message : Message}
    (worked : wire.transport.work.collect =
      (if wire.transport.observers.liveOf message.kind = 0 then [] else [.observed], link))
    (told : wire.pump.isSome = true → wire.transport.observers.liveOf message.kind ≠ 0) (still : wire.ready = []) :
    wire.runBackground = { wire with transport := link, ready := if wire.pump.isSome then [.pump] else [] } := by
  have signals : (if wire.transport.observers.liveOf message.kind = 0 then [] else [.observed] : List (Signal Fault)).map
      (·.mapFault Fault.toError) = if wire.transport.observers.liveOf message.kind = 0 then [] else [.observed] := by
    split <;> rfl
  rw [runBackground_work worked, signals]
  exact foldl_hear_observed (a := { wire with transport := link }) told still

private theorem Calm.unready (calm : Calm number answered later mock wire) (mine : List Task) :
    Calm number answered later { mock with ready := mine } wire :=
  ⟨calm.toLevel.unready mine wire.ready, calm.poised, calm.piped, calm.willing⟩

/-- A message that has been delivered on both sides is passed on by both pumps, if there are any. -/
theorem Calm.delivered (calm : Calm number answered later mock wire) {loopback : Loopback} {link : Link} {message : Message}
    (twins : Loopback.Twins loopback link) (willing : loopback.refusal = none)
    (poised : link.Poised (answered ++ requestBytes later) later [] [])
    (members : link.observers.members = Pump.holding [message] none wire.pump) :
    Meets 3 number answered later
      { mock with transport := loopback, ready := (if wire.pump.isSome then [.pump] else []) ++ [.background] }
      { wire with transport := link, ready := if wire.pump.isSome then [.pump] else [] } := by
  by_cases some : wire.pump.isSome = true
  · rw [if_pos some]
    let heard : Activity Loopback := { mock with transport := loopback, ready := [.pump, .background] }
    let after : Activity Link := { wire with transport := link, ready := [.pump] }
    have piped : after.Piped [message] := calm.piped.anew poised members (fun _ _ => List.mem_cons_self) rfl rfl
    have few : [message].length < pumpTurn := Nat.lt_of_sub_eq_succ rfl
    obtain ⟨passed, resting, asleep⟩ :=
      calm_pumps (calm.toLevel.rewire twins heard.ready after.ready) poised piped willing few [.background] []
    have worked : Meets 1 number answered later (runPump { heard with ready := [.background] } pumpTurn)
        (runPump { after with ready := [] } pumpTurn) := ((passed.unready []).rests rfl asleep).mockTurn resting rfl
    have pumped : Meets 2 number answered later heard (runPump { after with ready := [] } pumpTurn) :=
      worked.mockTurn rfl rfl
    exact pumped.wireTurn rfl rfl
  · rw [if_neg some]
    let heard : Activity Loopback := { mock with transport := loopback, ready := [] }
    let after : Activity Link := { wire with transport := link, ready := [] }
    have alone : link.observers.members = Pump.holding [] none wire.pump := by
      rw [Option.not_isSome_iff_eq_none.mp some] at members ⊢
      exact members
    have piped : after.Piped [] := calm.piped.anew poised alone (fun some => absurd rfl some) rfl rfl
    have rests : Calm number answered later heard after := ⟨calm.toLevel.rewire twins [] [], poised, piped, willing⟩
    have worked : Meets 1 number answered later { heard with ready := [.background] } after :=
      (rests.rests rfl rfl).mockTurn rfl rfl
    exact worked.mono.mono

/-- A message reaches both sides, over the loopback at once and over the connection in the next turn. -/
theorem Calm.emits (calm : Calm number answered later mock wire) (quiet : mock.ready = []) (still : wire.ready = [])
    {message : Message} (legible : (Remark.ofMessage message).Legible) :
    Meets 4 number answered later (mock.begin (.transport (Loopback.Event.emit message))).2
      (wire.begin (.transport (Connection.Event.arrive (.piece (Remark.bytes [Remark.ofMessage message]))))).2 := by
  obtain ⟨link, worked, poised, delivered⟩ := (calm.poised.arrive (Remark.bytes [Remark.ofMessage message])).delivers legible
  have observers : link.observers = wire.transport.observers.deliver message := delivered
  have held := calm.piped.members calm.poised.alive
  have members : link.observers.members = Pump.holding [message] none wire.pump := by
    rw [observers]
    exact Observers.members_deliver held message
  have told : wire.pump.isSome = true → wire.transport.observers.liveOf message.kind ≠ 0 := by
    intro some
    obtain ⟨pump, found⟩ := Option.isSome_iff_exists.mp some
    rw [found] at held
    exact (Observers.live_holding held).2 message.kind
  have asked : mock.pump.isSome = true → mock.transport.observers.liveOf message.kind ≠ 0 := by
    rw [← calm.pump, calm.twins.liveOf]
    exact told
  let reading : Activity Link := { wire with
    transport := wire.transport.meet (.arrive (.piece (Remark.bytes [Remark.ofMessage message]))), ready := [] }
  have turn : reading.runBackground = _ := runBackground_delivers worked told rfl
  have wanting : { reading with ready := [.background] }.ready = [.background] := rfl
  have passed := calm.delivered (calm.twins.deliver message poised.alive observers) calm.willing poised members
  have same : mock.pump.isSome = wire.pump.isSome := by rw [calm.pump]
  rw [begin_emit asked quiet, begin_arrive _ still, same]
  exact passed.wireTurn wanting turn

end

end Activity

end Subscriber
