import Subscriber.Proofs.JointAnswers
import Subscriber.Proofs.Spelling

/-! The two transports agree. Cue by cue a rehearsal and an exchange stay in step, so whoever watches the session cannot
tell whether its commands are carried out by a loopback at a word, or by a server at the other end of a connection. -/

namespace Subscriber

theorem Loopback.submit_willing {loopback : Loopback} (willing : loopback.refusal = none) (request : Request) :
    Transport.submit loopback request.call request.verb request.targets = (some (.ok ()),
      { loopback with commands := loopback.commands ++ [(request.verb, request.targets)] }) := by
  have executed : loopback.execute request.verb request.targets = (.ok (),
      { loopback with commands := loopback.commands ++ [(request.verb, request.targets)] }) := by
    unfold execute
    split
    next refusal unwilling => exact absurd (willing.symm.trans unwilling) (by simp)
    · rfl
  change (some ((loopback.execute _ _).1.mapError _), (loopback.execute _ _).2) = _
  rw [executed]
  rfl

namespace Activity

section
variable {number bound : Nat} {answered : Bytes} {line : List Request} {mock : Activity Loopback} {wire : Activity Link}

theorem stage?_calls {τ : Type} {a b : Activity τ} {call : Nat} {stage : Stage} (unknown : a.stage? call = none)
    (calls : b.calls = a.calls ++ [(call, stage)]) (id : Nat) :
    b.stage? id = if id = call then some stage else a.stage? id := by
  unfold stage? at unknown ⊢
  rw [calls, List.lookup_append, List.lookup_cons]
  by_cases own : id = call
  · rw [if_pos own, own, unknown, beq_self_eq_true]
    rfl
  · rw [if_neg own, beq_false_of_ne own]
    exact Option.or_none

private theorem Level.opens (level : Level number line none mock wire) (operation : Operation) {session : Session}
    (tracks : session.Tracks Bytes.Acknowledgeable) (mine yours : List Task) :
    Level (number + 1) line (some number)
      { mock with calls := mock.calls ++ [(number, .starting operation)], session, ready := mine }
      { wire with calls := wire.calls ++ [(number, .starting operation)], session, ready := yours } := by
  let started : Activity Loopback :=
    { mock with calls := mock.calls ++ [(number, .starting operation)], session, ready := mine }
  let begun : Activity Link :=
    { wire with calls := wire.calls ++ [(number, .starting operation)], session, ready := yours }
  have unknown := level.fresh number (Nat.le_refl number)
  have stages (id : Nat) : started.stage? id = if id = number then some (.starting operation) else mock.stage? id :=
    stage?_calls unknown rfl id
  have others (id : Nat) : begun.stage? id = if id = number then some (.starting operation) else wire.stage? id :=
    stage?_calls (level.unknown unknown) rfl id
  have foreign {request : Request} (member : request ∈ line) : request.call ≠ number := by
    obtain ⟨phase, held, -⟩ := level.owed request member
    intro same
    rw [same, unknown] at held
    cases held
  refine ⟨⟨level.twins, rfl, level.pump⟩, level.finished, level.shut, level.opened, level.held, level.distinct, ?_,
    level.aimed, ?_, ?_, ?_, tracks⟩
  · intro request member
    unfold Owes
    rw [stages, if_neg (foreign member)]
    exact level.owed request member
  · intro id different
    have other : id ≠ number := fun same => different (same ▸ rfl)
    rw [stages, others, if_neg other, if_neg other]
    exact level.mirrors id (by simp)
  · intro id own
    cases own
    rw [stages, others, if_pos rfl, if_pos rfl]
    refine ⟨Nat.lt_succ_self number, rfl, rfl, fun member => ?_⟩
    obtain ⟨request, there, same⟩ := List.mem_map.mp member
    exact foreign there same
  · intro id unmade
    have later : id ≠ number := fun same => Nat.not_succ_le_self number (same ▸ unmade)
    rw [stages, if_neg later]
    exact level.fresh id (Nat.le_of_succ_le unmade)

private theorem Level.later (level : Level number line none mock wire) : Level (number + 1) line none mock wire :=
  { level with
    running := (fun _ same => by cases same)
    fresh := fun call unmade => level.fresh call (Nat.le_of_succ_le unmade) }

theorem Calm.later (calm : Calm number answered line mock wire) : Calm (number + 1) answered line mock wire :=
  ⟨calm.toLevel.later, calm.poised, calm.piped, calm.willing⟩

theorem begin_call {τ : Type} [Transport τ] {a : Activity τ} (quiet : a.ready = []) (operation : Operation) :
    (a.begin (.call number operation)).2 =
      { a with calls := a.calls ++ [(number, .starting operation)], ready := [.call number] } :=
  wake_quiet (a := { a with calls := a.calls ++ [(number, .starting operation)] }) quiet (.call number)

theorem runCall_starting {τ : Type} [Transport τ] {a : Activity τ} {call : Nat} {operation : Operation}
    (found : a.stage? call = some (.starting operation)) : a.runCall call =
      (proceed { a with session := (a.session.start operation).2 } call (a.session.start operation).1).adjustPump := by
  rw [runCall, found]

private theorem Calm.calls (calm : Calm number answered line mock wire) (quiet : mock.ready = []) (still : wire.ready = [])
    {operation : Operation} (legible : (Cue.call operation).Legible) :
    ∃ later, Meets 5 (number + 1) answered later (mock.begin (.call number operation)).2
      (wire.begin (.call number operation)).2 := by
  obtain ⟨aims, tracks⟩ := calm.tracks.start operation legible
  let started : Activity Loopback := { mock with calls := mock.calls ++ [(number, .starting operation)], ready := [] }
  let begun : Activity Link := { wire with calls := wire.calls ++ [(number, .starting operation)], ready := [] }
  have sound : (mock.session.start operation).2.fanout.Sound :=
    (Session.start_quits mock.session operation).sound (calm.session ▸ calm.piped.sound)
  have awake : .pump ∈ wire.ready → .pump ∈ begun.ready := by
    rw [still]
    exact id
  have carried : Carried { begun with session := (mock.session.start operation).2 } [] :=
    calm.piped.toCarried.aside ⟨rfl, rfl, rfl, rfl, rfl, awake⟩ sound
  have level := calm.toLevel.opens operation tracks [] []
  obtain ⟨later, meets⟩ := level.advances calm.poised carried calm.willing rfl rfl aims
  have unknown := calm.fresh number (Nat.le_refl number)
  have mine : started.runCall number = _ := runCall_starting ((stage?_calls unknown rfl number).trans (if_pos rfl))
  have yours : begun.runCall number = _ :=
    runCall_starting ((stage?_calls (calm.unknown unknown) rfl number).trans (if_pos rfl))
  rw [show begun.session = mock.session from calm.session] at yours
  rw [begin_call quiet, begin_call still]
  have turned : Meets 4 (number + 1) answered later { started with ready := [.call number] } _ := meets.mockTurn rfl mine
  have wanting : { begun with ready := [.call number] }.ready = [.call number] := rfl
  exact ⟨later, turned.wireTurn wanting yours⟩

theorem Level.attend (level : Level number line none mock wire) {session : Session}
    (tracks : session.Tracks Bytes.Acknowledgeable) : Level number line none { mock with session } { wire with session } :=
  ⟨⟨level.twins, rfl, level.pump⟩, level.finished, level.shut, level.opened, level.held, level.distinct, level.owed,
    level.aimed, level.mirrors, level.running, level.fresh, tracks⟩

theorem Calm.streams (calm : Calm number answered line mock wire) (quiet : mock.ready = []) (still : wire.ready = [])
    {session : Session} (tracks : session.Tracks Bytes.Acknowledgeable) (sound : session.fanout.Sound) :
    Meets 2 number answered line (adjustPump { mock with session }) (adjustPump { wire with session }) :=
  adjusts_meets (calm.toLevel.attend tracks) calm.poised (calm.piped.toCarried.aside ⟨rfl, rfl, rfl, rfl, rfl, id⟩ sound)
    calm.willing quiet still

theorem Settles.rested {τ : Type} [Transport τ] {count : Nat} {a b : Activity τ} (settles : Settles count a b) :
    b.ready = [] := by
  induction settles with
  | rest idle => exact idle
  | turn _ _ ih => exact ih

theorem Meets.later (meets : Meets bound number answered line mock wire) :
    Meets bound (number + 1) answered line mock wire := by
  obtain ⟨few, more, nextMock, nextWire, short, brief, mine, yours, calm⟩ := meets
  exact ⟨few, more, nextMock, nextWire, short, brief, mine, yours, calm.later⟩

/-- To be refused the next command a loopback takes no turn of its own. -/
theorem step_refuseNext (quiet : mock.ready = []) (refusal : Refusal) :
    (mock.step (.transport (Loopback.Event.refuseNext refusal))).2 =
      { mock with transport := { mock.transport with refusal := some refusal } } := by
  let told : Activity Loopback := { mock with transport := { mock.transport with refusal := some refusal } }
  have begun : (mock.begin (.transport (Loopback.Event.refuseNext refusal))).2 = { told with ready := [.background] } :=
    wake_quiet (a := told) quiet .background
  have rests : Settles 1 { told with ready := [.background] } { told with ready := [] } := .turn rfl (.rest rfl)
  change (mock.begin (.transport (Loopback.Event.refuseNext refusal))).2.settle = told
  rw [begun, rests.settle (by decide), ← quiet]

end

end Activity

namespace Exchange
open Activity (Level Calm Meets requestBytes requestBytes_cons adjustPump begin_piped begin_poll_none begin_poll_some
  kept_nil step_refuseNext)

/-- A rehearsal and an exchange between two cues. -/
structure Alongside (number : Nat) (line : List Request) (mock : Activity Loopback) (exchange : Exchange) : Prop where
  calm : Calm number exchange.answered line mock exchange.activity
  quiet : mock.ready = []
  still : exchange.activity.ready = []

/-- A cue can be played in the exchange, and however it is played there, the rehearsal plays it in the same way. -/
def PlaysAlike (number : Nat) (mock : Activity Loopback) (exchange : Exchange) (cue : Cue) : Prop :=
  (∃ reply after, Plays number exchange cue reply after) ∧
    ∀ reply after, Plays number exchange cue reply after →
      reply = (Rehearsal.play number mock cue).1 ∧ ∃ line, Alongside (number + 1) line (Rehearsal.play number mock cue).2 after

section
variable {number bound : Nat} {answered : Bytes} {line later : List Request} {mock : Activity Loopback}
  {wire : Activity Link} {exchange : Exchange}

theorem settled (meets : Meets bound number answered line mock wire) (few : bound ≤ 16) :
    Alongside number line mock.settle { activity := wire.settle, answered } := by
  obtain ⟨few, more, nextMock, nextWire, short, brief, mine, yours, calm⟩ := meets
  rw [mine.settle (by omega), yours.settle (by omega)]
  exact ⟨calm, mine.rested, yours.rested⟩

private theorem Alongside.sight (alongside : Alongside number line mock exchange) (reply : Activity.Reply) :
    exchange.activity.sight reply = mock.sight reply := by
  unfold Activity.sight
  rw [alongside.calm.finished, alongside.calm.session]

private theorem start_alongside (queueSize : Nat) : Alongside 0 [] Rehearsal.start (start queueSize) := by
  have nobody : Rehearsal.start.session.fanout.Sound :=
    ⟨(fun _ _ found => by cases found), (fun _ _ _ found => by cases found), fun some => absurd rfl some⟩
  have piped : (start queueSize).activity.Piped [] :=
    ⟨⟨nobody, (fun _ found => by cases found), ⟨rfl, (fun some => by cases some), rfl⟩, rfl⟩, rfl⟩
  have names : Rehearsal.start.session.Tracks Bytes.Acknowledgeable := fun kind name member => by
    cases kind <;> cases member
  have level : Level 0 [] none Rehearsal.start (start queueSize).activity :=
    ⟨⟨⟨rfl, rfl⟩, rfl, rfl⟩, rfl, rfl, rfl, rfl, List.nodup_nil, (fun _ member => by cases member),
      (fun _ member => by cases member), fun _ _ => .unknown, (fun _ same => by cases same), fun _ _ => rfl, names⟩
  exact ⟨⟨level, Link.poised_start queueSize, piped, rfl⟩, rfl, rfl⟩

private theorem Alongside.calls (alongside : Alongside number line mock exchange) {operation : Operation}
    (legible : (Cue.call operation).Legible) : PlaysAlike number mock exchange (.call operation) := by
  obtain ⟨later, meets⟩ := alongside.calm.calls alongside.quiet alongside.still legible
  refine ⟨⟨_, _, .call operation⟩, ?_⟩
  intro reply after plays
  cases plays
  exact ⟨rfl, later, settled meets (by decide)⟩

private theorem Alongside.receives (alongside : Alongside number line mock exchange) :
    PlaysAlike number mock exchange .receive := by
  have calm := alongside.calm
  let fanout : Fanout := mock.session.fanout.openStream.2
  let received : Activity Loopback := { mock with session := { mock.session with fanout } }
  let opened : Activity Link := { exchange.activity with session := { mock.session with fanout } }
  have mine : mock.begin .openStream = (.stream mock.session.fanout.openStream.1, received) := rfl
  have yours : exchange.activity.begin .openStream = (.stream mock.session.fanout.openStream.1, opened) := by
    dsimp only [opened, fanout]
    rw [← calm.session]
    rfl
  have piped : opened.Piped [] := by
    have kept := begin_piped calm.piped .openStream (fun _ same => by cases same)
    rw [kept_nil, yours] at kept
    exact kept
  have after : Calm number exchange.answered line received opened :=
    ⟨calm.attend calm.tracks, calm.poised, piped, calm.willing⟩
  have meets := (after.rests alongside.quiet alongside.still).later
  refine ⟨⟨_, _, .receive⟩, ?_⟩
  intro reply after plays
  cases plays
  rw [Exchange.step, Activity.step, yours]
  exact ⟨rfl, line, settled meets (by decide)⟩

private theorem Alongside.polls (alongside : Alongside number line mock exchange) (stream : Nat) :
    PlaysAlike number mock exchange (.poll stream) := by
  have calm := alongside.calm
  refine ⟨⟨_, _, .poll stream⟩, ?_⟩
  intro reply after plays
  cases plays
  cases found : mock.session.fanout.stream? stream with
  | none =>
    have mine : mock.begin (.poll stream) = (.noStream, mock) := begin_poll_none found
    have yours : exchange.activity.begin (.poll stream) = (.noStream, exchange.activity) :=
      begin_poll_none (calm.session ▸ found)
    have meets := (calm.rests alongside.quiet alongside.still).later
    rw [Exchange.step, Activity.step, yours, Rehearsal.play, Activity.step, mine]
    exact ⟨rfl, line, settled meets (by decide)⟩
  | some attachment =>
    let session := (mock.session.poll stream).2
    have mine : mock.begin (.poll stream) = (.item (mock.session.poll stream).1, adjustPump { mock with session }) :=
      begin_poll_some found
    have yours : exchange.activity.begin (.poll stream) =
        (.item (mock.session.poll stream).1, adjustPump { exchange.activity with session }) := by
      dsimp only [session]
      rw [← calm.session] at found ⊢
      exact begin_poll_some found
    have tracks := calm.tracks.same (Session.poll_sameRecord mock.session stream)
    have sound : session.fanout.Sound :=
      (Session.poll_eq mock.session stream).2 ▸ Fanout.poll_sound (calm.session ▸ calm.piped.sound) stream
    have meets := (calm.streams alongside.quiet alongside.still tracks sound).later
    rw [Exchange.step, Activity.step, yours, Rehearsal.play, Activity.step, mine]
    exact ⟨rfl, line, settled meets (by decide)⟩

private theorem Alongside.drops (alongside : Alongside number line mock exchange) (stream : Nat) :
    PlaysAlike number mock exchange (.drop stream) := by
  refine ⟨⟨_, _, .drop stream⟩, ?_⟩
  intro reply after plays
  cases plays
  have calm := alongside.calm
  have tracks := calm.tracks.same (Session.drop_sameRecord mock.session stream)
  have sound : (mock.session.drop stream).fanout.Sound :=
    Session.fanout_drop mock.session stream ▸ Fanout.drop_sound (calm.session ▸ calm.piped.sound) stream
  have yours : (exchange.activity.begin (.drop stream)).2 =
      adjustPump { exchange.activity with session := mock.session.drop stream } := by
    rw [← calm.session]
    rfl
  have meets := (calm.streams alongside.quiet alongside.still tracks sound).later
  rw [← yours] at meets
  exact ⟨rfl, line, settled meets (by decide)⟩

private theorem Alongside.emits (alongside : Alongside number line mock exchange) {message : Message}
    (legible : (Cue.emit message).Legible) : PlaysAlike number mock exchange (.emit message) := by
  refine ⟨⟨_, _, .emit message⟩, ?_⟩
  intro reply after plays
  cases plays
  have meets := (alongside.calm.emits alongside.quiet alongside.still legible).later
  exact ⟨rfl, line, settled meets (by decide)⟩

theorem Alongside.written (alongside : Alongside number line mock exchange) :
    exchange.written = exchange.answered ++ requestBytes line := by
  rw [Exchange.written, alongside.calm.poised.outbound]

private theorem Alongside.asked {verb : Verb} {targets : List Bytes} (alongside : Alongside number line mock exchange)
    (asked : exchange.Asked verb targets) :
    ∃ request later, line = request :: later ∧ verb = request.verb ∧ targets = request.targets := by
  rw [Asked, alongside.written, List.prefix_append_right_inj] at asked
  obtain ⟨rest, bytes⟩ := asked
  cases line with
  | nil => exact absurd (List.append_eq_nil_iff.mp bytes).1 (Frame.encode_ne_nil _)
  | cons request later =>
    rw [requestBytes_cons] at bytes
    obtain ⟨verb, targets, -⟩ := Verb.command_unique bytes
    exact ⟨request, later, rfl, verb, targets⟩

private theorem Alongside.asks {request : Request} (alongside : Alongside number (request :: later) mock exchange) :
    exchange.Asked request.verb request.targets := by
  rw [Asked, alongside.written, requestBytes_cons, ← List.append_assoc]
  exact List.prefix_append _ _

private theorem Alongside.unasked (alongside : Alongside number line mock exchange)
    (unasked : exchange.written = exchange.answered) : line = [] := by
  rw [alongside.written, List.append_right_eq_self] at unasked
  cases line with
  | nil => rfl
  | cons request later => exact absurd (List.append_eq_nil_iff.mp unasked).1 (Frame.encode_ne_nil _)

private theorem Alongside.nothing (alongside : Alongside number [] mock exchange) : exchange.written = exchange.answered :=
  alongside.written.trans (List.append_nil _)

/-- The first in line is carried out on both sides, whatever the answer. -/
theorem Alongside.carriesOut {request : Request} (alongside : Alongside number (request :: later) mock exchange)
    {remarks : List Remark} {result : Except Fault Unit} (legible : ∀ remark ∈ remarks, remark.Legible)
    (answer : Remark.Answer remarks request result) {told done : Loopback}
    (submitted : Transport.submit told request.call request.verb request.targets =
      (some (result.mapError Fault.toError), done))
    (same : told.observers = mock.transport.observers) (kept : done.observers = told.observers)
    (willing : done.refusal = none) :
    ∃ line, Alongside (number + 1) line ({ mock with transport := told }.step .letFirstThrough).2
      (exchange.answer request.verb request.targets remarks) := by
  obtain ⟨line, meets⟩ :=
    alongside.calm.carriesOut alongside.quiet alongside.still legible answer submitted same kept willing
  exact ⟨line, settled meets.later (by decide)⟩

/-- A cue to the server. Of what the rehearsal does it need only be known that it is nothing if nobody waits for an answer,
and that otherwise it keeps in step with the answer to the first in line. -/
theorem Alongside.serves (alongside : Alongside number line mock exchange)
    (remarks : Verb → List Bytes → List Remark) {played : Activity Loopback} (idle : line = [] → played = mock)
    (answers : ∀ request later, line = request :: later → ∃ line, Alongside (number + 1) line played
      (exchange.answer request.verb request.targets (remarks request.verb request.targets))) :
    (∃ after, exchange.Serves remarks after) ∧
      ∀ after, exchange.Serves remarks after → ∃ line, Alongside (number + 1) line played after := by
  cases line with
  | nil =>
    refine ⟨⟨exchange, .nobody alongside.nothing⟩, fun after serves => ?_⟩
    cases serves with
    | answers asked =>
      obtain ⟨_, _, none, -⟩ := alongside.asked asked
      cases none
    | nobody unasked =>
      rw [idle rfl]
      exact ⟨[], alongside.calm.later, alongside.quiet, alongside.still⟩
  | cons request later =>
    refine ⟨⟨_, .answers alongside.asks⟩, fun after serves => ?_⟩
    cases serves with
    | answers asked =>
      obtain ⟨first, others, same, rfl, rfl⟩ := alongside.asked asked
      exact answers first others same
    | nobody unasked => cases alongside.unasked unasked

private theorem Alongside.unheld (alongside : Alongside number [] mock exchange) : (mock.step .letFirstThrough).2 = mock := by
  have nobody : mock.gate.calls = [] := alongside.calm.held
  have begun : mock.begin .letFirstThrough = (.known false, mock) := by
    rw [Activity.begin, nobody]
  rw [Activity.step, begun]
  exact (Activity.Settles.rest alongside.quiet).settle (Nat.zero_le 16)

private theorem legible_acknowledgements {verb : Verb} {counts : Nat → Int64} {targets : List Bytes}
    (names : ∀ name ∈ targets, name.Acknowledgeable) :
    ∀ remark ∈ Remark.acknowledgements verb counts targets, remark.Legible := by
  intro remark member
  obtain ⟨index, inside, rfl⟩ := List.mem_mapIdx.mp member
  exact ⟨⟨trivial, trivial, trivial, trivial⟩, names _ (List.getElem_mem inside) _ _⟩

private theorem Alongside.grants (alongside : Alongside number line mock exchange) (counts : Nat → Int64) :
    PlaysAlike number mock exchange (.grant counts) := by
  have idle (none : line = []) : (mock.step .letFirstThrough).2 = mock := by
    subst none
    exact alongside.unheld
  have answers (request : Request) (later : List Request) (first : line = request :: later) :
      ∃ line, Alongside (number + 1) line (mock.step .letFirstThrough).2
        (exchange.answer request.verb request.targets (Remark.acknowledgements request.verb counts request.targets)) := by
    subst first
    obtain ⟨aimed, names⟩ := alongside.calm.aimed request List.mem_cons_self
    exact alongside.carriesOut (legible_acknowledgements names) (Remark.acknowledgements_answer aimed counts)
      (Loopback.submit_willing alongside.calm.willing request) rfl rfl alongside.calm.willing
  obtain ⟨⟨after, serves⟩, alike⟩ :=
    alongside.serves (fun verb targets => Remark.acknowledgements verb counts targets) idle answers
  refine ⟨⟨_, after, .grant counts serves⟩, ?_⟩
  rw [Rehearsal.play]
  intro reply after plays
  cases plays with
  | grant _ serves => exact ⟨rfl, alike after serves⟩

private theorem Alongside.refuses (alongside : Alongside number line mock exchange) {text : String}
    (legible : (Cue.refuse text).Legible) : PlaysAlike number mock exchange (.refuse text) := by
  let told : Loopback := { mock.transport with refusal := some ⟨text⟩ }
  let played : Activity Loopback :=
    if mock.gate.calls.isEmpty then mock else ({ mock with transport := told }.step .letFirstThrough).2
  have play : Rehearsal.play number mock (.refuse text) = (.nothing, played) := by
    rw [Rehearsal.play, step_refuseNext alongside.quiet]
    dsimp only [played]
    split <;> rfl
  have idle (none : line = []) : played = mock := by
    subst none
    exact if_pos (by rw [alongside.calm.held]; rfl)
  have answers (request : Request) (later : List Request) (first : line = request :: later) :
      ∃ line, Alongside (number + 1) line played
        (exchange.answer request.verb request.targets [.refusal (Bytes.ofText text)]) := by
    subst first
    have refused : played = ({ mock with transport := told }.step .letFirstThrough).2 :=
      if_neg (by rw [alongside.calm.held]; simp)
    have submitted : Transport.submit told request.call request.verb request.targets =
        (some (Except.mapError Fault.toError (.error (.server (Text.lossy (Bytes.ofText text))))),
          { told with refusal := none }) := by
      rw [Text.lossy_ofText]
      rfl
    rw [refused]
    exact alongside.carriesOut (fun remark member => List.mem_singleton.mp member ▸ legible)
      (Remark.refusal_answers request (Bytes.ofText text)) submitted rfl rfl rfl
  obtain ⟨⟨after, serves⟩, alike⟩ := alongside.serves (fun _ _ => [.refusal (Bytes.ofText text)]) idle answers
  refine ⟨⟨_, after, .refuse text serves⟩, ?_⟩
  rw [play]
  intro reply after plays
  cases plays with
  | refuse _ serves => exact ⟨rfl, alike after serves⟩

private theorem Alongside.plays (alongside : Alongside number line mock exchange) {cue : Cue} (legible : cue.Legible) :
    PlaysAlike number mock exchange cue := by
  cases cue with
  | call operation => exact alongside.calls legible
  | receive => exact alongside.receives
  | poll stream => exact alongside.polls stream
  | drop stream => exact alongside.drops stream
  | grant counts => exact alongside.grants counts
  | refuse text => exact alongside.refuses legible
  | emit message => exact alongside.emits legible

/-- From two states in step on, the sights of the exchange are those of the rehearsal, and no others. -/
theorem Alongside.performs {script : List Cue} (alongside : Alongside number line mock exchange)
    (legible : ∀ cue ∈ script, cue.Legible) (sights : List Sight) :
    PerformsFrom number exchange script sights ↔ sights = Rehearsal.performFrom number mock script := by
  -- The induction is on the script, over all states in step: a cue leads from one such pair of states to the next.
  induction script generalizing number line mock exchange sights with
  | nil =>
    constructor
    · intro performs
      cases performs
      rfl
    · rintro rfl
      exact .ends number exchange
  | cons cue script ih =>
    obtain ⟨first, rest⟩ := List.forall_mem_cons.mp legible
    obtain ⟨⟨reply, after, plays⟩, alike⟩ := alongside.plays first
    have goesOn {reply : Activity.Reply} {after : Exchange} (plays : Plays number exchange cue reply after)
        (sights : List Sight) : after.activity.sight reply :: sights =
          (Rehearsal.play number mock cue).2.sight (Rehearsal.play number mock cue).1 :: sights := by
      obtain ⟨same, _, beside⟩ := alike reply after plays
      rw [same, beside.sight]
    constructor
    · intro performs
      cases performs with
      | goesOn plays later =>
        obtain ⟨-, _, beside⟩ := alike _ _ plays
        rw [goesOn plays, (ih beside rest _).mp later]
        rfl
    · rintro rfl
      obtain ⟨-, _, beside⟩ := alike reply after plays
      rw [Rehearsal.performFrom]
      dsimp only
      rw [← goesOn plays]
      exact .goesOn plays ((ih beside rest _).mpr rfl)

end

/-- Of whatever script, as long as what the server has to say can be written in frames, there is just one performance
over a connection, and in it the same is seen as in the rehearsal: after every cue the same reply, the same calls finished
with the same results, the same changes, the same targets, and the same of the streams. -/
theorem transports_agree (queueSize : Nat) {script : List Cue} (legible : ∀ cue ∈ script, cue.Legible)
    (sights : List Sight) : Performs queueSize script sights ↔ sights = Rehearsal.perform script :=
  (start_alongside queueSize).performs legible sights

/-- A channel is added and a message of it received, a pattern is refused, and the session is cancelled. -/
theorem cancelled_session_performed : ∃ sights,
    Performs 1 [.call (.add .channel [[97]]), .receive, .poll 0, .grant fun _ => 1, .emit (.channel [97] [104, 105]),
      .poll 0, .call (.add .pattern [[97, 42]]), .refuse "no", .call .cancel, .grant fun _ => 0, .poll 0] sights ∧
    sights.map (·.finished.map Prod.fst) = [[], [], [], [0], [0], [0], [0], [0, 6], [0, 6], [0, 6, 8], [0, 6, 8]] := by
  refine ⟨_, (transports_agree 1 ?_ _).mpr rfl, by decide +kernel⟩
  have channel : Bytes.Acknowledgeable [97] := Bytes.acknowledgeable (by decide)
  have pattern : Bytes.Acknowledgeable [97, 42] := Bytes.acknowledgeable (by decide)
  have message : (Remark.ofMessage (.channel [97] [104, 105])).Legible :=
    ⟨⟨trivial, trivial, trivial, trivial⟩, Remark.Small.within (by decide)⟩
  have refusal : (Remark.refusal (Bytes.ofText "no")).Legible :=
    ⟨Bytes.oneLine_of_not_mem (by decide), Remark.Small.within (by decide)⟩
  simp [Cue.Legible, Operation.names, channel, pattern, message, refusal]

end Exchange

end Subscriber
