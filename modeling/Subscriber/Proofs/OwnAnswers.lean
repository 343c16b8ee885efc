import Subscriber.Proofs.Callers
import Subscriber.Proofs.Conversations
import Subscriber.Proofs.PatientWrites

/-! Callers who share a connection, and a server that keeps to the protocol. Commands of any callers are in
flight at once, some are given up, and the network takes bytes and delivers them in pieces as it likes.
Every call that is not given up gets the answer that the server gave to its command. -/

namespace Subscriber

/-- Callers and server, with all that was asked and said so far. -/
structure World where
  clients : Clients
  /-- The requests in the order of the calls, without those given up before there was room for them. -/
  line : List Request := []
  calls : List Nat := []
  abandoned : List Nat := []
  /-- What the server has said, and the server after each remark. -/
  said : List (Remark × Server) := []
  fed : Bytes := []
  /-- How the network has taken writes, from one change to the next. -/
  acceptances : List Acceptance := []

namespace World

def heard (limit : Nat) (world : World) : List Frame :=
  ({ limit, buffer := world.clients.link.outbound.accepted } : Decoder).drain.frames

def server (world : World) : Server := ({} : Server).after world.said

/-- The remarks whose last byte is among the first so many bytes. -/
def covered : Nat → List (Remark × Server) → List (Remark × Server)
  | _, [] => []
  | count, entry :: later =>
    if entry.1.frame.encode.length ≤ count then entry :: covered (count - entry.1.frame.encode.length) later else []

/-- The server as far as the bytes delivered tell of it. -/
def known (world : World) : Server := ({} : Server).after (covered world.fed.length world.said)

def act (world : World) (step : Clients.Step) : World := { world with clients := (world.clients.step step).2 }

def request (world : World) (request : Request) : World :=
  { world.act (.request request.call request.verb request.targets) with
    line := world.line ++ [request], calls := world.calls ++ [request.call] }

/-- A call that is given up before there is room for its request leaves the line. -/
def abandon (world : World) (call : Nat) : World :=
  if call ∈ world.clients.calls then
    { world.act (.abandon call) with
      abandoned := call :: world.abandoned,
      line := if world.clients.link.waiting.any (·.call == call) then world.line.filter (·.call != call) else world.line }
  else world.act (.abandon call)

def accept (world : World) (acceptance : Acceptance) : World :=
  { world.act (.network (.accept acceptance)) with acceptances := world.acceptances ++ [acceptance] }

def say (world : World) (remark : Remark) (after : Server) : World :=
  { world with said := world.said ++ [(remark, after)] }

def deliver (world : World) (piece : Bytes) : World :=
  { world.act (.network (.arrive (.piece piece))) with fed := world.fed ++ piece }

theorem clients_abandon (world : World) (call : Nat) :
    (world.abandon call).clients = (world.clients.step (.abandon call)).2 := by
  unfold abandon
  split <;> rfl

end World

/-- What leads only to the observers of a connection. -/
def Clients.Step.Watches : Clients.Step → Prop
  | .observe _ | .poll _ | .drain _ | .drop _ => True
  | _ => False

/-- Everything that can happen while the stream does not fail, in any order. The server reads commands
from the bytes written to it, with a size limit of its own, and may say whatever the protocol allows then;
what is delivered are its own bytes, in pieces of any size. -/
inductive World.Reached (limit queueSize : Nat) : World → Prop where
  | start : Reached limit queueSize { clients := { link := .ofConnection {} queueSize } }
  | request {world} (reached : Reached limit queueSize world) (request : Request)
      (fresh : request.call ∉ world.calls) (aimed : request.targets ≠ []) :
    Reached limit queueSize (world.request request)
  | abandon {world} (reached : Reached limit queueSize world) (call : Nat) : Reached limit queueSize (world.abandon call)
  | watch {world} (reached : Reached limit queueSize world) (step : Clients.Step) (watches : step.Watches) :
    Reached limit queueSize (world.act step)
  | accept {world} (reached : Reached limit queueSize world) (acceptance : Acceptance) :
    Reached limit queueSize (world.accept acceptance)
  | say {world} (reached : Reached limit queueSize world) (remark : Remark) (after : Server)
      (spoken : Server.Utters (world.heard limit) world.server remark after) :
    Reached limit queueSize (world.say remark after)
  | deliver {world} (reached : Reached limit queueSize world) (piece : Bytes)
      (genuine : world.fed ++ piece <+: Frame.encodeItems (Server.frames world.said)) :
    Reached limit queueSize (world.deliver piece)

namespace World

/-- How callers and server stand to each other while all goes well: `answered` requests have their answers,
`unanswered` ones have been taken up; the connection has read `past` and not yet `future`. -/
structure Orderly (world : World) (answered unanswered : List Request) (past future : List (Remark × Server)) : Prop where
  serves : world.clients.link.Serves world.line answered unanswered (Server.after {} past)
    ((answered.map Request.call).zip (Server.after {} past).given)
  collected : world.clients.link.signals = []
  follows : world.clients.link.Follows future
  said : world.said = past ++ future
  fed : world.fed = Frame.encodeItems (Server.frames past) ++ world.clients.link.inbound.unread
  conforms : Server.Conforms ((answered ++ unanswered).map Request.frame) (Server.after {} past) future
  numbered : ∀ request ∈ world.line, request.call ∈ world.calls
  distinct : (world.line.map Request.call).Nodup
  early : ∀ call ∈ world.abandoned, call ∈ world.calls
  present : ∀ call ∈ world.calls, call ∉ world.abandoned → call ∈ world.line.map Request.call
  waits : ∀ call, call ∈ world.clients.calls ↔
    call ∈ world.calls ∧ call ∉ world.abandoned ∧ call ∉ answered.map Request.call
  once : world.clients.calls.Nodup
  finished : world.clients.finished =
    ((answered.map Request.call).zip (Server.after {} past).given).filter fun entry => entry.1 ∉ world.abandoned
  quiet : ∀ notice ∈ world.clients.notices, ¬ notice.Misplaced

theorem names_zip {requests : List Request} {given : List (Except Fault Unit)} (level : requests.length = given.length) :
    ((requests.map Request.call).zip given).map Prod.fst = requests.map Request.call :=
  List.map_fst_zip (by simp [level])

namespace Orderly
variable {world : World} {answered unanswered : List Request} {past future : List (Remark × Server)}

/-- When everything is done that needs no waiting, the answers in what was read have reached their callers. -/
theorem settle (orderly : world.Orderly answered unanswered past future)
    (alive : world.clients.settle.link.failure = none) :
    ∃ answered' unanswered' past' future',
      Orderly { world with clients := world.clients.settle } answered' unanswered' past' future' ∧
      ∀ entry ∈ future'.head?, world.clients.settle.link.inbound.unread.length < entry.1.frame.encode.length := by
  let link := world.clients.link.work
  let handed : Clients := { world.clients with link := { link with signals := [] } }
  let new := link.signals.filterMap Signal.answer?
  have settled : world.clients.settle = link.signals.foldl Clients.hear handed := rfl
  have after : world.clients.settle.link = { link with signals := [] } := Clients.link_settle world.clients
  rw [after] at alive ⊢
  obtain ⟨now, later, answered', unanswered', rfl, longer, done, parts, follows, short⟩ :=
    orderly.serves.work orderly.follows orderly.conforms alive
  rw [← Server.after_append] at done
  have told := congrArg (List.map Prod.fst) done.told
  rw [List.map_append, names_zip orderly.serves.level, names_zip done.level] at told
  have inLine : (answered'.map Request.call).Nodup := by
    have distinct := orderly.distinct
    rw [done.order, List.append_assoc, List.append_assoc, List.map_append] at distinct
    exact (List.nodup_append.mp distinct).1
  -- No call is answered twice: every call in line has a number of its own, and answers go down the line.
  have apart := told ▸ inLine
  obtain ⟨fresh, single, disjoint⟩ := List.nodup_append.mp apart
  obtain ⟨calls, finished, notices⟩ := Clients.foldl_hear link.signals handed orderly.once single
  have serves : Link.Serves world.line answered' unanswered' (Server.after {} (past ++ now))
      ((answered'.map Request.call).zip (Server.after {} (past ++ now)).given) { link with signals := [] } :=
    { done with told := List.append_nil _, quiet := fun _ => nofun }
  refine ⟨answered', unanswered', past ++ now, later, ⟨?_, ?_, ?_, ?_, ?_, ?_, ?_, ?_, ?_, ?_, ?_, ?_, ?_, ?_⟩, short⟩
  · exact after ▸ serves
  · exact congrArg Link.signals after
  · exact after ▸ ⟨follows.start, follows.faultless, follows.goesOn⟩
  · rw [orderly.said, List.append_assoc]
  · change world.fed = _ ++ world.clients.settle.link.inbound.unread
    rw [orderly.fed, parts, after, Server.frames_append, Frame.encodeItems_append, List.append_assoc]
  · have told := (Server.conforms_append.mp orderly.conforms).2
    rw [← Server.after_append] at told
    exact told.more (longer.map Request.frame)
  · exact orderly.numbered
  · exact orderly.distinct
  · exact orderly.early
  · exact orderly.present
  · intro call
    change call ∈ world.clients.settle.calls ↔ _
    rw [settled, calls, List.mem_filter, decide_eq_true_eq, orderly.waits, ← told, List.mem_append, not_or]
    exact ⟨fun ⟨⟨asked, kept, unheard⟩, still⟩ => ⟨asked, kept, unheard, still⟩,
      fun ⟨asked, kept, unheard, still⟩ => ⟨⟨asked, kept, unheard⟩, still⟩⟩
  · change world.clients.settle.calls.Nodup
    rw [settled, calls]
    exact orderly.once.filter _
  · change world.clients.settle.finished = _
    rw [settled, finished, orderly.finished, ← done.told, List.filter_append]
    congr 1
    refine List.filter_congr fun entry member => ?_
    have among : entry.1 ∈ (link.signals.filterMap Signal.answer?).map Prod.fst := List.mem_map_of_mem member
    have unheard : entry.1 ∉ answered.map Request.call := fun earlier => disjoint _ earlier _ among rfl
    obtain ⟨request, inside, same⟩ := List.mem_map.mp (told ▸ List.mem_append_right _ among)
    have asked : entry.1 ∈ world.calls := by
      rw [← same]
      exact orderly.numbered request (by rw [done.order]; simp [inside])
    rw [decide_eq_decide, orderly.waits]
    exact ⟨fun waits => waits.2.1, fun kept => ⟨asked, kept, unheard⟩⟩
  · intro notice member
    rw [settled] at member
    rcases notices notice member with earlier | new
    · exact orderly.quiet notice earlier
    · exact done.quiet notice new

end Orderly

/-- A state of rest: whatever could be read has been read. -/
def Sound (world : World) : Prop :=
  ∃ answered unanswered past future, world.Orderly answered unanswered past future ∧
    ∀ entry ∈ future.head?, world.clients.link.inbound.unread.length < entry.1.frame.encode.length

private theorem sound_start (queueSize : Nat) : Sound { clients := { link := .ofConnection {} queueSize } } := by
  refine ⟨[], [], [], [], ⟨?_, rfl, ⟨List.nil_prefix, nofun, rfl⟩, rfl, rfl, trivial, nofun, List.nodup_nil, nofun,
    nofun, ?_, List.nodup_nil, rfl, nofun⟩, nofun⟩
  · exact ⟨rfl, rfl, rfl, nofun, rfl, nofun, nofun, rfl, rfl, rfl, nofun, fun _ => rfl, rfl, nofun⟩
  · simp

variable {world : World} {answered unanswered : List Request} {past future : List (Remark × Server)}

theorem Orderly.aside (orderly : world.Orderly answered unanswered past future) (link : Link)
    (serves : Link.Serves world.line answered unanswered (Server.after {} past)
      ((answered.map Request.call).zip (Server.after {} past).given) link)
    (inbound : link.inbound = world.clients.link.inbound) (signals : link.signals = []) :
    Orderly { world with clients := { world.clients with link } } answered unanswered past future := by
  refine { orderly with serves, collected := signals, follows := ?_, fed := ?_ }
  · exact ⟨inbound ▸ orderly.follows.start, inbound ▸ orderly.follows.faultless, inbound ▸ orderly.follows.goesOn⟩
  · exact inbound ▸ orderly.fed

theorem Orderly.request (orderly : world.Orderly answered unanswered past future) (request : Request)
    (fresh : request.call ∉ world.calls) (aimed : request.targets ≠ []) :
    Orderly { world with
      clients := (world.clients.begin (.request request.call request.verb request.targets)).2,
      line := world.line ++ [request], calls := world.calls ++ [request.call] } answered unanswered past future := by
  obtain ⟨queue, waiting, requested, serves⟩ := orderly.serves.request request aimed
  have begun : (world.clients.begin (.request request.call request.verb request.targets)).2 =
      { world.clients with
        link := { world.clients.link with queue, waiting }, calls := world.clients.calls ++ [request.call] } := by
    simp only [Clients.begin, orderly.serves.unclosed, Bool.false_eq_true, if_false, Clients.request, requested]
  have unheard : request.call ∉ answered.map Request.call := by
    intro member
    obtain ⟨other, inside, same⟩ := List.mem_map.mp member
    exact fresh (same ▸ orderly.numbered other (by rw [orderly.serves.order]; simp [inside]))
  have idle : request.call ∉ world.clients.calls := fun member => fresh ((orderly.waits request.call).mp member).1
  rw [begun]
  refine { orderly with
    serves, follows := ⟨orderly.follows.start, orderly.follows.faultless, orderly.follows.goesOn⟩,
    numbered := ?_, distinct := ?_, early := ?_, present := ?_, waits := ?_, once := ?_ }
  · intro other member
    rcases List.mem_append.mp member with earlier | last
    · exact List.mem_append_left _ (orderly.numbered other earlier)
    · exact List.mem_append_right _ (List.mem_singleton.mpr (congrArg Request.call (List.mem_singleton.mp last)))
  · rw [List.map_append, List.nodup_append]
    refine ⟨orderly.distinct, by simp, fun call member other last same => ?_⟩
    obtain ⟨earlier, inside, named⟩ := List.mem_map.mp member
    rw [List.map_singleton, List.mem_singleton] at last
    exact fresh (last ▸ same ▸ named ▸ orderly.numbered earlier inside)
  · exact fun call member => List.mem_append_left _ (orderly.early call member)
  · intro call asked kept
    rw [List.map_append, List.mem_append]
    rcases List.mem_append.mp asked with earlier | new
    · exact Or.inl (orderly.present call earlier kept)
    · exact Or.inr new
  · intro call
    change call ∈ world.clients.calls ++ [request.call] ↔
      call ∈ world.calls ++ [request.call] ∧ call ∉ world.abandoned ∧ call ∉ answered.map Request.call
    rw [List.mem_append, List.mem_append, List.mem_singleton, orderly.waits]
    constructor
    · rintro (⟨asked, rest⟩ | rfl)
      · exact ⟨Or.inl asked, rest⟩
      · exact ⟨Or.inr rfl, fun given => fresh (orderly.early _ given), unheard⟩
    · rintro ⟨asked | new, rest⟩
      · exact Or.inl ⟨asked, rest⟩
      · exact Or.inr new
  · change (world.clients.calls ++ [request.call]).Nodup
    rw [List.nodup_append]
    refine ⟨orderly.once, by simp, fun call member other last same => ?_⟩
    rw [List.mem_singleton] at last
    exact idle (last ▸ same ▸ member)

theorem Orderly.abandon (orderly : world.Orderly answered unanswered past future) (call : Nat) :
    Orderly { world.abandon call with clients := (world.clients.begin (.abandon call)).2 }
      answered unanswered past future := by
  by_cases waiting : call ∈ world.clients.calls
  · have begun : (world.clients.begin (.abandon call)).2 =
        { world.clients with link := world.clients.link.abandon call, calls := world.clients.calls.erase call } := by
      simp only [Clients.begin, Clients.abandon, List.contains_iff_mem.mpr waiting, if_true]
    obtain ⟨asked, -, unheard⟩ := (orderly.waits call).mp waiting
    have serves := orderly.serves.abandon orderly.distinct call
    rw [World.abandon, if_pos waiting, begun]
    have inside (request : Request) : request ∈ (if world.clients.link.waiting.any (·.call == call) then
        world.line.filter (·.call != call) else world.line) → request ∈ world.line := by
      split
      · exact List.mem_of_mem_filter
      · exact id
    refine { orderly with
      serves, follows := ⟨orderly.follows.start, orderly.follows.faultless, orderly.follows.goesOn⟩,
      numbered := fun request member => orderly.numbered request (inside request member),
      distinct := ?_, early := ?_, present := ?_, waits := ?_, once := orderly.once.erase call, finished := ?_ }
    · change (List.map Request.call (if _ then _ else _)).Nodup
      split
      · exact (List.filter_sublist.map _).nodup orderly.distinct
      · exact orderly.distinct
    · intro other member
      rcases List.mem_cons.mp member with rfl | earlier
      · exact asked
      · exact orderly.early other earlier
    · intro other among kept
      obtain ⟨different, still⟩ := not_or.mp (mt List.mem_cons.mpr kept)
      have inLine := orderly.present other among still
      change other ∈ List.map Request.call (if _ then _ else _)
      split
      · obtain ⟨request, member, same⟩ := List.mem_map.mp inLine
        refine List.mem_map.mpr ⟨request, List.mem_filter.mpr ⟨member, ?_⟩, same⟩
        simpa [same] using different
      · exact inLine
    · intro other
      change other ∈ world.clients.calls.erase call ↔
        other ∈ world.calls ∧ other ∉ call :: world.abandoned ∧ other ∉ answered.map Request.call
      rw [orderly.once.mem_erase_iff, orderly.waits, List.mem_cons, not_or]
      exact ⟨fun ⟨different, asked, kept, still⟩ => ⟨asked, ⟨different, kept⟩, still⟩,
        fun ⟨asked, ⟨different, kept⟩, still⟩ => ⟨different, asked, kept, still⟩⟩
    · change world.clients.finished = _
      rw [orderly.finished]
      refine List.filter_congr fun entry member => ?_
      have different : entry.1 ≠ call := by
        rintro rfl
        exact unheard (List.of_mem_zip member).1
      rw [decide_eq_decide, List.mem_cons, not_or]
      exact ⟨fun kept => ⟨different, kept⟩, fun kept => kept.2⟩
  · have begun : (world.clients.begin (.abandon call)).2 = world.clients := by
      simp [Clients.begin, Clients.abandon, waiting]
    rw [World.abandon, if_neg waiting, begun]
    exact orderly

theorem Orderly.watch (orderly : world.Orderly answered unanswered past future) {step : Clients.Step}
    (watches : step.Watches) :
    Orderly { world with clients := (world.clients.begin step).2 } answered unanswered past future := by
  have observed (observers : Observers Fault) :
      Orderly { world with clients := { world.clients with link := { world.clients.link with observers } } }
        answered unanswered past future := by
    have serves := orderly.serves.signalled observers [] rfl nofun
    rw [List.append_nil] at serves
    exact orderly.aside _ serves rfl orderly.collected
  cases step with
  | observe kind =>
    obtain ⟨observers, registered⟩ := Link.observe_eq world.clients.link kind
    unfold Clients.begin
    dsimp only
    rw [if_neg (by simp [orderly.serves.unclosed]), registered]
    exact observed observers
  | poll observer =>
    unfold Clients.begin
    dsimp only
    split
    · exact orderly
    · exact observed _
  | drain observer =>
    unfold Clients.begin
    dsimp only
    split
    · exact orderly
    · exact observed _
  | drop observer => exact observed _
  | _ => exact False.elim watches

theorem Orderly.accept (orderly : world.Orderly answered unanswered past future) (acceptance : Acceptance) :
    Orderly { world with clients := (world.clients.begin (.network (.accept acceptance))).2 }
      answered unanswered past future := by
  have serves := orderly.serves
  exact orderly.aside { world.clients.link with outbound := { world.clients.link.outbound with acceptance } }
    { serves with } rfl orderly.collected

theorem Orderly.deliver (orderly : world.Orderly answered unanswered past future) {piece : Bytes}
    (genuine : world.fed ++ piece <+: Frame.encodeItems (Server.frames world.said)) :
    Orderly { world with
      clients := (world.clients.begin (.network (.arrive (.piece piece)))).2, fed := world.fed ++ piece }
      answered unanswered past future := by
  have serves := orderly.serves
  refine { orderly with serves := { serves with }, follows := orderly.follows.arrive ?_, fed := ?_ }
  · rw [orderly.fed, orderly.said, Server.frames_append, Frame.encodeItems_append, List.append_assoc] at genuine
    exact (List.prefix_append_right_inj _).mp genuine
  · change world.fed ++ piece = _ ++ (world.clients.link.meet (.arrive (.piece piece))).inbound.unread
    rw [Link.unread_arrive, orderly.fed, List.append_assoc]

/-- The server finds in the bytes written to it the first of the commands in line, and nothing else. -/
theorem Orderly.heard (orderly : world.Orderly answered unanswered past future) (limit : Nat) :
    world.heard limit <+: (answered ++ unanswered).map Request.frame := orderly.serves.heard limit

private theorem Orderly.say (orderly : world.Orderly answered unanswered past future) {limit : Nat} {remark : Remark}
    {after : Server} (spoken : Server.Utters (world.heard limit) world.server remark after) :
    Orderly { world with said := world.said ++ [(remark, after)] } answered unanswered past
      (future ++ [(remark, after)]) := by
  refine { orderly with said := ?_, follows := orderly.follows.said _, conforms := ?_ }
  · rw [orderly.said, List.append_assoc]
  · rw [Server.conforms_append, ← Server.after_append, ← orderly.said]
    exact ⟨orderly.conforms, spoken.more (orderly.heard limit), trivial⟩

/-- Whatever happens, the world is sound until the connection fails. -/
theorem Reached.sound {limit queueSize : Nat} (reached : Reached limit queueSize world)
    (alive : world.clients.link.failure = none) : world.Sound := by
  induction reached with
  | start => exact sound_start queueSize
  | @request world _ request fresh aimed ih =>
    have before := (Clients.step_keeps world.clients
      (.request request.call request.verb request.targets)).alive alive
    obtain ⟨_, _, _, _, orderly, -⟩ := ih before
    exact (orderly.request request fresh aimed).settle alive
  | @abandon world _ call ih =>
    have after := clients_abandon world call
    rw [after] at alive
    obtain ⟨_, _, _, _, orderly, -⟩ := ih ((Clients.step_keeps world.clients (.abandon call)).alive alive)
    have rest := (orderly.abandon call).settle alive
    have same : { world.abandon call with clients := (world.clients.begin (.abandon call)).2.settle } =
      world.abandon call := by
      change { world.abandon call with clients := (world.clients.step (.abandon call)).2 } = _
      rw [← after]
    exact same ▸ rest
  | @watch world _ step watches ih =>
    obtain ⟨_, _, _, _, orderly, -⟩ := ih ((Clients.step_keeps world.clients step).alive alive)
    exact (orderly.watch watches).settle alive
  | @accept world _ acceptance ih =>
    have before := (Clients.step_keeps world.clients (.network (.accept acceptance))).alive alive
    obtain ⟨_, _, _, _, orderly, -⟩ := ih before
    obtain ⟨answered, unanswered, past, future, rest, short⟩ := (orderly.accept acceptance).settle alive
    exact ⟨answered, unanswered, past, future, { rest with }, short⟩
  | @say world _ remark after spoken ih =>
    obtain ⟨answered, unanswered, past, future, orderly, short⟩ := ih alive
    refine ⟨answered, unanswered, past, _, orderly.say spoken, ?_⟩
    cases future with
    | cons entry later => exact short
    | nil =>
      intro entry member
      have empty : world.clients.link.inbound.unread = [] := List.prefix_nil.mp orderly.follows.start
      change world.clients.link.inbound.unread.length < _
      rw [empty]
      exact List.length_pos_iff.mpr (Frame.encode_ne_nil _)
  | @deliver world _ piece genuine ih =>
    have before := (Clients.step_keeps world.clients (.network (.arrive (.piece piece)))).alive alive
    obtain ⟨_, _, _, _, orderly, -⟩ := ih before
    exact (orderly.deliver genuine).settle alive

private theorem Orderly.lasts (orderly : world.Orderly answered unanswered past future)
    (within : Frame.Within Frame.defaultLimit (Server.frames world.said)) (flows : world.clients.link.Flows)
    (limited : world.clients.link.inbound.decoder.limit = Frame.defaultLimit) :
    world.clients.settle.link.Flows ∧ world.clients.settle.link.inbound.decoder.limit = Frame.defaultLimit := by
  have unread : Frame.Within world.clients.link.inbound.decoder.limit (Server.frames future) := by
    intro frame member
    rw [limited]
    refine within frame ?_
    rw [orderly.said, Server.frames_append]
    exact List.mem_append_right _ member
  have unfailed := Inbound.readOnto_unfailed [] orderly.conforms.lined unread orderly.follows.start
    orderly.follows.faultless orderly.follows.goesOn
  obtain ⟨worked, inbound⟩ := flows.work orderly.serves.reading unfailed
  rw [Clients.link_settle]
  refine ⟨⟨worked.alive, worked.patient⟩, ?_⟩
  change world.clients.link.work.inbound.decoder.limit = _
  rw [inbound]
  exact (Inbound.limit_readOnto [] _).trans limited

/-- Unless the network refuses a write or the server says what is too long for a frame, the stream does not fail. -/
theorem Reached.unfailed {limit queueSize : Nat} (reached : Reached limit queueSize world)
    (taken : ∀ acceptance ∈ world.acceptances, acceptance.Patient)
    (within : Frame.Within Frame.defaultLimit (Server.frames world.said)) : world.clients.link.failure = none := by
  -- The induction also carries that no refusal is in store, and the limit of the reader.
  suffices lasts : world.clients.link.Flows ∧ world.clients.link.inbound.decoder.limit = Frame.defaultLimit from
    lasts.1.alive
  have apart (step : Clients.Step) {world : World} (lasts : world.clients.link.Flows ∧
      world.clients.link.inbound.decoder.limit = Frame.defaultLimit) (aside : ∀ event, step ≠ .network event) :
      (world.clients.begin step).2.link.outbound.acceptance.Patient ∧
        (world.clients.begin step).2.link.inbound.decoder.limit = Frame.defaultLimit := by
    obtain ⟨inbound, outbound⟩ := Clients.begin_stream world.clients aside
    rw [inbound, outbound]
    exact ⟨lasts.1.patient, lasts.2⟩
  induction reached with
  | start => exact ⟨⟨rfl, .everything⟩, rfl⟩
  | @request world reached request fresh aimed ih =>
    have before := ih taken within
    obtain ⟨_, _, _, _, orderly, -⟩ := reached.sound before.1.alive
    obtain ⟨patient, limited⟩ := apart (.request request.call request.verb request.targets) before nofun
    have begun := orderly.request request fresh aimed
    exact begun.lasts within ⟨begun.serves.alive, patient⟩ limited
  | @abandon world reached call ih =>
    have kept : (world.abandon call).acceptances = world.acceptances ∧ (world.abandon call).said = world.said := by
      unfold World.abandon
      split <;> exact ⟨rfl, rfl⟩
    have before := ih (kept.1 ▸ taken) (kept.2 ▸ within)
    obtain ⟨_, _, _, _, orderly, -⟩ := reached.sound before.1.alive
    obtain ⟨patient, limited⟩ := apart (.abandon call) before nofun
    have begun := orderly.abandon call
    rw [clients_abandon]
    exact begun.lasts within ⟨begun.serves.alive, patient⟩ limited
  | @watch world reached step watches ih =>
    have before := ih taken within
    obtain ⟨_, _, _, _, orderly, -⟩ := reached.sound before.1.alive
    obtain ⟨patient, limited⟩ := apart step before fun event same => by cases same; exact watches
    have begun := orderly.watch watches
    exact begun.lasts within ⟨begun.serves.alive, patient⟩ limited
  | @accept world reached acceptance ih =>
    have before := ih (fun other member => taken other (List.mem_append_left _ member)) within
    obtain ⟨_, _, _, _, orderly, -⟩ := reached.sound before.1.alive
    have patient := taken acceptance (List.mem_append_right _ (List.mem_singleton_self _))
    have begun := orderly.accept acceptance
    exact begun.lasts within ⟨begun.serves.alive, patient⟩ before.2
  | @say world reached remark after spoken ih =>
    exact ih taken fun frame member => within frame (by
      rw [World.say, Server.frames_append]
      exact List.mem_append_left _ member)
  | @deliver world reached piece genuine ih =>
    have before := ih taken within
    obtain ⟨_, _, _, _, orderly, -⟩ := reached.sound before.1.alive
    have begun := orderly.deliver genuine
    exact begun.lasts within ⟨begun.serves.alive, before.1.patient⟩ before.2

private theorem covered_past {past future : List (Remark × Server)} {rest : Nat}
    (short : ∀ entry ∈ future.head?, rest < entry.1.frame.encode.length) :
    covered ((Frame.encodeItems (Server.frames past)).length + rest) (past ++ future) = past := by
  induction past with
  | nil =>
    cases future with
    | nil => rfl
    | cons entry later =>
      have missing := short entry rfl
      simp only [Server.frames, List.map_nil, Frame.encodeItems, List.length_nil, Nat.zero_add, List.nil_append, covered]
      rw [if_neg (Nat.not_le.mpr missing)]
  | cons entry past ih =>
    simp only [Server.frames, List.map_cons, Frame.encodeItems, List.length_append, List.cons_append, covered] at ih ⊢
    rw [if_pos (by omega), Nat.add_assoc, Nat.add_sub_cancel_left, ih]

/-- The commands that the server finds are those of the requests in line, from the first on. A call that
was not given up has its result as soon as, and not before, the server's answer to its own command has
arrived, and nobody ever gets an answer twice or sees one that belongs to nobody. -/
theorem calls_get_own_answers {limit queueSize : Nat} (reached : Reached limit queueSize world)
    (alive : world.clients.link.failure = none) :
    world.heard limit <+: world.line.map Request.frame ∧
    (world.line.map Request.call).Nodup ∧
    (∀ call ∈ world.calls, call ∉ world.abandoned → call ∈ world.line.map Request.call) ∧
    (∀ call result, (call, result) ∈ world.clients.finished ↔ call ∉ world.abandoned ∧
      ∃ i : Nat, (world.line.map Request.call)[i]? = some call ∧ world.known.given[i]? = some result) ∧
    (world.clients.finished.map Prod.fst).Nodup ∧
    ∀ notice ∈ world.clients.notices, ¬ notice.Misplaced := by
  obtain ⟨answered, unanswered, past, future, orderly, short⟩ := reached.sound alive
  have known : world.known = Server.after {} past := by
    rw [World.known, orderly.said, orderly.fed, List.length_append, covered_past short]
  have front : answered ++ unanswered <+: world.line := by
    rw [orderly.serves.order, List.append_assoc]
    exact List.prefix_append _ _
  have calls : world.line.map Request.call =
      answered.map Request.call ++
        (unanswered ++ world.clients.link.queue ++ world.clients.link.waiting).map Request.call := by
    rw [orderly.serves.order]
    simp
  have level := orderly.serves.level
  refine ⟨(orderly.heard limit).trans (front.map _), orderly.distinct, orderly.present, ?_, ?_, orderly.quiet⟩
  · intro call result
    rw [orderly.finished, List.mem_filter, decide_eq_true_eq, and_comm, known, calls]
    refine and_congr_right fun _ => List.mem_iff_getElem?.trans (exists_congr fun i => ?_)
    rw [List.getElem?_zip_eq_some]
    refine and_congr_left fun given => ?_
    have inside : i < (answered.map Request.call).length := by
      obtain ⟨inside, -⟩ := List.getElem?_eq_some_iff.mp given
      rw [List.length_map, level]
      exact inside
    rw [List.getElem?_append_left inside]
  · have distinct := orderly.distinct
    rw [calls, List.nodup_append] at distinct
    have single : (((answered.map Request.call).zip (Server.after {} past).given).map Prod.fst).Nodup := by
      rw [names_zip level]
      exact distinct.1
    rw [orderly.finished]
    exact (List.filter_sublist.map _).nodup single

/-- Two calls share a connection with room for one request; a third is given up. Its answer passes, and
each of the others has its own. -/
theorem calls_get_own_answers_shared :
    ∃ world, Reached 1024 1 world ∧ world.clients.link.failure = none ∧
      (0, .ok ()) ∈ world.clients.finished ∧ (2, .error (.server "no")) ∈ world.clients.finished := by
  have fresh : Reached 1024 1 { clients := { link := .ofConnection {} 1 } } := .start
  have asked := ((fresh.request ⟨0, .subscribe, [[97], [98]]⟩ (by decide) (by decide)).request ⟨1, .psubscribe, [[99]]⟩
    (by decide) (by decide)).request ⟨2, .unsubscribe, [[97]]⟩ (by decide) (by decide)
  have given := asked.abandon 1
  have first := given.say (.acknowledgement .subscribe [97] 1) _ (.acknowledges
    (by decide +kernel : _ = some (Verb.command .subscribe [[97], [98]]).frame) (by decide +kernel))
  have pushed := first.say (.message [97] [104, 105]) _ .message
  have second := pushed.say (.acknowledgement .subscribe [98] 2) _ (.completes
    (by decide +kernel : _ = some (Verb.command .subscribe [[97], [98]]).frame) (by decide +kernel))
  have third := second.say (.acknowledgement .psubscribe [99] 3) _ (.completes
    (by decide +kernel : _ = some (Verb.command .psubscribe [[99]]).frame) (by decide +kernel))
  have last := third.say (.refusal [110, 111]) _ (.refuses
    (by decide +kernel : _ = some (Verb.command .unsubscribe [[97]]).frame) (by decide +kernel)
    (Bytes.oneLine_of_not_mem (by decide)))
  have half := last.deliver (Bytes.ofText "*3\r\n$9\r\nsubscribe\r\n$1\r\na\r\n:1\r\n*3\r\n$7\r\nmess") (by decide +kernel)
  have rest := half.deliver (Bytes.ofText ("age\r\n$1\r\na\r\n$2\r\nhi\r\n*3\r\n$9\r\nsubscribe\r\n$1\r\nb\r\n:2\r\n" ++
    "*3\r\n$10\r\npsubscribe\r\n$1\r\nc\r\n:3\r\n-no\r\n")) (by decide +kernel)
  have answers := (calls_get_own_answers rest (by decide +kernel)).2.2.2.1
  refine ⟨_, rest, by decide +kernel, ?_, ?_⟩
  · exact (answers 0 (.ok ())).mpr ⟨by decide +kernel, 0, by decide +kernel, by decide +kernel⟩
  · exact (answers 2 (.error (.server "no"))).mpr ⟨by decide +kernel, 2, by decide +kernel, by decide +kernel⟩

end World

end Subscriber
