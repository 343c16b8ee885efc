import Mathlib.Data.List.Forall2
import Mathlib.Data.Nat.Digits.Defs
import Subscriber.Handshake
import Subscriber.Proofs.OnePass

/-! Handshakes ask and listen in turn. What is read for a command is what the connection would give without the handshake,
one reply for each command; the first command that is not granted is the last one sent, and whatever stands behind its
reply is left to those who read on. -/

namespace Subscriber

namespace Decimal

private theorem encode_digitChar {n : Nat} (small : n < 10) : String.utf8EncodeChar n.digitChar = [digit n] := by
  have all : ∀ n < 10, String.utf8EncodeChar n.digitChar = [digit n] := by decide
  exact all n small

private theorem ofText_toString (n : Nat) : Bytes.ofText (toString n) = ofNat n := by
  have digits : (Nat.toDigits 10 n).flatMap String.utf8EncodeChar = ofNat n := by
    induction n using Nat.strongRecOn with
    | ind n ih =>
      rw [ofNat]
      split
      next small => rw [Nat.toDigits_of_lt_base small, List.flatMap_singleton, encode_digitChar small]
      next large =>
        have last : n % 10 < 10 := Nat.mod_lt _ (by decide)
        rw [Nat.toDigits_of_base_le (by decide) (Nat.le_of_not_lt large), List.flatMap_append, List.flatMap_singleton,
          ih (n / 10) (by omega), encode_digitChar last]
  rw [Bytes.ofText, Nat.toString_eq_repr, Nat.repr_eq_ofList_toDigits, String.toList_ofList, digits]

end Decimal

/-- Writes are accepted in the end, in portions of whatever size. -/
inductive Acceptance.Willing : Acceptance → Prop where
  | everything : Willing .everything
  | atMost (count : Nat) : Willing (.atMost (count + 1))
  | upTo (count : Nat) {later : Acceptance} (willing : Willing later) : Willing (.upTo count later)

namespace Acceptance

variable {acceptance : Acceptance}

private theorem Willing.flushes (willing : acceptance.Willing) : acceptance.flushFailure? = none := by
  induction willing with
  | everything => rfl
  | atMost count => rfl
  | upTo count willing ih =>
    cases count with
    | zero => exact ih
    | succ count => rfl

private theorem Willing.takes (willing : acceptance.Willing) (offered : Nat) : ∃ count, acceptance.call offered = .takes count := by
  induction willing with
  | everything => exact ⟨_, rfl⟩
  | atMost count => exact ⟨_, rfl⟩
  | upTo count willing ih =>
    cases count with
    | zero => exact ih
    | succ count => exact ⟨_, rfl⟩

private theorem Willing.behind (willing : acceptance.Willing) (taken : Nat) : (acceptance.behind taken).Willing := by
  induction willing with
  | everything => exact .everything
  | atMost count => exact .atMost count
  | upTo count willing ih =>
    cases count with
    | zero => exact ih
    | succ count => exact .upTo _ willing

end Acceptance

private theorem Outbound.send_willing {outbound : Outbound} (willing : outbound.acceptance.Willing) (bytes : Bytes) :
    ∃ acceptance, acceptance.Willing ∧
      outbound.send bytes = (.done, { acceptance, accepted := outbound.accepted ++ bytes }) := by
  fun_induction send outbound bytes with
  | case1 outbound bytes empty quiet =>
    rw [List.length_eq_zero_iff.mp empty, List.append_nil]
    exact ⟨outbound.acceptance, willing, rfl⟩
  | case2 outbound bytes empty cause broken => cases willing.flushes.symm.trans broken
  | case3 outbound bytes some waits =>
    obtain ⟨count, takes⟩ := willing.takes bytes.length
    cases takes.symm.trans waits
  | case4 outbound bytes some cause fails =>
    obtain ⟨count, takes⟩ := willing.takes bytes.length
    cases takes.symm.trans fails
  | case5 outbound bytes some count taken ih =>
    obtain ⟨acceptance, goesOn, sent⟩ := ih (willing.behind count)
    refine ⟨acceptance, goesOn, ?_⟩
    simpa only [List.append_assoc, List.take_append_drop] using sent

def Incoming.Grants : Incoming → Prop
  | .frame (.error _) | .failed _ | .pending => False
  | .frame _ => True

namespace Inbound

def past (inbound : Inbound) : Nat → Inbound
  | 0 => inbound
  | more + 1 => inbound.readFrame.2.past more

def reply (inbound : Inbound) (earlier : Nat) : Incoming := (inbound.past earlier).readFrame.1

theorem past_succ (inbound : Inbound) (earlier : Nat) :
    inbound.past (earlier + 1) = (inbound.past earlier).readFrame.2 := by
  induction earlier generalizing inbound with
  | zero => rfl
  | succ earlier ih => exact ih _

/-- As long as every read finds a frame, these are the first ones in one pass over all that has arrived. -/
theorem course_past {inbound : Inbound} {limit : Nat} (limited : inbound.decoder.limit = limit) {reads : Nat}
    (within : ∀ earlier ≤ reads, (inbound.past earlier).decoder.buffer.length ≤ limit) :
    inbound.course = (inbound.past reads).course.behind
      (((List.range reads).map inbound.reply).filterMap Incoming.finding?) ∧
    (inbound.past reads).ended = inbound.ended ∧ (inbound.past reads).decoder.limit = limit := by
  induction reads with
  | zero => exact ⟨rfl, rfl, limited⟩
  | succ reads ih =>
    obtain ⟨course, ended, kept⟩ := ih fun earlier before => within earlier (Nat.le_succ_of_le before)
    have still : (inbound.past (reads + 1)).decoder.limit = limit := by
      rw [past_succ]
      exact (limit_readFrame (Prod.eta (inbound.past reads).readFrame).symm).trans kept
    have bound := within (reads + 1) (Nat.le_refl _)
    rw [← still, past_succ] at bound
    obtain ⟨-, next, same⟩ := readFrame_course (Prod.eta (inbound.past reads).readFrame).symm bound
    rw [past_succ] at still ⊢
    refine ⟨?_, same.trans ended, still⟩
    rw [course, next, Course.behind_behind, List.range_succ, List.map_append, List.filterMap_append]
    rfl

private theorem length_findings {inbound : Inbound} {reads : Nat} (granted : ∀ earlier < reads, (inbound.reply earlier).Grants) :
    (((List.range reads).map inbound.reply).filterMap Incoming.finding?).length = reads := by
  induction reads with
  | zero => rfl
  | succ reads ih =>
    have before := ih fun earlier first => granted earlier (Nat.lt_succ_of_lt first)
    have last := granted reads (Nat.lt_succ_self reads)
    rw [List.range_succ, List.map_append, List.filterMap_append, List.length_append, before]
    cases answered : inbound.reply reads with
    | frame frame => simp [answered, Incoming.finding?]
    | failed error | pending =>
      rw [answered] at last
      exact last.elim

end Inbound

namespace Handshake

def wanted (handshake : Handshake) : List (List Bytes) :=
  (match handshake.password, handshake.username with
    | none, _ => []
    | some password, none => [[Bytes.ofText "AUTH", Bytes.ofText password]]
    | some password, some username => [[Bytes.ofText "AUTH", Bytes.ofText username, Bytes.ofText password]]) ++
  (match handshake.database with
    | none => []
    | some database => [[Bytes.ofText "SELECT", Bytes.ofText (toString database.toNat)]]) ++
  (match handshake.clientName with
    | none => []
    | some name => [[Bytes.ofText "CLIENT", Bytes.ofText "SETNAME", Bytes.ofText name]])

def carrying (words : List Bytes) : Frame := .array (words.map fun word => .bulk (some word))

/-- What a handshake comes to at a command with this reply. -/
def verdict (words : List Bytes) : Incoming → Outcome
  | .frame (.error text) =>
    .failed (if words.head? = some (Bytes.ofText "AUTH") then .auth else .server (Text.lossy text))
  | .frame _ => .done
  | .failed error => .failed error
  | .pending => .pending

def Request.Carries (request : Request) (words : List Bytes) : Prop :=
  request.command.words = words ∧ request.authenticates = decide (words.head? = some (Bytes.ofText "AUTH"))

private theorem requests_wanted (handshake : Handshake) : List.Forall₂ Request.Carries handshake.requests handshake.wanted := by
  have other (word : Bytes) (differs : word ≠ Bytes.ofText "AUTH") : false = decide (some word = some (Bytes.ofText "AUTH")) :=
    (decide_eq_false fun same => differs (Option.some.inj same)).symm
  have selected (database : UInt8) : Request.Carries { command := .select database }
      [Bytes.ofText "SELECT", Bytes.ofText (toString database.toNat)] :=
    ⟨by rw [Decimal.ofText_toString]; rfl, other _ (by decide)⟩
  obtain ⟨username, password, database, clientName⟩ := handshake
  refine List.rel_append (List.rel_append ?_ ?_) ?_
  · match password, username with
    | none, _ => exact .nil
    | some _, none | some _, some _ => exact .cons ⟨rfl, (decide_eq_true rfl).symm⟩ .nil
  · match database with
    | none => exact .nil
    | some database => exact .cons (selected database) .nil
  · match clientName with
    | none => exact .nil
    | some name => exact .cons ⟨rfl, other (Bytes.ofText "CLIENT") (by decide)⟩ .nil

private theorem Request.Carries.frame {request : Request} {words : List Bytes} (carries : request.Carries words) :
    request.command.frame = carrying words := by
  rw [Command.frame, carries.1, carrying]

/-- A reply ends a handshake exactly if it does not grant the command, and then in the way that is due. -/
theorem Request.Carries.judge {request : Request} {words : List Bytes} (carries : request.Carries words) (reply : Frame) :
    match request.judge reply with
    | none => Incoming.Grants (.frame reply)
    | some error => ¬ Incoming.Grants (.frame reply) ∧ verdict words (.frame reply) = .failed error := by
  cases reply with
  | error text =>
    refine ⟨id, ?_⟩
    by_cases first : words.head? = some (Bytes.ofText "AUTH")
    · simp [verdict, carries.2, first]
    · simp [verdict, carries.2, first]
  | _ => trivial

/-- What became of a handshake that sent these commands on a connection: so many were granted, in a row, and all of them or
else all but the last one sent. -/
structure Kept (wanted : List (List Bytes)) (connection : Connection) (outcome : Outcome) (after : Connection)
    (granted : Nat) : Prop where
  few : granted ≤ wanted.length
  goesOn : ∀ k < granted, (connection.inbound.reply k).Grants
  stops : granted < wanted.length → ¬ (connection.inbound.reply granted).Grants
  result : outcome = match wanted[granted]? with
    | none => .done
    | some words => verdict words (connection.inbound.reply granted)
  sent : after.outbound.accepted =
    connection.outbound.accepted ++ Frame.encodeItems ((wanted.take (granted + 1)).map carrying)
  left : after.inbound = connection.inbound.past (wanted.take (granted + 1)).length

private theorem Kept.stopped {words : List Bytes} {later : List (List Bytes)} {connection after : Connection}
    (refused : ¬ (connection.inbound.reply 0).Grants)
    (sent : after.outbound.accepted = connection.outbound.accepted ++ (carrying words).encode)
    (left : after.inbound = connection.inbound.past 1) :
    Kept (words :: later) connection (verdict words (connection.inbound.reply 0)) after 0 where
  few := Nat.zero_le _
  goesOn := nofun
  stops _ := refused
  result := rfl
  sent := by
    rw [sent]
    exact congrArg _ (List.append_nil _).symm
  left := left

private theorem Kept.behind {words : List Bytes} {later : List (List Bytes)} {connection next after : Connection}
    {outcome : Outcome} {granted : Nat} (kept : Kept later next outcome after granted)
    (first : (connection.inbound.reply 0).Grants)
    (sent : next.outbound.accepted = connection.outbound.accepted ++ (carrying words).encode)
    (left : next.inbound = connection.inbound.past 1) :
    Kept (words :: later) connection outcome after (granted + 1) := by
  have replies (k : Nat) : next.inbound.reply k = connection.inbound.reply (k + 1) := by
    rw [left]
    rfl
  refine ⟨Nat.succ_le_succ kept.few, ?_, ?_, ?_, ?_, ?_⟩
  · intro k before
    cases k with
    | zero => exact first
    | succ k => exact replies k ▸ kept.goesOn k (Nat.lt_of_succ_lt_succ before)
  · intro before
    exact replies granted ▸ kept.stops (Nat.lt_of_succ_lt_succ before)
  · rw [kept.result, replies]
    rfl
  · rw [kept.sent, sent, List.take_succ_cons, List.map_cons, Frame.encodeItems, List.append_assoc]
  · rw [kept.left, left, List.take_succ_cons]
    rfl

private theorem perform_kept {requests : List Request} {wanted : List (List Bytes)}
    (carried : List.Forall₂ Request.Carries requests wanted) {connection : Connection}
    (willing : connection.outbound.acceptance.Willing) :
    ∃ granted, Kept wanted connection (perform requests connection).1 (perform requests connection).2 granted := by
  induction carried generalizing connection with
  | nil => exact ⟨0, Nat.le_refl _, nofun, nofun, rfl, (List.append_nil _).symm, rfl⟩
  | @cons request words requests later carries others ih =>
    obtain ⟨acceptance, goesOn, sent⟩ := connection.outbound.send_willing willing (carrying words).encode
    let written : Connection := { connection with
      outbound := { acceptance, accepted := connection.outbound.accepted ++ (carrying words).encode } }
    have writes : connection.write request.command.frame = (.done, written) := by
      rw [carries.frame, Connection.write_eq, sent]
    let next : Connection := { written with inbound := connection.inbound.past 1 }
    have reads : written.read = (connection.inbound.reply 0, next) := rfl
    rw [perform, writes]
    dsimp only
    rw [reads]
    have ends (refused : ¬ (connection.inbound.reply 0).Grants) :
        Kept (words :: later) connection (verdict words (connection.inbound.reply 0)) next 0 :=
      .stopped refused rfl rfl
    -- Only a frame lets the handshake go on; every other answer of the connection is its end.
    cases answered : connection.inbound.reply 0 with
    | failed error | pending =>
      rw [answered] at ends
      exact ⟨0, ends id⟩
    | frame reply =>
      have judged := carries.judge reply
      dsimp only
      cases found : request.judge reply with
      | some error =>
        rw [found] at judged
        rw [answered, judged.2] at ends
        exact ⟨0, ends judged.1⟩
      | none =>
        rw [found] at judged
        obtain ⟨granted, kept⟩ := @ih next goesOn
        exact ⟨granted + 1, kept.behind (answered ▸ judged) rfl rfl⟩

private theorem verdict_done {words : List Bytes} {reply : Incoming} (done : verdict words reply = .done) : reply.Grants := by
  match reply with
  | .frame (.error _) => cases done
  | .frame (.simple _) | .frame (.integer _) | .frame (.bulk _) | .frame (.array _) | .frame .null => trivial
  | .failed _ | .pending => cases done

private theorem Kept.done_iff {wanted : List (List Bytes)} {connection after : Connection} {outcome : Outcome} {granted : Nat}
    (kept : Kept wanted connection outcome after granted) :
    outcome = .done ↔ ∀ k < wanted.length, (connection.inbound.reply k).Grants := by
  constructor
  · intro done
    have all : granted = wanted.length := by
      by_contra some
      have before : granted < wanted.length := Nat.lt_of_le_of_ne kept.few some
      have result := kept.result
      rw [List.getElem?_eq_getElem before, done] at result
      exact kept.stops before (verdict_done result.symm)
    exact fun k before => kept.goesOn k (all ▸ before)
  · intro all
    have whole : wanted.length ≤ granted := by
      by_contra some
      have before := Nat.not_le.mp some
      exact kept.stops before (all granted before)
    rw [kept.result, List.getElem?_eq_none whole]

/-- Whatever is configured and whatever arrives, one reply is read for each command, and the next command is sent only if
that reply grants the last one; also while more is still to arrive, no other command has been sent. The handshake is done if
every command was granted, and else it comes to what is due at the first that was not. What has been sent are those
commands as a whole, and those who read on find what stands behind the last reply. The replies are the frames that all
bytes together begin with, wherever they were cut. -/
theorem asks_and_listens (handshake : Handshake) (connection : Connection)
    (willing : connection.outbound.acceptance.Willing) :
    let after := (handshake.run connection).2
    ∃ granted, Kept handshake.wanted connection (handshake.run connection).1 after granted ∧
      ((handshake.run connection).1 = .done ↔ ∀ k < handshake.wanted.length, (connection.inbound.reply k).Grants) ∧
      ∀ limit, connection.inbound.decoder = { limit } →
        (∀ reads ≤ handshake.wanted.length, (connection.inbound.past reads).decoder.buffer.length ≤ limit) →
        let whole := Course.pass limit [] connection.inbound.queue
        (∀ k ≤ granted, k < handshake.wanted.length →
          connection.inbound.reply k = whole.answer k connection.inbound.ended) ∧
        whole = after.inbound.course.behind (((List.range (handshake.wanted.take (granted + 1)).length).map
          connection.inbound.reply).filterMap Incoming.finding?) := by
  intro after
  obtain ⟨granted, kept⟩ := perform_kept handshake.requests_wanted willing
  refine ⟨granted, kept, kept.done_iff, ?_⟩
  intro limit fresh within whole
  have limited : connection.inbound.decoder.limit = limit := by rw [fresh]
  have start : whole = connection.inbound.course := by
    rw [Inbound.course, fresh]
  have early {reads : Nat} (few : reads ≤ handshake.wanted.length) :=
    connection.inbound.course_past limited fun earlier before => within earlier (Nat.le_trans before few)
  rw [start, show after.inbound = _ from kept.left]
  refine ⟨?_, (early (List.length_take_le' _ _)).1⟩
  intro k before inside
  obtain ⟨course, ended, still⟩ := early (Nat.le_of_lt inside)
  have bound := within (k + 1) inside
  have same := Inbound.limit_readFrame (Prod.eta (connection.inbound.past k).readFrame).symm
  rw [← still, ← same, Inbound.past_succ] at bound
  obtain ⟨answer, -, -⟩ := Inbound.readFrame_course (Prod.eta (connection.inbound.past k).readFrame).symm bound
  have found := Inbound.length_findings fun earlier first => kept.goesOn earlier (Nat.lt_of_lt_of_le first before)
  have next := (connection.inbound.past k).course.answer_behind
    (((List.range k).map connection.inbound.reply).filterMap Incoming.finding?) connection.inbound.ended
  rw [found, ← course] at next
  rw [next, ← ended]
  exact answer

/-- A database that is refused, in an answer cut twice, with a message right behind it and writes that accept a few bytes at
a time. -/
theorem asks_and_listens_refused :
    let handshake : Handshake := { username := some "u", password := some "p", database := some 3, clientName := some "n" }
    let piece (text : String) : Arrival := .piece (Bytes.ofText text)
    let connection : Connection := {
      inbound := { queue := [piece "+O", piece "K\r\n-ERR", piece " no\r\n*1\r\n:7", piece "\r\n"], ended := true },
      outbound := { acceptance := .upTo 2 (.atMost 3) } }
    let whole := Course.pass Frame.defaultLimit [] connection.inbound.queue
    connection.outbound.acceptance.Willing ∧
      (handshake.run connection).1 = .failed (.server "ERR no") ∧
      (handshake.run connection).2.outbound.accepted =
        Bytes.ofText "*3\r\n$4\r\nAUTH\r\n$1\r\nu\r\n$1\r\np\r\n*2\r\n$6\r\nSELECT\r\n$1\r\n3\r\n" ∧
      (handshake.run connection).2.readAll.frames = [.array [.integer 7]] ∧
      whole.answer 1 true = .frame (.error (Bytes.ofText "ERR no")) := by
  intro handshake piece connection whole
  have willing : connection.outbound.acceptance.Willing := .upTo 2 (.atMost 2)
  obtain ⟨granted, kept, -, cut⟩ := handshake.asks_and_listens connection willing
  have first : connection.inbound.reply 0 = .frame (.simple (Bytes.ofText "OK")) := by decide +kernel
  have second : connection.inbound.reply 1 = .frame (.error (Bytes.ofText "ERR no")) := by decide +kernel
  have once : granted = 1 := by
    match granted, kept with
    | 0, kept => exact absurd (first ▸ trivial) (kept.stops (by decide))
    | 1, _ => rfl
    | more + 2, kept =>
      have refused := kept.goesOn 1 (by omega)
      rw [second] at refused
      exact refused.elim
  subst once
  have small : ∀ reads ≤ 3, (connection.inbound.past reads).decoder.buffer.length ≤ Frame.defaultLimit := by
    decide +kernel
  refine ⟨willing, ?_, ?_, ?_, ?_⟩
  · rw [kept.result, second]
    decide +kernel
  · rw [kept.sent]
    decide +kernel
  · rw [Connection.readAll, kept.left]
    decide +kernel
  · exact ((cut _ rfl small).1 1 (Nat.le_refl _) (by decide)).symm.trans second

end Handshake

end Subscriber
