import Subscriber.Proofs.Arrangements

/-! What a connection may still have to do. What has arrived is read once, and what was read is delivered once to each of at
most two observers; nobody is told twice that there is room. -/

namespace Subscriber

namespace Observers
variable {ε : Type} {observers before after : Observers ε}

def posts (observers : Observers ε) : List (Nat × Message.Kind) :=
  observers.members.map fun observer => (observer.id, observer.kind)

theorem posts_map (observers : Observers ε) {change : Observer ε → Observer ε}
    (same : ∀ observer, (change observer).id = observer.id ∧ (change observer).kind = observer.kind) :
    posts { observers with members := observers.members.map change } = observers.posts := by
  unfold posts
  rw [List.map_map]
  refine List.map_congr_left fun observer _ => ?_
  rw [Function.comp, (same observer).1, (same observer).2]

theorem posts_release (observers : Observers ε) (id : Nat) :
    (observers.release id).posts = observers.posts.filter (·.1 != id) := by
  unfold posts
  rw [List.filter_map]
  rfl

theorem Tagged.same (tagged : before.Tagged) (next : after.next = before.next) (posts : after.posts = before.posts) :
    after.Tagged := by
  have ids (observers : Observers ε) : observers.members.map (·.id) = observers.posts.map Prod.fst := by
    unfold Observers.posts
    rw [List.map_map]
    rfl
  refine ⟨fun observer member => ?_, ?_⟩
  · have inside : observer.id ∈ before.members.map (·.id) := by
      rw [ids, ← posts, ← ids]
      exact List.mem_map_of_mem member
    obtain ⟨other, early, same⟩ := List.mem_map.mp inside
    rw [next, ← same]
    exact tagged.numbered other early
  · rw [ids, posts, ← ids]
    exact tagged.distinct

theorem Tagged.opened (tagged : observers.Tagged) {observer : Observer ε} (own : observer.id = observers.next) :
    Tagged { next := observers.next + 1, members := observers.members ++ [observer] } := by
  refine ⟨fun other member => ?_, ?_⟩
  · rcases List.mem_append.mp member with old | last
    · exact Nat.lt_succ_of_lt (tagged.numbered other old)
    · rw [List.mem_singleton.mp last, own]
      exact Nat.lt_succ_self _
  · rw [List.map_append, List.map_singleton, own, ← List.concat_eq_append]
    refine tagged.distinct.concat fun member => ?_
    obtain ⟨other, inside, same⟩ := List.mem_map.mp member
    exact absurd same (Nat.ne_of_lt (tagged.numbered other inside))

theorem posts_deliverAll (observers : Observers ε) (messages : List Message) :
    (observers.deliverAll messages).posts = observers.posts ∧ (observers.deliverAll messages).next = observers.next := by
  induction messages generalizing observers with
  | nil => exact ⟨rfl, rfl⟩
  | cons message messages ih =>
    have delivered : (observers.deliver message).posts = observers.posts :=
      posts_map observers fun observer => by split <;> exact ⟨rfl, rfl⟩
    exact ⟨(ih _).1.trans delivered, (ih _).2⟩

private theorem posts_fail (observers : Observers ε) (kind : Message.Kind) (fault : ε) :
    (observers.fail kind fault).posts = observers.posts :=
  posts_map observers fun observer => by split <;> exact ⟨rfl, rfl⟩

/-- How much the observers have to give without another message: who is still fed may have a failure to tell. -/
def content (observers : Observers ε) : Nat := observers.backlog + observers.live

theorem live_le (observers : Observers ε) : observers.live ≤ observers.posts.length := by
  unfold live posts
  rw [List.length_map]
  exact List.length_filter_le ..

private theorem liveOf_le_one (apart : (observers.posts.map Prod.snd).Nodup) (kind : Message.Kind) : observers.liveOf kind ≤ 1 := by
  have kinds : observers.posts.map Prod.snd = observers.members.map (·.kind) := by
    unfold posts
    rw [List.map_map]
    rfl
  have fed : ((observers.members.filter (feeds kind)).map (·.kind)).Nodup :=
    (List.filter_sublist.map _).nodup (kinds ▸ apart)
  have same : (observers.members.filter (feeds kind)).map (·.kind) = List.replicate (observers.liveOf kind) kind := by
    refine List.eq_replicate_iff.mpr ⟨List.length_map .., fun other member => ?_⟩
    obtain ⟨observer, inside, rfl⟩ := List.mem_map.mp member
    have feeding := (List.mem_filter.mp inside).2
    unfold feeds at feeding
    exact beq_iff_eq.mp (Bool.and_eq_true_iff.mp feeding).2
  rw [same] at fed
  exact List.nodup_replicate.mp fed

private theorem content_deliver (observers : Observers ε) (message : Message) :
    (observers.deliver message).content ≤ observers.content + observers.liveOf message.kind := by
  unfold content live liveOf
  rw [backlog_eq, backlog_eq]
  unfold deliver
  dsimp only
  induction observers.members with
  | nil => exact Nat.le_refl _
  | cons observer others ih =>
    simp only [List.map_cons, List.sum_cons, List.filter_cons]
    by_cases fed : feeds message.kind observer = true
    · have lives : observer.live = true := (Bool.and_eq_true_iff.mp fed).1
      simp only [fed, lives, if_true, List.length_append, List.length_cons, List.length_nil]
      omega
    · simp only [fed, Bool.false_eq_true, if_false]
      split <;> (try simp only [List.length_cons]) <;> omega

private theorem content_deliverAll (apart : (observers.posts.map Prod.snd).Nodup) (messages : List Message) :
    (observers.deliverAll messages).content ≤ observers.content + messages.length := by
  induction messages generalizing observers with
  | nil => exact Nat.le_refl _
  | cons message messages ih =>
    have delivered : (observers.deliver message).posts = observers.posts := (posts_deliverAll observers [message]).1
    have rest : ((observers.deliver message).deliverAll messages).content ≤ _ := ih (delivered ▸ apart)
    have first := content_deliver observers message
    have one := liveOf_le_one apart message.kind
    rw [List.length_cons]
    change (deliverAll (observers.deliver message) messages).content ≤ _
    omega

private theorem content_fail (observers : Observers ε) (kind : Message.Kind) (fault : ε) :
    (observers.fail kind fault).content = observers.content := by
  unfold content live
  rw [backlog_eq, backlog_eq]
  unfold fail
  dsimp only
  induction observers.members with
  | nil => rfl
  | cons observer others ih =>
    simp only [List.map_cons, List.sum_cons, List.filter_cons]
    by_cases fed : feeds kind observer = true
    · have lives : observer.live = true := (Bool.and_eq_true_iff.mp fed).1
      simp only [fed, lives, if_true, Bool.false_eq_true, if_false, List.length_append, List.length_cons, List.length_nil]
      omega
    · simp only [fed, Bool.false_eq_true, if_false]
      split <;> (try simp only [List.length_cons]) <;> omega

theorem content_release (observers : Observers ε) (id : Nat) : (observers.release id).content ≤ observers.content := by
  have fewer : (observers.release id).live ≤ observers.live :=
    (List.filter_sublist.filter _).length_le
  exact Nat.add_le_add (backlog_release observers id) fewer

theorem content_poll (tagged : observers.Tagged) (id : Nat) : Poll.Spends
    (fun after => after.content + 1 = observers.content ∧ after.posts = observers.posts ∧ after.next = observers.next) observers
    (observers.poll id) := by
  unfold poll
  split
  · exact .inr ⟨nofun, rfl⟩
  next observer found =>
    split
    · refine .inr ⟨?_, rfl⟩
      intro value
      dsimp only
      split <;> exact nofun
    next item queued waits =>
      refine .inl ⟨⟨item, rfl⟩, ?_, posts_map observers fun other => by split <;> exact ⟨rfl, rfl⟩, rfl⟩
      have fewer := backlog_taken tagged found waits
      have lives (other : Observer ε) : (if other.id = id then { other with queued } else other).live = other.live := by
        split <;> rfl
      unfold content live
      dsimp only
      rw [List.filter_map, List.length_map]
      simp only [Function.comp_def, lives]
      omega

end Observers

namespace Arrival

private theorem weight_fault {queue later : List Arrival} {cause : IoError} (found : next? queue = some (.error cause, later)) :
    weight later ≤ weight queue := by
  induction queue with
  | nil => cases found
  | cons arrival rest ih =>
    match arrival with
    | .fault _ =>
      cases found
      exact Nat.le_add_left ..
    | .piece [] => exact Nat.le_trans (ih found) (Nat.le_add_left ..)
    | .piece (byte :: tail) =>
      unfold next? at found
      dsimp only at found
      split at found <;> cases found

end Arrival

namespace Inbound

private theorem readFrame_weight (inbound : Inbound) : inbound.readFrame.2.weight ≤ inbound.weight := by
  have kept {decoder after : Decoder} {answer : Decoder.Answer} (asked : decoder.next = (answer, after))
      (other : ∀ frame, answer ≠ .frame frame) : after = decoder := by
    unfold Decoder.next at asked
    split at asked <;> cases asked
    · rfl
    · rfl
    · exact absurd rfl (other _)
  fun_induction readFrame inbound with
  | case1 inbound frame decoder taken =>
    have := Decoder.next_shorter taken
    simp only [weight]
    omega
  | case2 inbound cause decoder failed =>
    cases kept failed fun _ same => by cases same
    exact Nat.le_refl _
  | case3 inbound decoder waits =>
    cases kept waits fun _ same => by cases same
    exact Nat.le_refl _
  | case4 inbound decoder waits cause queue found =>
    cases kept waits fun _ same => by cases same
    exact Nat.add_le_add_right (Arrival.weight_fault found) _
  | case5 inbound decoder waits bytes queue found ih =>
    cases kept waits fun _ same => by cases same
    have moved := (Arrival.weight_next found).2
    simp only [weight, Decoder.append, List.length_append] at ih ⊢
    omega

private theorem readOnto_weight (read : List Frame) (inbound : Inbound) :
    (inbound.readOnto read).rest.weight + (inbound.readOnto read).frames.length ≤ inbound.weight + read.length := by
  have left := readFrame_weight inbound
  fun_induction readOnto read inbound with
  | case1 read inbound rest waits =>
    rw [waits] at left
    rw [List.length_reverse]
    exact Nat.add_le_add_right left _
  | case2 read inbound error rest failed =>
    rw [failed] at left
    rw [List.length_reverse]
    exact Nat.add_le_add_right left _
  | case3 read inbound frame rest found ih =>
    have lighter := readFrame_lighter found
    have later := ih (readFrame_weight rest)
    rw [List.length_cons] at later
    omega

private theorem readAll_weight (inbound : Inbound) : inbound.readAll.rest.weight + inbound.readAll.frames.length ≤ inbound.weight :=
  readOnto_weight [] inbound

end Inbound

def Signal.admits {ε : Type} : Signal ε → Bool
  | .admitted _ => true
  | _ => false

namespace Link
open scoped List

/-- What a connection has to do and to give: what is to be read, what waits with observers or may come to them, and who is
to be told that there is room. -/
def effort (link : Link) : Nat := link.inbound.weight + link.observers.content + link.waiting.length

section
variable {before after link : Link} {messages : List Message}

theorem Heeds.posts (heeds : Heeds messages before after) :
    after.observers.posts = before.observers.posts ∧ after.observers.next = before.observers.next := by
  have delivered := Observers.posts_deliverAll before.observers messages
  cases heeds with
  | goesOn _ observers => exact observers ▸ delivered
  | fails fault _ _ observers =>
    rw [observers]
    refine ⟨?_, delivered.2⟩
    unfold Observers.failAll
    rw [Observers.posts_fail, Observers.posts_fail]
    exact delivered.1

private theorem Heeds.content (heeds : Heeds messages before after) (apart : (before.observers.posts.map Prod.snd).Nodup) :
    after.observers.content ≤ before.observers.content + messages.length := by
  have delivered := Observers.content_deliverAll apart messages
  cases heeds with
  | goesOn _ observers => exact observers ▸ delivered
  | fails fault _ _ observers =>
    rw [observers]
    unfold Observers.failAll
    rw [Observers.content_fail, Observers.content_fail]
    exact delivered

private theorem work_weight (link : Link) :
    link.work.inbound.weight + (if link.reading then link.inbound.readAll.frames else []).length ≤ link.inbound.weight := by
  have writes : link.work.inbound = link.read.inbound := ((write_writes link.read).trans (wind_writes _)).inbound
  rw [writes]
  cases reading : link.reading with
  | false =>
    have still : link.read = link := by rw [read, if_neg (by simp [reading])]
    rw [still]
    exact Nat.le_refl _
  | true =>
    have passed : link.passed.inbound = link.inbound.readAll.rest := by
      obtain ⟨pending, observers, signals, received⟩ :=
        receiveAll_eq link.inbound.readAll.frames { link with inbound := link.inbound.readAll.rest }
      rw [Link.passed, received]
    have rest : link.read.inbound = link.inbound.readAll.rest := by
      cases outcome : link.inbound.readAll.failure with
      | none => rw [read_complete reading outcome, passed]
      | some error => rw [read_broken reading outcome, (fail_writes link.passed _).inbound, passed]
    rw [rest]
    exact link.inbound.readAll_weight

private theorem work_admits (sound : link.Sound) (fresh : link.signals = []) :
    link.work.signals.countP Signal.admits + link.work.waiting.length ≤ link.waiting.length := by
  obtain ⟨-, heard, ending, fault, left, right, ⟨admitted, signals, room⟩, -, -, unheard, unended, -⟩ :=
    (Peers.refl link).work sound sound fresh fresh
  have none {list : List (Signal Fault)} (silent : ∀ call, .admitted call ∉ list) : list.countP Signal.admits = 0 := by
    refine List.countP_eq_zero.mpr fun signal member admits => ?_
    cases signal with
    | admitted call => exact silent call member
    | _ => cases admits
  have all : (admitted.map (Signal.admitted (ε := Fault))).countP Signal.admits = admitted.length := by
    rw [List.countP_eq_length.mpr, List.length_map]
    intro signal member
    obtain ⟨call, -, rfl⟩ := List.mem_map.mp member
    rfl
  have gone : (left.map (given fault)).countP Signal.admits = 0 := none fun call member => by
    obtain ⟨request, -, same⟩ := List.mem_map.mp member
    cases same
  have told := room.length_le
  rw [List.length_append, List.length_map, List.length_map] at told
  rw [signals]
  simp only [List.countP_append, none unheard, none unended, all, gone]
  omega

/-- A pass of work leaves less to be done by what it tells. -/
theorem work_effort (sound : link.Sound) (fresh : link.signals = []) (unclosed : link.closed = false)
    (apart : (link.observers.posts.map Prod.snd).Nodup) :
    link.work.effort + link.work.signals.countP Signal.admits ≤ link.effort := by
  have read := work_weight link
  have admits := work_admits sound fresh
  have heard := (work_heeds unclosed).content apart
  have fewer : (if link.reading then link.inbound.readAll.frames.filterMap fun frame => (Push.ofFrame frame).message?
      else []).length ≤ (if link.reading then link.inbound.readAll.frames else []).length := by
    split
    · exact List.length_filterMap_le ..
    · exact Nat.le_refl _
  unfold effort
  omega

def Drawn (before after : Link) : Prop :=
  ∃ observers : Observers Fault, after = { before with observers } ∧
    observers.content + 1 = before.observers.content ∧ observers.posts = before.observers.posts ∧
      observers.next = before.observers.next

end

end Link

end Subscriber
