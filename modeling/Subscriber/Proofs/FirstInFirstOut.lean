import Mathlib.Data.List.Induction
import Subscriber.Proofs.Lineups

/-! First in, first out. Whatever frames come, whichever task fails and whoever is given up, the requests of a shared
connection are resolved in the order in which they entered its queue, and one that is still pending lacks exactly the
acknowledgements that did not come while it was the oldest. -/

namespace Subscriber

/-- What has become of the requests of a connection so far. -/
structure Ledger where
  /-- Those that have entered the queue, in this order. -/
  entered : List Request := []
  answered : List Nat := []
  /-- A call for every acknowledgement that was taken for its request. -/
  acknowledged : List Nat := []

namespace Ledger

/-- The calls of resolved requests, in the order of their answers. A call that never entered the queue is not among them. -/
def resolved (ledger : Ledger) : List Nat := ledger.answered.filter fun call => call ∈ ledger.entered.map Request.call

/-- What a turn adds. A request has entered the queue when it is there and was not before. -/
def turned (ledger : Ledger) (before after : Link) (calls acknowledged : List Nat) : Ledger where
  entered := ledger.entered ++ after.queue.filter fun request => request ∉ before.queue
  answered := ledger.answered ++ calls
  acknowledged := ledger.acknowledged ++ acknowledged

def Tallies (ledger : Ledger) (pending : Pending) : Prop :=
  ∃ request ∈ ledger.entered, request.call = pending.call ∧ request.verb = pending.verb ∧ 0 < pending.remaining ∧
    pending.remaining + ledger.acknowledged.count pending.call = request.targets.length

structure Fits (ledger : Ledger) (link : Link) : Prop where
  distinct : (link.held ++ ledger.answered).Nodup
  order : ledger.resolved ++ link.pending.map Pending.call ++ link.queue.map Request.call =
    ledger.entered.map Request.call
  placed : ∀ request ∈ link.queue, request ∈ ledger.entered
  aimed : ∀ request ∈ link.queue ++ link.waiting, request.targets ≠ []
  heard : ∀ call ∈ ledger.acknowledged, call ∈ link.pending.map Pending.call ∨ call ∈ ledger.answered
  tallied : ∀ pending ∈ link.pending, ledger.Tallies pending

section

variable {ledger : Ledger} {link after : Link}

theorem Tallies.entered {pending : Pending} (tallies : ledger.Tallies pending) (more : List Request) (calls : List Nat) :
    Tallies { ledger with entered := ledger.entered ++ more, answered := calls } pending := by
  obtain ⟨request, member, same⟩ := tallies
  exact ⟨request, List.mem_append_left _ member, same⟩

theorem Tallies.others {pending : Pending} (tallies : ledger.Tallies pending) {calls : List Nat}
    (foreign : pending.call ∉ calls) :
    Tallies { ledger with acknowledged := ledger.acknowledged ++ calls } pending := by
  obtain ⟨request, member, own, verb, left, sum⟩ := tallies
  refine ⟨request, member, own, verb, left, ?_⟩
  rw [List.count_append, List.count_eq_zero.mpr foreign]
  exact sum

theorem resolved_append (entered : List Request) (answered calls acknowledged : List Nat) :
    resolved { entered, answered := answered ++ calls, acknowledged } =
      resolved { entered, answered, acknowledged } ++ calls.filter fun call => call ∈ entered.map Request.call :=
  List.filter_append _ _

/-- Requests that have not been answered change nothing when they enter. -/
theorem resolved_entering {entered more : List Request} {answered acknowledged : List Nat}
    (open' : ∀ request ∈ more, request.call ∉ answered) :
    resolved { entered := entered ++ more, answered, acknowledged } = resolved { entered, answered, acknowledged } := by
  refine List.filter_congr fun call given => ?_
  have foreign : call ∉ more.map Request.call := by
    intro member
    obtain ⟨request, inside, rfl⟩ := List.mem_map.mp member
    exact open' request inside given
  simp only [List.map_append, List.mem_append, foreign, or_false]

theorem filter_entered {entered : List Request} {calls : List Nat}
    (inside : ∀ call ∈ calls, call ∈ entered.map Request.call) :
    (calls.filter fun call => call ∈ entered.map Request.call) = calls :=
  List.filter_eq_self.mpr fun call member => decide_eq_true (inside call member)

theorem filter_new {kept admitted old : List Request} (known : kept ⊆ old) (new : ∀ request ∈ admitted, request ∉ old) :
    ((kept ++ admitted).filter fun request => request ∉ old) = admitted := by
  rw [List.filter_append, List.filter_eq_nil_iff.mpr, List.nil_append, List.filter_eq_self.mpr]
  · exact fun request member => decide_eq_true (new request member)
  · exact fun request member => by simpa using known member

namespace Fits

/-- The calls with a connection are all different, and nobody has answered them. -/
theorem apart (fits : ledger.Fits link) :
    (link.pending.map Pending.call).Nodup ∧
    (∀ request ∈ link.queue, request.call ∉ link.pending.map Pending.call ∧ request.call ∉ ledger.answered) ∧
    (∀ request ∈ link.waiting, request.call ∉ link.pending.map Pending.call ∧
      request.call ∉ link.queue.map Request.call ∧ request.call ∉ ledger.answered) := by
  have distinct := fits.distinct
  rw [Link.held, List.map_append] at distinct
  obtain ⟨held, -, unanswered⟩ := List.nodup_append.mp distinct
  obtain ⟨pending, lines, ahead⟩ := List.nodup_append.mp held
  obtain ⟨-, -, behind⟩ := List.nodup_append.mp lines
  refine ⟨pending, fun request member => ?_, fun request member => ?_⟩
  · have queued : request.call ∈ link.queue.map Request.call := List.mem_map_of_mem member
    have lined := List.mem_append_left (link.waiting.map Request.call) queued
    exact ⟨fun taken => ahead _ taken _ lined rfl, fun given => unanswered _ (List.mem_append_right _ lined) _ given rfl⟩
  · have waits : request.call ∈ link.waiting.map Request.call := List.mem_map_of_mem member
    have lined := List.mem_append_right (link.queue.map Request.call) waits
    exact ⟨fun taken => ahead _ taken _ lined rfl, fun queued => behind _ queued _ waits rfl,
      fun given => unanswered _ (List.mem_append_right _ lined) _ given rfl⟩

private theorem outside (fits : ledger.Fits link) {request : Request} (member : request ∈ link.waiting) :
    request.call ∉ ledger.entered.map Request.call := by
  obtain ⟨unpending, unqueued, unanswered⟩ := fits.apart.2.2 request member
  rw [← fits.order, List.mem_append, List.mem_append]
  rintro ((given | taken) | queued)
  · exact unanswered (List.mem_filter.mp given).1
  · exact unpending taken
  · exact unqueued queued

theorem pending_entered (fits : ledger.Fits link) {call : Nat} (member : call ∈ link.pending.map Pending.call) :
    call ∈ ledger.entered.map Request.call := by
  rw [← fits.order]
  exact List.mem_append_left _ (List.mem_append_right _ member)

private theorem queue_entered (fits : ledger.Fits link) {call : Nat} (member : call ∈ link.queue.map Request.call) :
    call ∈ ledger.entered.map Request.call := by
  rw [← fits.order]
  exact List.mem_append_right _ member

private theorem unheard (fits : ledger.Fits link) {request : Request} (member : request ∈ link.queue) :
    ledger.acknowledged.count request.call = 0 := by
  obtain ⟨unpending, unanswered⟩ := fits.apart.2.1 request member
  exact List.count_eq_zero.mpr fun counted => (fits.heard _ counted).elim unpending unanswered

theorem congr (fits : ledger.Fits link) (pending : after.pending = link.pending) (queue : after.queue = link.queue)
    (waiting : after.waiting = link.waiting) : ledger.Fits after := by
  refine ⟨?_, ?_, ?_, ?_, ?_, ?_⟩
  · rw [Link.held, pending, queue, waiting]
    exact fits.distinct
  · rw [pending, queue]
    exact fits.order
  · rw [queue]
    exact fits.placed
  · rw [queue, waiting]
    exact fits.aimed
  · rw [pending]
    exact fits.heard
  · rw [pending]
    exact fits.tallied

end Fits

theorem shifts_perm {calls acknowledged : List Nat} (shifts : link.Shifts calls acknowledged after) :
    (after.held ++ calls).Perm link.held := by
  rw [List.perm_iff_count]
  intro call
  cases shifts with
  | rests pending queue waiting => rw [Link.held, Link.held, pending, queue, waiting, List.append_nil]
  | counts due more pending queue waiting =>
    rw [Link.held, Link.held, pending, queue, waiting, due, List.append_nil]
    rfl
  | settles due own pending queue waiting =>
    rw [Link.held, Link.held, pending, queue, waiting, due]
    simp only [List.map_cons, List.count_append, List.count_cons, List.count_nil]
    omega
  | fails pending queue waiting =>
    rw [Link.held, Link.held, pending, queue, waiting]
    simp only [List.map_nil, List.count_append, List.nil_append]
    omega
  | stops idle pending queue waiting =>
    rw [Link.held, Link.held, pending, queue, waiting, idle]
    simp only [List.map_nil, List.map_append, List.count_append, List.nil_append]
    omega
  | takes front line pending more =>
    rw [Link.held, Link.held, pending, more, front, line]
    simp only [List.map_append, List.map_cons, List.map_nil, List.count_append, List.count_cons, List.count_nil,
      Request.pending]
    omega
  | returns idle front line pending more =>
    rw [Link.held, Link.held, pending, more, idle, front, line]
    simp only [List.map_append, List.map_cons, List.map_nil, List.count_append, List.count_cons, List.count_nil]
    omega

theorem held_more {request : Request} {queue waiting : List Request}
    (lines : (queue ++ waiting).Perm (request :: (link.queue ++ link.waiting))) :
    (Link.held { link with queue, waiting }).Perm (request.call :: link.held) :=
  ((lines.map Request.call).append_left _).trans List.perm_middle

namespace Fits

private theorem shifts_distinct (fits : ledger.Fits link) {calls acknowledged : List Nat}
    (shifts : link.Shifts calls acknowledged after) : (after.held ++ (ledger.answered ++ calls)).Nodup := by
  have moved : (after.held ++ (ledger.answered ++ calls)).Perm (after.held ++ calls ++ ledger.answered) := by
    rw [List.append_assoc]
    exact List.perm_append_comm.append_left _
  exact (moved.trans ((shifts_perm shifts).append_right _)).nodup_iff.mpr fits.distinct

theorem turned_kept {calls acknowledged : List Nat} (kept : after.queue ⊆ link.queue) :
    ledger.turned link after calls acknowledged = { ledger with
      answered := ledger.answered ++ calls, acknowledged := ledger.acknowledged ++ acknowledged } := by
  have nothing := filter_new kept (show ∀ request ∈ ([] : List Request), request ∉ link.queue from nofun)
  rw [List.append_nil] at nothing
  rw [turned, nothing, List.append_nil]

private theorem counts (fits : ledger.Fits link) {front : Pending} {others : List Pending} (due : link.pending = front :: others)
    (more : 1 < front.remaining) (pending : after.pending = { front with remaining := front.remaining - 1 } :: others)
    (queue : after.queue = link.queue) (waiting : after.waiting = link.waiting)
    (distinct : (after.held ++ (ledger.answered ++ [])).Nodup) :
    (ledger.turned link after [] [front.call]).Fits after := by
  have calls : after.pending.map Pending.call = link.pending.map Pending.call := by
    rw [pending, due]
    rfl
  rw [turned_kept (queue ▸ List.Subset.refl _)]
  refine ⟨distinct, ?_, ?_, ?_, fun call counted => ?_, fun other member => ?_⟩
  · rw [calls, queue, List.append_nil]
    exact fits.order
  · rw [queue]
    exact fits.placed
  · rw [queue, waiting]
    exact fits.aimed
  · rw [calls, List.append_nil]
    rcases List.mem_append.mp counted with before | now
    · exact fits.heard call before
    · rw [List.mem_singleton.mp now, due]
      exact .inl List.mem_cons_self
  · rw [pending] at member
    rcases List.mem_cons.mp member with rfl | member
    · obtain ⟨request, entered, own, verb, -, sum⟩ := fits.tallied front (due ▸ List.mem_cons_self)
      refine ⟨request, entered, own, verb, Nat.sub_pos_of_lt more, ?_⟩
      rw [List.count_append, List.count_singleton_self]
      dsimp only
      omega
    · have single := fits.apart.1
      rw [due, List.map_cons, List.nodup_cons] at single
      have foreign : other.call ∉ [front.call] := by
        intro same
        exact single.1 (List.mem_singleton.mp same ▸ List.mem_map_of_mem member)
      have tallies := (fits.tallied other (due ▸ List.mem_cons_of_mem _ member)).others foreign
      rw [List.append_nil]
      exact tallies

private theorem settles (fits : ledger.Fits link) {front : Pending} {others : List Pending} {acknowledged : List Nat}
    (due : link.pending = front :: others) (own : ∀ call ∈ acknowledged, call = front.call)
    (pending : after.pending = others) (queue : after.queue = link.queue) (waiting : after.waiting = link.waiting)
    (distinct : (after.held ++ (ledger.answered ++ [front.call])).Nodup) :
    (ledger.turned link after [front.call] acknowledged).Fits after := by
  have single := fits.apart.1
  rw [due, List.map_cons, List.nodup_cons] at single
  rw [turned_kept (queue ▸ List.Subset.refl _)]
  refine ⟨distinct, ?_, ?_, ?_, fun call counted => ?_, fun other member => ?_⟩
  · have known : ∀ call ∈ [front.call], call ∈ ledger.entered.map Request.call := by
      intro call same
      exact fits.pending_entered (by rw [List.mem_singleton.mp same, due]; exact List.mem_cons_self)
    have order := fits.order
    rw [due, List.map_cons] at order
    rw [resolved_append, filter_entered known, pending, queue, List.append_assoc _ [front.call]]
    exact order
  · rw [queue]
    exact fits.placed
  · rw [queue, waiting]
    exact fits.aimed
  · rw [pending]
    rcases List.mem_append.mp counted with before | now
    · have earlier := fits.heard call before
      rw [due, List.map_cons, List.mem_cons] at earlier
      rcases earlier with (rfl | behind) | given
      · exact .inr (List.mem_append_right _ List.mem_cons_self)
      · exact .inl behind
      · exact .inr (List.mem_append_left _ given)
    · rw [own call now]
      exact .inr (List.mem_append_right _ List.mem_cons_self)
  · rw [pending] at member
    have foreign : other.call ∉ acknowledged := by
      intro counted
      exact single.1 (own _ counted ▸ List.mem_map_of_mem member)
    exact (fits.tallied other (due ▸ List.mem_cons_of_mem _ member)).others foreign

private theorem fails (fits : ledger.Fits link) (pending : after.pending = []) (queue : after.queue = link.queue)
    (waiting : after.waiting = link.waiting)
    (distinct : (after.held ++ (ledger.answered ++ link.pending.map Pending.call)).Nodup) :
    (ledger.turned link after (link.pending.map Pending.call) []).Fits after := by
  rw [turned_kept (queue ▸ List.Subset.refl _), List.append_nil]
  refine ⟨distinct, ?_, ?_, ?_, fun call counted => .inr ?_, fun other member => ?_⟩
  · rw [resolved_append, filter_entered fun call => fits.pending_entered, pending, queue, List.map_nil, List.append_nil]
    exact fits.order
  · rw [queue]
    exact fits.placed
  · rw [queue, waiting]
    exact fits.aimed
  · exact List.mem_append.mpr (fits.heard call counted).symm
  · rw [pending] at member
    cases member

private theorem stops (fits : ledger.Fits link) (idle : link.pending = []) (pending : after.pending = [])
    (queue : after.queue = []) (waiting : after.waiting = [])
    (distinct : (after.held ++ (ledger.answered ++ (link.waiting ++ link.queue).map Request.call)).Nodup) :
    (ledger.turned link after ((link.waiting ++ link.queue).map Request.call) []).Fits after := by
  rw [turned_kept (queue ▸ List.nil_subset _), List.append_nil]
  refine ⟨distinct, ?_, ?_, ?_, fun call counted => .inr ?_, fun other member => ?_⟩
  · -- Those who waited for space are told as well, but they never entered.
    have strangers : ((link.waiting.map Request.call).filter fun call => call ∈ ledger.entered.map Request.call) = [] := by
      refine List.filter_eq_nil_iff.mpr fun call member entered => ?_
      obtain ⟨request, waits, rfl⟩ := List.mem_map.mp member
      exact fits.outside waits (of_decide_eq_true entered)
    have order := fits.order
    rw [idle, List.map_nil, List.append_nil] at order
    rw [resolved_append, List.map_append, List.filter_append, strangers, List.nil_append,
      filter_entered fun call => fits.queue_entered, pending, queue, List.map_nil, List.map_nil, List.append_nil,
      List.append_nil]
    exact order
  · rw [queue]
    exact nofun
  · rw [queue, waiting]
    exact nofun
  · have earlier := fits.heard call counted
    rw [idle] at earlier
    rcases earlier with none | given
    · cases none
    · exact List.mem_append_left _ given
  · rw [pending] at member
    cases member

theorem turned_moved (fits : ledger.Fits link) {request : Request} {queue admitted : List Request}
    (front : link.queue = request :: queue) (line : link.waiting = admitted ++ after.waiting)
    (more : after.queue = queue ++ admitted) (calls : List Nat) :
    ledger.turned link after calls [] = { ledger with
      entered := ledger.entered ++ admitted, answered := ledger.answered ++ calls } := by
  have known : queue ⊆ link.queue := front ▸ List.subset_cons_self _ _
  have new : ∀ request ∈ admitted, request ∉ link.queue := fun request member queued =>
    (fits.apart.2.2 request (line ▸ List.mem_append_left _ member)).2.1 (List.mem_map_of_mem queued)
  rw [turned, more, filter_new known new, List.append_nil]

theorem placed_moved (fits : ledger.Fits link) {request : Request} {queue admitted : List Request}
    (front : link.queue = request :: queue) (more : after.queue = queue ++ admitted) :
    ∀ request ∈ after.queue, request ∈ ledger.entered ++ admitted := by
  intro other member
  rw [more] at member
  rcases List.mem_append.mp member with before | new
  · exact List.mem_append_left _ (fits.placed other (front ▸ List.mem_cons_of_mem _ before))
  · exact List.mem_append_right _ new

theorem aimed_moved (fits : ledger.Fits link) {request : Request} {queue admitted : List Request}
    (front : link.queue = request :: queue) (line : link.waiting = admitted ++ after.waiting)
    (more : after.queue = queue ++ admitted) : ∀ request ∈ after.queue ++ after.waiting, request.targets ≠ [] := by
  intro other member
  apply fits.aimed
  rw [front, line]
  rw [more, List.append_assoc] at member
  exact List.mem_cons_of_mem _ member

theorem open_moved (fits : ledger.Fits link) {admitted : List Request} (line : link.waiting = admitted ++ after.waiting) :
    ∀ request ∈ admitted, request.call ∉ ledger.answered := fun request member =>
  (fits.apart.2.2 request (line ▸ List.mem_append_left _ member)).2.2

private theorem takes (fits : ledger.Fits link) {request : Request} {queue admitted : List Request}
    (front : link.queue = request :: queue) (line : link.waiting = admitted ++ after.waiting)
    (pending : after.pending = link.pending ++ [request.pending]) (more : after.queue = queue ++ admitted)
    (distinct : (after.held ++ (ledger.answered ++ [])).Nodup) :
    (ledger.turned link after [] []).Fits after := by
  have first : request ∈ link.queue := front ▸ List.mem_cons_self
  rw [fits.turned_moved front line more]
  refine ⟨distinct, ?_, fits.placed_moved front more, fits.aimed_moved front line more, fun call counted => ?_,
    fun other member => ?_⟩
  · have order := fits.order
    rw [front, List.map_cons] at order
    rw [List.append_nil, resolved_entering (fits.open_moved line), pending, more, List.map_append, List.map_append,
      List.map_append, ← order]
    simp [Request.pending, resolved]
  · rw [pending, List.map_append, List.append_nil]
    exact (fits.heard call counted).imp_left (List.mem_append_left _)
  · rw [pending] at member
    rcases List.mem_append.mp member with before | new
    · exact (fits.tallied other before).entered admitted _
    · rw [List.mem_singleton.mp new]
      refine ⟨request, List.mem_append_left _ (fits.placed request first), rfl, rfl, ?_, ?_⟩
      · exact List.length_pos_iff.mpr (fits.aimed request (List.mem_append_left _ first))
      · change request.targets.length + ledger.acknowledged.count request.call = _
        rw [fits.unheard first, Nat.add_zero]

private theorem returns (fits : ledger.Fits link) {request : Request} {queue admitted : List Request} (idle : link.pending = [])
    (front : link.queue = request :: queue) (line : link.waiting = admitted ++ after.waiting)
    (pending : after.pending = []) (more : after.queue = queue ++ admitted)
    (distinct : (after.held ++ (ledger.answered ++ [request.call])).Nodup) :
    (ledger.turned link after [request.call] []).Fits after := by
  have first : request ∈ link.queue := front ▸ List.mem_cons_self
  rw [fits.turned_moved front line more]
  refine ⟨distinct, ?_, fits.placed_moved front more, fits.aimed_moved front line more, fun call counted => .inr ?_,
    fun other member => ?_⟩
  · have known : ∀ call ∈ [request.call], call ∈ (ledger.entered ++ admitted).map Request.call := by
      intro call same
      rw [List.mem_singleton.mp same, List.map_append]
      exact List.mem_append_left _ (List.mem_map_of_mem (fits.placed request first))
    have order := fits.order
    rw [idle, front, List.map_cons, List.map_nil, List.append_nil] at order
    rw [resolved_append, filter_entered known, resolved_entering (fits.open_moved line), pending, more, List.map_nil,
      List.append_nil, List.map_append, List.map_append, ← order]
    simp [resolved]
  · have earlier := fits.heard call counted
    rw [idle] at earlier
    rcases earlier with none | given
    · cases none
    · exact List.mem_append_left _ given
  · rw [pending] at member
    cases member

/-- A turn of reader or writer. -/
theorem shifts (fits : ledger.Fits link) {calls acknowledged : List Nat} (shifts : link.Shifts calls acknowledged after) :
    (ledger.turned link after calls acknowledged).Fits after := by
  have distinct := fits.shifts_distinct shifts
  cases shifts with
  | rests pending queue waiting =>
    rw [turned_kept (queue ▸ List.Subset.refl _), List.append_nil, List.append_nil]
    exact fits.congr pending queue waiting
  | counts due more pending queue waiting => exact fits.counts due more pending queue waiting distinct
  | settles due own pending queue waiting => exact fits.settles due own pending queue waiting distinct
  | fails pending queue waiting => exact fits.fails pending queue waiting distinct
  | stops idle pending queue waiting => exact fits.stops idle pending queue waiting distinct
  | takes front line pending more => exact fits.takes front line pending more distinct
  | returns idle front line pending more => exact fits.returns idle front line pending more distinct

private theorem enters (fits : ledger.Fits link) {request : Request} (new : request.call ∉ link.held ++ ledger.answered)
    (aimed : request.targets ≠ []) :
    (ledger.turned link { link with queue := link.queue ++ [request] } [] []).Fits
      { link with queue := link.queue ++ [request] } := by
  have unqueued : ∀ other ∈ [request], other ∉ link.queue := by
    intro other same queued
    rw [List.mem_singleton.mp same] at queued
    exact new (List.mem_append_left _ (Link.mem_held.mpr (.inr (.inl (List.mem_map_of_mem queued)))))
  have unanswered : ∀ other ∈ [request], other.call ∉ ledger.answered := by
    intro other same given
    rw [List.mem_singleton.mp same] at given
    exact new (List.mem_append_right _ given)
  rw [turned, filter_new (List.Subset.refl _) unqueued, List.append_nil, List.append_nil]
  refine ⟨?_, ?_, fun other member => ?_, fun other member => ?_, fits.heard, fun other member => ?_⟩
  · have lines : (link.queue ++ [request] ++ link.waiting).Perm (request :: (link.queue ++ link.waiting)) := by
      rw [List.append_assoc]
      exact List.perm_middle
    exact ((held_more lines).append_right _).nodup_iff.mpr (List.nodup_cons.mpr ⟨new, fits.distinct⟩)
  · rw [resolved_entering unanswered, List.map_append, List.map_append, ← fits.order, List.append_assoc]
    simp [resolved]
  · rcases List.mem_append.mp member with before | now
    · exact List.mem_append_left _ (fits.placed other before)
    · exact List.mem_append_right _ now
  · dsimp only at member
    rw [List.append_assoc] at member
    rcases List.mem_append.mp member with before | behind
    · exact fits.aimed other (List.mem_append_left _ before)
    · rcases List.mem_append.mp behind with now | waits
      · rw [List.mem_singleton.mp now]
        exact aimed
      · exact fits.aimed other (List.mem_append_right _ waits)
  · exact (fits.tallied other member).entered [request] _

theorem lines (fits : ledger.Fits link) {waiting : List Request}
    (distinct : (Link.held { link with waiting } ++ ledger.answered).Nodup)
    (aimed : ∀ request ∈ waiting, request.targets ≠ []) : ledger.Fits { link with waiting } := by
  refine ⟨distinct, fits.order, fits.placed, fun request member => ?_, fits.heard, fits.tallied⟩
  rcases List.mem_append.mp member with queued | waits
  · exact fits.aimed request (List.mem_append_left _ queued)
  · exact aimed request waits

private theorem waits (fits : ledger.Fits link) {request : Request} (new : request.call ∉ link.held ++ ledger.answered)
    (aimed : request.targets ≠ []) :
    (ledger.turned link { link with waiting := link.waiting ++ [request] } [] []).Fits
      { link with waiting := link.waiting ++ [request] } := by
  rw [turned_kept (show Link.queue { link with waiting := link.waiting ++ [request] } ⊆ link.queue from
    List.Subset.refl _), List.append_nil, List.append_nil]
  refine fits.lines ?_ fun other member => ?_
  · have lines : (link.queue ++ (link.waiting ++ [request])).Perm (request :: (link.queue ++ link.waiting)) := by
      rw [← List.append_assoc]
      exact List.perm_append_singleton _ _
    exact ((held_more lines).append_right _).nodup_iff.mpr (List.nodup_cons.mpr ⟨new, fits.distinct⟩)
  · rcases List.mem_append.mp member with before | now
    · exact fits.aimed other (List.mem_append_right _ before)
    · rw [List.mem_singleton.mp now]
      exact aimed

private theorem leaves (fits : ledger.Fits link) {waiting : List Request} (fewer : waiting.Sublist link.waiting) :
    ledger.Fits { link with waiting } := by
  refine fits.lines ?_ fun other member => fits.aimed other (List.mem_append_right _ (fewer.subset member))
  have held : (Link.held { link with waiting }).Sublist link.held := ((fewer.append_left _).map _).append_left _
  exact (held.append_right _).nodup fits.distinct

end Fits

end

end Ledger

namespace Clients.Moment

variable {first : Moment} {moves : List Move}

def gather {α : Type} (part : Moment → Move → List α) : Moment → List Move → List α
  | _, [] => []
  | moment, move :: later => part moment move ++ gather part (moment.move move) later

/-- The requests that a move lets into the queue: those that are in it then and were not before. -/
def entering (moment : Moment) (move : Move) : List Request :=
  (moment.move move).link.queue.filter fun request => request ∉ moment.link.queue

/-- The answers that the connection gives in a move, also those that nobody waits for any more. -/
def answering (moment : Moment) (move : Move) : List (Nat × Except Fault Unit) :=
  ((moment.move move).link.signals.drop moment.link.signals.length).filterMap Signal.answer?

/-- The call for whose request the reader takes an acknowledgement of its verb, which is the oldest one then. -/
def acknowledging (moment : Moment) : Move → List Nat
  | .read => moment.link.push?.elim [] moment.link.acknowledged
  | _ => []

private theorem gather_concat {α : Type} (part : Moment → Move → List α) (moves : List Move) (move : Move) (moment : Moment) :
    gather part moment (moves ++ [move]) = gather part moment moves ++ part (moment.after moves) move := by
  induction moves generalizing moment with
  | nil => exact List.append_nil _
  | cons next moves ih =>
    rw [List.cons_append, gather, gather, ih, List.append_assoc]
    rfl

def ledger (first : Moment) (moves : List Move) : Ledger where
  entered := gather entering first moves
  answered := (gather answering first moves).map Prod.fst
  acknowledged := gather acknowledging first moves

private theorem ledger_concat (first : Moment) (moves : List Move) (move : Move) : ledger first (moves ++ [move]) =
    (ledger first moves).turned (first.after moves).link ((first.after moves).move move).link
      ((answering (first.after moves) move).map Prod.fst) (acknowledging (first.after moves) move) := by
  simp only [ledger, gather_concat, List.map_append]
  rfl

private theorem answering_of_reports {moment : Moment} {move : Move} {calls : List Nat}
    (reports : moment.link.Reports (moment.move move).link calls) : (answering moment move).map Prod.fst = calls := by
  obtain ⟨more, signals, told⟩ := reports
  rw [answering, signals, List.drop_left, told]

/-- The requests with a connection between two turns, and the calls that have asked. -/
structure Settled (moment : Moment) (asked : List Request) (ledger : Ledger) : Prop where
  fits : ledger.Fits moment.link
  asked : ∀ call ∈ moment.link.held ++ ledger.answered, call ∈ asked.map Request.call

namespace Settled

variable {moment : Moment} {asked : List Request} {ledger : Ledger}

private theorem turn (settled : Settled moment asked ledger) {move : Move} (unasked : move.request? = none) {calls : List Nat}
    (reports : moment.link.Reports (moment.move move).link calls)
    (shifts : moment.link.Shifts calls (acknowledging moment move) (moment.move move).link) :
    Settled (moment.move move) (asked ++ move.request?.toList)
      (ledger.turned moment.link (moment.move move).link ((answering moment move).map Prod.fst)
        (acknowledging moment move)) := by
  rw [answering_of_reports reports, unasked, Option.toList_none, List.append_nil]
  refine ⟨settled.fits.shifts shifts, fun call member => settled.asked call ?_⟩
  have same := (Ledger.shifts_perm shifts).mem_iff (a := call)
  rw [List.mem_append] at member same ⊢
  rcases member with held | given
  · exact .inl (same.mp (.inl held))
  · exact (List.mem_append.mp given).elim .inr fun now => .inl (same.mp (.inr now))

/-- Where no signal is given, the queue stays and nothing is taken from the line of those who wait, or some leave it. -/
theorem still (settled : Settled moment asked ledger) {move : Move} (unasked : acknowledging moment move = [])
    (signals : (moment.move move).link.signals.length ≤ moment.link.signals.length)
    (pending : (moment.move move).link.pending = moment.link.pending)
    (queue : (moment.move move).link.queue = moment.link.queue)
    (waiting : (moment.move move).link.waiting.Sublist moment.link.waiting) :
    Settled (moment.move move) (asked ++ move.request?.toList)
      (ledger.turned moment.link (moment.move move).link ((answering moment move).map Prod.fst)
        (acknowledging moment move)) := by
  have silent : answering moment move = [] := by
    rw [answering, List.drop_eq_nil_of_le signals]
    rfl
  rw [silent, unasked, List.map_nil, Ledger.Fits.turned_kept (queue ▸ List.Subset.refl _), List.append_nil, List.append_nil]
  refine ⟨(settled.fits.leaves waiting).congr pending queue rfl, fun call member => ?_⟩
  have held : (moment.move move).link.held.Sublist moment.link.held := by
    rw [Link.held, Link.held, pending, queue]
    exact ((waiting.append_left _).map _).append_left _
  rw [List.map_append]
  exact List.mem_append_left _ (settled.asked call ((held.append_right _).subset member))

private theorem hear (settled : Settled moment asked ledger) : Settled (moment.move .hear) (asked ++ Move.hear.request?.toList)
    (ledger.turned moment.link (moment.move .hear).link ((answering moment .hear).map Prod.fst)
      (acknowledging moment .hear)) := by
  obtain ⟨signals, fewer, link⟩ : ∃ signals : List (Signal Fault), signals.length ≤ moment.link.signals.length ∧
      (moment.move .hear).link = { moment.link with signals } := by
    cases told : moment.clients.link.signals with
    | nil =>
      refine ⟨moment.link.signals, Nat.le_refl _, ?_⟩
      rw [move, Moment.hear, told]
    | cons signal signals =>
      have heard : moment.move .hear = { moment with clients :=
          ({ moment.clients with link := { moment.clients.link with signals } } : Clients).hear signal } := by
        rw [move, Moment.hear, told]
      refine ⟨signals, by rw [Moment.link, told]; exact Nat.le_succ _, ?_⟩
      rw [heard]
      exact link_foldl_hear [signal] _
  refine settled.still rfl ?_ ?_ ?_ ?_
  · rw [link]
    exact fewer
  · rw [link]
  · rw [link]
  · rw [link]

private theorem joined (settled : Settled moment asked ledger) {request : Request} {queue waiting : List Request}
    (lines : (queue ++ waiting).Perm (request :: (moment.link.queue ++ moment.link.waiting))) {after : Moment}
    {now : Ledger} (link : after.link = { moment.link with queue, waiting }) (answered : now.answered = ledger.answered)
    (fits : now.Fits { moment.link with queue, waiting }) : Settled after (asked ++ [request]) now := by
  refine ⟨link ▸ fits, fun call member => ?_⟩
  have held : after.link.held.Perm (request.call :: moment.link.held) := link ▸ Ledger.held_more lines
  rw [List.map_append, List.mem_append, List.map_singleton, List.mem_singleton]
  rw [answered, List.mem_append, held.mem_iff, List.mem_cons] at member
  rcases member with (own | before) | given
  · exact .inr own
  · exact .inl (settled.asked call (List.mem_append_left _ before))
  · exact .inl (settled.asked call (List.mem_append_right _ given))

private theorem begin (settled : Settled moment asked ledger) (step : Step)
    (new : ∀ request ∈ step.request?, request.call ∉ asked.map Request.call) :
    Settled (moment.move (.begin step)) (asked ++ (Move.begin step).request?.toList)
      (ledger.turned moment.link (moment.move (.begin step)).link ((answering moment (.begin step)).map Prod.fst)
        (acknowledging moment (.begin step))) := by
  have begins := moment.clients.begins step
  have moved : (moment.move (.begin step)).link = (moment.clients.begin step).2.link := rfl
  generalize (moment.clients.begin step).2 = begun at begins moved
  have silent (signals : begun.link.signals = moment.link.signals) : answering moment (.begin step) = [] := by
    rw [answering, moved, signals, List.drop_length]
    rfl
  cases begins with
  | enters request aimed =>
    have unknown : request.call ∉ moment.link.held ++ ledger.answered := fun member =>
      new request rfl (settled.asked _ member)
    have fits := settled.fits.enters unknown aimed
    have lines : (moment.link.queue ++ [request] ++ moment.link.waiting).Perm
        (request :: (moment.link.queue ++ moment.link.waiting)) := by
      rw [List.append_assoc]
      exact List.perm_middle
    rw [silent rfl, moved]
    exact settled.joined lines moved (List.append_nil _) fits
  | waits request aimed =>
    have unknown : request.call ∉ moment.link.held ++ ledger.answered := fun member =>
      new request rfl (settled.asked _ member)
    have fits := settled.fits.waits unknown aimed
    have lines : (moment.link.queue ++ (moment.link.waiting ++ [request])).Perm
        (request :: (moment.link.queue ++ moment.link.waiting)) := by
      rw [← List.append_assoc]
      exact List.perm_append_singleton _ _
    rw [silent rfl, moved]
    exact settled.joined lines moved (List.append_nil _) fits
  | answered request =>
    have same : (moment.move (.begin (.request request.call request.verb request.targets))).link = moment.link := by
      rw [moved, link_answer]
      rfl
    refine settled.still rfl ?_ ?_ ?_ ?_
    all_goals rw [same]
  | aside =>
    refine settled.still rfl ?_ ?_ ?_ ?_
    all_goals rw [moved]; first | exact Nat.le_refl _ | exact List.Sublist.refl _ | rfl
  | leaves call =>
    refine settled.still rfl ?_ ?_ ?_ ?_
    all_goals rw [moved]; first | exact Nat.le_refl _ | exact List.filter_sublist | rfl
  | closes =>
    refine settled.still rfl ?_ ?_ ?_ ?_
    all_goals rw [moved, link_close]; first | exact Nat.le_refl _ | exact List.filter_sublist | rfl

end Settled

/-- Every move keeps to the order. -/
theorem settled_move {moment : Moment} {asked : List Request} {ledger : Ledger} (sound : moment.Sound)
    (settled : Settled moment asked ledger) (move : Move)
    (new : ∀ request ∈ move.request?, request.call ∉ asked.map Request.call) :
    Settled (moment.move move) (asked ++ move.request?.toList)
      (ledger.turned moment.link (moment.move move).link ((answering moment move).map Prod.fst)
        (acknowledging moment move)) := by
  cases move with
  | begin step => exact settled.begin step new
  | read =>
    obtain ⟨calls, reports, shifts⟩ := Link.readOne_shifts moment.link
    exact settled.turn rfl reports shifts
  | write =>
    obtain ⟨calls, reports, shifts⟩ := Link.writeOne_shifts sound.upright sound.broken
    exact settled.turn rfl reports shifts
  | hear => exact settled.hear

private theorem settled_after (connection : Connection) (queueSize : Nat) (moves : List Move)
    (numbered : ((requests moves).map Request.call).Nodup) :
    let first : Moment := { clients := start connection queueSize }
    Settled (first.after moves) (requests moves) (ledger first moves) := by
  intro first
  induction moves using List.reverseRecOn with
  | nil =>
    exact ⟨⟨List.nodup_nil, rfl, nofun, nofun, nofun, nofun⟩, nofun⟩
  | append_singleton moves move ih =>
    have last : requests [move] = move.request?.toList := by
      rw [requests_cons]
      exact List.append_nil _
    rw [requests_append, last] at numbered ⊢
    rw [List.map_append] at numbered
    obtain ⟨earlier, -, apart⟩ := List.nodup_append.mp numbered
    have sound : first.Sound := ⟨⟨absurd rfl, fun _ => nofun⟩, nofun⟩
    rw [ledger_concat, after_append]
    refine settled_move (after_sound sound moves) (ih earlier) move fun request asked before => ?_
    exact apart _ before _ (List.mem_map_of_mem (Option.mem_toList.mpr asked)) rfl

/-- Between any two turns of reader, writer, callers and network, whatever frames came: the resolved requests, in the order
of their answers, the pending ones and those in the queue are, one behind the other, the requests that have entered the
queue, in this order. A pending request lacks at least one acknowledgement, and exactly those of its targets for which
none of its verb came while it was the oldest. A frame that is no error reply, no message and not named after the verb of
the oldest request changes neither what is pending nor the observers. -/
theorem resolved_first_in_first_out (connection : Connection) (queueSize : Nat) (moves : List Move)
    (numbered : ((requests moves).map Request.call).Nodup) :
    let first : Moment := { clients := start connection queueSize }
    let last := first.after moves
    let entered := gather entering first moves
    let answered := (gather answering first moves).map Prod.fst
    let resolved := answered.filter fun call => call ∈ entered.map Request.call
    (resolved ++ last.link.pending.map Pending.call ++ last.link.queue.map Request.call = entered.map Request.call) ∧
    (∀ pending ∈ last.link.pending, ∃ request ∈ entered, request.call = pending.call ∧ request.verb = pending.verb ∧
      0 < pending.remaining ∧
      pending.remaining + (gather acknowledging first moves).count pending.call = request.targets.length) ∧
    ∀ frame : Frame, (∀ text, frame ≠ .error text) → frame.message? = none →
      (∀ front ∈ last.link.pending.head?, frame.word? ≠ some front.verb.acknowledgement) →
      (last.link.receive (.ofFrame frame)).pending = last.link.pending ∧
        (last.link.receive (.ofFrame frame)).observers = last.link.observers := by
  intro first last entered answered resolved
  have settled := settled_after connection queueSize moves numbered
  exact ⟨settled.fits.order, settled.fits.tallied, fun frame => Link.receive_foreign⟩

/-- Call 1 is given up when one of its two acknowledgements has come, and an acknowledgement of another verb has not
counted; it is resolved with the next. Call 2 lacks one of two, call 3 is in the queue and call 4 waits for space. -/
theorem resolved_first_in_first_out_given_up :
    let ask (call : Nat) (targets : List Bytes) : Move := .begin (.request call .subscribe targets)
    let sent (text : String) : Move := .begin (.network (.arrive (.piece (Bytes.ofText text))))
    let moves : List Move := [ask 1 [[97], [98]], .write, .write, sent "*3\r\n$9\r\nsubscribe\r\n$1\r\na\r\n:1\r\n",
      sent "*1\r\n+unsubscribe\r\n*1\r\n+SUBSCRIBE\r\n", .read, .read, .begin (.abandon 1), ask 2 [[99], [100]], .write,
      ask 3 [[101]], ask 4 [[102]], .read, .write, sent "*1\r\n+subscribe\r\n", .read]
    let first : Moment := { clients := start {} 1 }
    let last := first.after moves
    let entered := gather entering first moves
    ((requests moves).map Request.call).Nodup ∧ (gather answering first moves).map Prod.fst = [1] ∧
      last.link.pending.map Pending.call = [2] ∧ last.link.queue.map Request.call = [3] ∧
      entered.map Request.call = [1, 2, 3] ∧
      ∀ pending ∈ last.link.pending, ∃ request ∈ entered, request.call = pending.call ∧ 0 < pending.remaining ∧
        pending.remaining + (gather acknowledging first moves).count pending.call = request.targets.length := by
  intro ask sent moves first last entered
  have numbered : ((requests moves).map Request.call).Nodup := by decide
  obtain ⟨-, tallied, -⟩ := resolved_first_in_first_out {} 1 moves numbered
  refine ⟨numbered, by decide +kernel, by decide +kernel, by decide +kernel, by decide +kernel, fun pending member => ?_⟩
  obtain ⟨request, inside, own, -, left, sum⟩ := tallied pending member
  exact ⟨request, inside, own, left, sum⟩

end Clients.Moment

end Subscriber
