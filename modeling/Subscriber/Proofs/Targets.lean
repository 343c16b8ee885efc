import Subscriber.Command
import Subscriber.Targets

/-! What a sequence of commands leaves subscribed. Whoever follows the commands from the start, and
that is what a server does, arrives at a set of names for each kind. -/

namespace Subscriber.Targets

def Distinct (targets : Targets) : Prop := targets.names.Nodup

private theorem mem_insert {targets : Targets} {added name : Bytes} :
    name ∈ (targets.insert added).names ↔ name = added ∨ name ∈ targets.names := by
  unfold insert
  split
  next present =>
    have member : added ∈ targets.names := by simpa using present
    exact ⟨Or.inr, fun either => either.elim (fun same => same ▸ member) id⟩
  next => simp only [List.mem_append, List.mem_singleton, or_comm]

private theorem mem_erase {targets : Targets} (distinct : targets.Distinct) {removed name : Bytes} :
    name ∈ (targets.erase removed).names ↔ name ≠ removed ∧ name ∈ targets.names :=
  distinct.mem_erase_iff

theorem distinct_insert {targets : Targets} (distinct : targets.Distinct) (name : Bytes) :
    (targets.insert name).Distinct := by
  unfold insert
  split
  · exact distinct
  next absent =>
    have fresh : name ∉ targets.names := by simpa using absent
    refine List.nodup_append.mpr ⟨distinct, by simp, ?_⟩
    intro other member added singleton same
    exact fresh ((same.trans (List.mem_singleton.mp singleton)) ▸ member)

theorem distinct_erase {targets : Targets} (distinct : targets.Distinct) (name : Bytes) :
    (targets.erase name).Distinct := List.Nodup.erase name distinct

def insertAll (targets : Targets) (names : List Bytes) : Targets := names.foldl insert targets

def eraseAll (targets : Targets) (names : List Bytes) : Targets := names.foldl erase targets

theorem change_snd (step : Targets → Bytes → Targets) (targets : Targets) (names : List Bytes) :
    (targets.change step names).2 = names.foldl step targets := by
  induction names generalizing targets with
  | nil => rfl
  | cons name names ih => exact ih (step targets name)

theorem distinct_insertAll {targets : Targets} (distinct : targets.Distinct) (names : List Bytes) :
    (targets.insertAll names).Distinct := by
  induction names generalizing targets with
  | nil => exact distinct
  | cons name names ih => exact ih (distinct_insert distinct name)

theorem distinct_eraseAll {targets : Targets} (distinct : targets.Distinct) (names : List Bytes) :
    (targets.eraseAll names).Distinct := by
  induction names generalizing targets with
  | nil => exact distinct
  | cons name names ih => exact ih (distinct_erase distinct name)

theorem mem_insertAll {targets : Targets} {names : List Bytes} {name : Bytes} :
    name ∈ (targets.insertAll names).names ↔ name ∈ names ∨ name ∈ targets.names := by
  induction names generalizing targets with
  | nil => simp [insertAll]
  | cons first names ih =>
    change name ∈ ((targets.insert first).insertAll names).names ↔ _
    rw [ih, mem_insert, List.mem_cons, or_assoc, or_left_comm]

theorem mem_eraseAll {targets : Targets} (distinct : targets.Distinct) {names : List Bytes} {name : Bytes} :
    name ∈ (targets.eraseAll names).names ↔ name ∉ names ∧ name ∈ targets.names := by
  induction names generalizing targets with
  | nil => simp [eraseAll]
  | cons first names ih =>
    have rest := ih (distinct_erase distinct first)
    rw [mem_erase distinct] at rest
    rw [List.mem_cons, not_or, and_assoc, and_left_comm]
    exact rest

theorem eq_empty {targets : Targets} (none : ∀ name, name ∉ targets.names) : targets = {} := by
  cases targets
  exact congrArg mk (List.eq_nil_iff_forall_not_mem.mpr none)

theorem mem_sorted {targets : Targets} {name : Bytes} : name ∈ targets.sorted ↔ name ∈ targets.names :=
  List.mem_mergeSort

def follow (kind : Message.Kind) (targets : Targets) (command : Verb × List Bytes) : Targets :=
  if command.1 = .adding kind then targets.insertAll command.2
  else if command.1 = .removing kind then targets.eraseAll command.2
  else targets

/-- The names of a kind that are subscribed after all the commands, when none was before. -/
def replay (kind : Message.Kind) (commands : List (Verb × List Bytes)) : Targets :=
  commands.foldl (follow kind) {}

theorem replay_append (kind : Message.Kind) (commands : List (Verb × List Bytes)) (command : Verb × List Bytes) :
    replay kind (commands ++ [command]) = follow kind (replay kind commands) command := by
  simp only [replay, List.foldl_append, List.foldl_cons, List.foldl_nil]

theorem follow_adding (kind other : Message.Kind) (targets : Targets) (names : List Bytes) :
    follow kind targets (.adding other, names) = if other = kind then targets.insertAll names else targets := by
  cases kind <;> cases other <;> rfl

theorem follow_removing (kind other : Message.Kind) (targets : Targets) (names : List Bytes) :
    follow kind targets (.removing other, names) = if other = kind then targets.eraseAll names else targets := by
  cases kind <;> cases other <;> rfl

theorem distinct_replay (kind : Message.Kind) (commands : List (Verb × List Bytes)) :
    (replay kind commands).Distinct := by
  have kept (targets : Targets) (distinct : targets.Distinct) :
      (commands.foldl (follow kind) targets).Distinct := by
    induction commands generalizing targets with
    | nil => exact distinct
    | cons command commands ih =>
      apply ih
      unfold follow
      split
      · exact distinct_insertAll distinct _
      · split
        · exact distinct_eraseAll distinct _
        · exact distinct
  exact kept {} List.nodup_nil

end Subscriber.Targets
