import Subscriber.Proofs.Remainders

/-! Keys with the same tag live together. What is hashed of a key has no tag of its own that would count: it is hashed as
a whole when it is a key itself. So a tag decides on the slot alone, wherever it stands, and a command on several keys
can ask of them whether they live in one slot. -/

namespace Subscriber.Slot

/-- A text without a closing brace encloses nothing, whatever it opens. -/
theorem effectiveKey_unclosed {tag : Bytes} (unclosed : closeBrace ∉ tag) : effectiveKey tag = tag := by
  apply effectiveKey_plain
  rintro inner ⟨before, after, rfl, -, -⟩
  exact unclosed (by simp)

private theorem effectiveKey_effectiveKey (key : Bytes) : effectiveKey (effectiveKey key) = effectiveKey key := by
  by_cases enclosing : ∃ tag, Encloses key tag
  · obtain ⟨tag, encloses⟩ := enclosing
    have hashed := effectiveKey_encloses encloses
    split at hashed
    next => rw [hashed, hashed]
    next =>
      obtain ⟨before, after, -, -, unclosed⟩ := encloses
      rw [hashed, effectiveKey_unclosed unclosed]
  · have hashed := effectiveKey_plain fun tag encloses => enclosing ⟨tag, encloses⟩
    rw [hashed, hashed]

theorem ofKey_eq_of_effectiveKey {key other : Bytes} (same : effectiveKey key = effectiveKey other) :
    ofKey key = ofKey other := by
  rw [ofKey, same, ofKey]

private theorem ofKey_tagged {before tag after : Bytes} (unopened : openBrace ∉ before) (unclosed : closeBrace ∉ tag)
    (some : tag ≠ []) : ofKey (before ++ openBrace :: (tag ++ closeBrace :: after)) = ofKey tag := by
  apply ofKey_eq_of_effectiveKey
  rw [effectiveKey_encloses ⟨before, after, rfl, unopened, unclosed⟩, if_neg some, effectiveKey_unclosed unclosed]

private theorem ofKey_lt (key : Bytes) : ofKey key < count := Nat.mod_lt _ (by decide)

/-- The first key stands for all others. -/
theorem shared_iff {keys : List Bytes} : shared keys = true ↔ ∀ one ∈ keys, ∀ other ∈ keys, ofKey one = ofKey other := by
  match keys with
  | [] => simp [shared]
  | first :: others =>
    have asked : shared (first :: others) = true ↔ ∀ other ∈ others, ofKey other = ofKey first := by
      simp only [shared, List.all_eq_true, beq_iff_eq]
    rw [asked]
    constructor
    · intro same
      have toFirst (key : Bytes) (member : key ∈ first :: others) : ofKey key = ofKey first := by
        cases member with
        | head => rfl
        | tail _ later => exact same key later
      intro one here other there
      rw [toFirst one here, toFirst other there]
    · intro same other later
      exact same other (.tail _ later) first (.head _)

/-- A tag decides on the slot wherever it stands; what is hashed of a key lives where the key does; and a list of keys lives
in one slot if and only if any two of them do, which only asks which keys are in the list, and which is so when the same is
hashed of all of them. -/
theorem tags_share_slots :
    (∀ before tag after : Bytes, openBrace ∉ before → closeBrace ∉ tag → tag ≠ [] →
      ofKey (before ++ openBrace :: (tag ++ closeBrace :: after)) = ofKey tag) ∧
    (∀ key, ofKey (effectiveKey key) = ofKey key ∧ ofKey key < count) ∧
    (∀ keys, shared keys = true ↔ ∀ one ∈ keys, ∀ other ∈ keys, ofKey one = ofKey other) ∧
    (∀ keys others : List Bytes, (∀ key, key ∈ keys ↔ key ∈ others) → shared keys = shared others) ∧
    (∀ (keys : List Bytes) (hashed : Bytes), (∀ key ∈ keys, Hashes key hashed) → shared keys = true) := by
  refine ⟨fun _ _ _ => ofKey_tagged, fun key => ⟨?_, ofKey_lt key⟩, fun _ => shared_iff, ?_, ?_⟩
  · exact ofKey_eq_of_effectiveKey (effectiveKey_effectiveKey key)
  · intro keys others same
    apply Bool.eq_iff_iff.mpr
    simp only [shared_iff, same]
  · intro keys hashed common
    apply shared_iff.mpr
    intro one here other there
    apply ofKey_eq_of_effectiveKey
    rw [← hashes_iff.mp (common one here), ← hashes_iff.mp (common other there)]

/-- The tag opens a brace itself and the text behind it holds a whole tag; repeated and in another order, the keys live
together as before. -/
theorem tags_share_slots_nested :
    let tag := Bytes.ofText "\x7ba"
    let key := Bytes.ofText "p" ++ openBrace :: (tag ++ closeBrace :: Bytes.ofText "s\x7bx\x7d\x7b")
    let bare := openBrace :: (tag ++ closeBrace :: [])
    ofKey key = ofKey tag ∧ ofKey tag < count ∧ shared [key, bare, key] = shared [bare, key] ∧
      shared [bare, key] = true := by
  intro tag key bare
  obtain ⟨tagged, bounded, -, unordered, common⟩ := tags_share_slots
  have encloses : Encloses key tag :=
    ⟨Bytes.ofText "p", Bytes.ofText "s\x7bx\x7d\x7b", rfl, by decide, by decide⟩
  have alone : Encloses bare tag := ⟨[], [], rfl, by decide, by decide⟩
  have together : ∀ other ∈ [bare, key], Hashes other tag := by
    intro other member
    simp only [List.mem_cons, List.not_mem_nil, or_false] at member
    rcases member with rfl | rfl
    · exact .tag alone (by decide)
    · exact .tag encloses (by decide)
  refine ⟨tagged _ tag _ (by decide) (by decide) (by decide), (bounded tag).2, unordered _ _ ?_, common _ tag together⟩
  intro other
  simp only [List.mem_cons, List.not_mem_nil, or_false]
  tauto

end Subscriber.Slot
