import Subscriber.Proofs.Encoding

/-! The numbers of the wire format. What is read as a number are the numerals, whatever sign and leading zeros they
carry, and as a 64-bit number those whose value is one. -/

namespace Subscriber

namespace Decimal

/-- One or more digits, and the number that they say. -/
inductive Digits : Bytes → Nat → Prop where
  | single {d : Nat} (small : d < 10) : Digits [digit d] d
  | more {text : Bytes} {n d : Nat} (before : Digits text n) (small : d < 10) : Digits (text ++ [digit d]) (10 * n + d)

/-- An optional sign of either kind, and digits. -/
inductive Numeral : Bytes → Int → Prop where
  | unsigned {text : Bytes} {n : Nat} (digits : Digits text n) : Numeral text n
  | plus {text : Bytes} {n : Nat} (digits : Digits text n) : Numeral ('+'.toUInt8 :: text) n
  | minus {text : Bytes} {n : Nat} (digits : Digits text n) : Numeral ('-'.toUInt8 :: text) (-n)

theorem value_concat (text : Bytes) (byte : UInt8) : value (text ++ [byte]) = value text * 10 + (byte.toNat - 48) := by
  simp only [value, List.foldl_append, List.foldl_cons, List.foldl_nil]

private theorem digit_of_isDigit {byte : UInt8} (some : isDigit byte = true) : ∃ d, d < 10 ∧ byte = digit d := by
  simp only [isDigit, Bool.and_eq_true, decide_eq_true_eq, UInt8.le_iff_toNat_le] at some
  obtain ⟨low, high⟩ := some
  change 48 ≤ byte.toNat at low
  change byte.toNat ≤ 57 at high
  refine ⟨byte.toNat - 48, by omega, ?_⟩
  rw [digit, Nat.add_sub_cancel' low, UInt8.ofNat_toNat]

theorem Digits.nat? {text : Bytes} {n : Nat} (digits : Digits text n) : Decimal.nat? text = some n := by
  have facts : text ≠ [] ∧ text.all isDigit = true ∧ value text = n := by
    induction digits with
    | single small =>
      refine ⟨List.cons_ne_nil _ _, by simp [isDigit_digit small], ?_⟩
      simp only [value, List.foldl_cons, List.foldl_nil, digit_toNat small]
      omega
    | more before small ih =>
      obtain ⟨-, earlier, said⟩ := ih
      refine ⟨by simp, by simp only [List.all_append, earlier, List.all_cons, isDigit_digit small, List.all_nil,
        Bool.and_self], ?_⟩
      rw [value_concat, said, digit_toNat small]
      omega
  obtain ⟨some, digits, said⟩ := facts
  simp [Decimal.nat?, some, digits, said]

private theorem digits_value (text : Bytes) (some : text ≠ []) (digits : text.all isDigit = true) : Digits text (value text) := by
  induction text using List.reverseRecOn with
  | nil => exact absurd rfl some
  | append_singleton text last ih =>
    simp only [List.all_append, List.all_cons, List.all_nil, Bool.and_true, Bool.and_eq_true] at digits
    obtain ⟨d, small, rfl⟩ := digit_of_isDigit digits.2
    rw [value_concat, digit_toNat small, Nat.add_sub_cancel_left, Nat.mul_comm]
    by_cases first : text = []
    · subst first
      simpa only [value, List.foldl_nil, Nat.mul_zero, Nat.zero_add, List.nil_append] using Digits.single small
    · exact .more (ih first digits.1) small

private theorem nat?_eq_some_iff {text : Bytes} {n : Nat} : nat? text = some n ↔ Digits text n := by
  constructor
  · intro read
    unfold nat? at read
    split at read
    next digits =>
      cases read
      simp only [Bool.and_eq_true, Bool.not_eq_true', List.isEmpty_eq_false_iff] at digits
      exact digits_value text digits.1 digits.2
    next => cases read
  · exact Digits.nat?

private theorem Digits.no_sign {sign : UInt8} {text : Bytes} {n : Nat} (digits : Digits (sign :: text) n) :
    isDigit sign = true := by
  have read := digits.nat?
  unfold Decimal.nat? at read
  split at read
  next all =>
    simp only [List.all_cons, Bool.and_eq_true] at all
    exact all.2.1
  next => cases read

private theorem int?_eq_some_iff {text : Bytes} {n : Int} : int? text = some n ↔ Numeral text n := by
  constructor
  · intro read
    unfold int? at read
    split at read
    all_goals
      obtain ⟨m, found, rfl⟩ := Option.map_eq_some_iff.mp read
      have digits := nat?_eq_some_iff.mp found
    · exact .plus digits
    · exact .minus digits
    · exact .unsigned digits
  · intro numeral
    cases numeral with
    | unsigned digits =>
      unfold int?
      split
      next => exact absurd digits.no_sign (by decide)
      next => exact absurd digits.no_sign (by decide)
      next => rw [digits.nat?]; rfl
    | plus digits =>
      change (nat? _).map Int.ofNat = _
      rw [digits.nat?]
      rfl
    | minus digits =>
      change (nat? _).map (fun n => -Int.ofNat n) = _
      rw [digits.nat?]
      rfl

/-- The integers of the wire format are the numerals of 64-bit numbers. -/
theorem int64?_eq_some_iff {text : Bytes} {n : Int64} : int64? text = some n ↔ Numeral text n.toInt := by
  rw [← int?_eq_some_iff]
  unfold int64?
  constructor
  · intro read
    split at read
    next m found =>
      split at read
      next range =>
        cases read
        rw [found, Int64.toInt_ofInt_of_le range.1 (Int.lt_of_le_of_lt range.2 (by decide))]
      next => cases read
    next => cases read
  · intro read
    have low := n.minValue_le_toInt
    have high : n.toInt ≤ Int64.maxValue.toInt := n.toInt_le
    rw [read]
    dsimp only
    rw [if_pos ⟨low, high⟩, Int64.ofInt_toInt]

private theorem Digits.not_mem {byte : UInt8} {text : Bytes} {n : Nat} (digits : Digits text n) (other : isDigit byte = false) :
    byte ∉ text := by
  induction digits with
  | single small =>
    intro member
    rw [List.mem_singleton.mp member, isDigit_digit small] at other
    cases other
  | more before small ih =>
    intro member
    rcases List.mem_append.mp member with earlier | last
    · exact ih earlier
    · rw [List.mem_singleton.mp last, isDigit_digit small] at other
      cases other

theorem Numeral.oneLine {text : Bytes} {n : Int} (numeral : Numeral text n) : Bytes.OneLine text := by
  apply Bytes.oneLine_of_not_mem
  cases numeral with
  | unsigned digits => exact digits.not_mem rfl
  | plus digits => exact List.not_mem_cons_of_ne_of_not_mem (by decide) (digits.not_mem rfl)
  | minus digits => exact List.not_mem_cons_of_ne_of_not_mem (by decide) (digits.not_mem rfl)

end Decimal

end Subscriber
