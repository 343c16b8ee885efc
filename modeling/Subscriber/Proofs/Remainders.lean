import Mathlib.Algebra.Polynomial.Div
import Mathlib.Algebra.Field.ZMod
import Mathlib.Data.List.TakeWhile
import Mathlib.Tactic.ComputeDegree
import Mathlib.Tactic.LinearCombination
import Subscriber.Slot

/-! Slots are remainders. Bytes are read as a polynomial over the field of two elements, most significant bit first;
the register holds the remainder of what has been read, times x^16, on division by x^16 + x^12 + x^5 + 1. -/

namespace Subscriber.Slot
open Polynomial

def bit (value : Bool) : ZMod 2 := if value then 1 else 0

private theorem bit_xor (a b : Bool) : bit (a ^^ b) = bit a + bit b := by
  cases a <;> cases b <;> decide

/-- The polynomial with these coefficients, that of the highest power first. -/
noncomputable def polynomial : List Bool → (ZMod 2)[X]
  | [] => 0
  | first :: later => C (bit first) * X ^ later.length + polynomial later

def bits (byte : UInt8) : List Bool := (List.range 8).reverse.map byte.toNat.testBit

noncomputable def message (bytes : Bytes) : (ZMod 2)[X] := polynomial (bytes.flatMap bits)

noncomputable def generator : (ZMod 2)[X] := X ^ 16 + X ^ 12 + X ^ 5 + 1

/-- The number whose binary digits are the first coefficients, that of the lowest power being the last digit. -/
noncomputable def lowBits (count : Nat) (p : (ZMod 2)[X]) : Nat := ∑ i ∈ Finset.range count, (p.coeff i).val * 2 ^ i

private theorem polynomial_append (first later : List Bool) :
    polynomial (first ++ later) = polynomial first * X ^ later.length + polynomial later := by
  induction first with
  | nil => simp [polynomial]
  | cons bit first ih =>
    rw [List.cons_append, polynomial, polynomial, ih, List.length_append, pow_add]
    ring

private theorem message_concat (bytes : Bytes) (byte : UInt8) :
    message (bytes ++ [byte]) = message bytes * X ^ 8 + polynomial (bits byte) := by
  rw [message, List.flatMap_append, List.flatMap_singleton, polynomial_append]
  rfl

/-- A polynomial with these coefficients, that of the constant term first. -/
noncomputable def digits (count : Nat) (digit : Nat → Bool) : (ZMod 2)[X] :=
  ∑ i ∈ Finset.range count, C (bit (digit i)) * X ^ i

theorem coeff_digits (count : Nat) (digit : Nat → Bool) (i : Nat) :
    (digits count digit).coeff i = if i < count then bit (digit i) else 0 := by
  rw [digits, finsetSum_coeff]
  simp only [coeff_C_mul_X_pow]
  rw [Finset.sum_ite_eq]
  simp only [Finset.mem_range]

private theorem polynomial_reverse (count : Nat) (digit : Nat → Bool) :
    polynomial ((List.range count).reverse.map digit) = digits count digit := by
  induction count with
  | zero => rfl
  | succ count ih =>
    rw [List.range_succ, List.reverse_append, List.reverse_singleton, List.singleton_append, List.map_cons, polynomial,
      ih, digits, digits, Finset.sum_range_succ, List.length_map, List.length_reverse, List.length_range, add_comm]

section
variable {width : Nat}

/-- The polynomial held in a register. -/
noncomputable def held (register : BitVec width) : (ZMod 2)[X] := digits width register.getLsbD

theorem coeff_held (register : BitVec width) (i : Nat) : (held register).coeff i = bit (register.getLsbD i) := by
  rw [held, coeff_digits]
  split
  · rfl
  next outside =>
    rw [BitVec.getLsbD_of_ge register i (Nat.not_lt.mp outside)]
    rfl

theorem held_xor (a b : BitVec width) : held (a ^^^ b) = held a + held b := by
  ext i
  rw [coeff_add, coeff_held, coeff_held, coeff_held, BitVec.getLsbD_xor, bit_xor]

private theorem degree_held (register : BitVec width) : (held register).degree < width := by
  rw [degree_lt_iff_coeff_zero]
  intro i outside
  rw [coeff_held, BitVec.getLsbD_of_ge register i outside]
  rfl

end

private theorem held_shiftLeft (register : BitVec 16) :
    held (register <<< 1) + C (bit register.msb) * X ^ 16 = X * held register := by
  ext i
  rw [coeff_add, coeff_held, coeff_C_mul_X_pow, BitVec.getLsbD_shiftLeft, BitVec.msb_eq_getLsbD_last]
  cases i with
  | zero => simp [bit]
  | succ i =>
    rw [coeff_X_mul, coeff_held]
    by_cases inside : i + 1 < 16
    · have low : i + 1 ≠ 16 := by omega
      simp [inside, low]
    · by_cases last : i = 15
      · subst last
        simp [bit]
      · have high : i + 1 ≠ 16 := by omega
        rw [BitVec.getLsbD_of_ge register i (by omega)]
        simp [inside, high]

private theorem held_tail : held 0x1021#16 = X ^ 12 + X ^ 5 + 1 := by
  have ones : ∀ i < 16, (0x1021#16).getLsbD i = decide (i = 12 ∨ i = 5 ∨ i = 0) := by decide
  have terms : held 0x1021#16 = ∑ i ∈ Finset.range 16, if i = 12 ∨ i = 5 ∨ i = 0 then (X : (ZMod 2)[X]) ^ i else 0 := by
    rw [held, digits]
    refine Finset.sum_congr rfl fun i inside => ?_
    rw [ones i (Finset.mem_range.mp inside), bit]
    split <;> simp_all
  rw [terms]
  simp only [Finset.sum_range_succ, Finset.sum_range_zero]
  norm_num
  ring

private theorem add_self (p : (ZMod 2)[X]) : p + p = 0 := CharTwo.add_self_eq_zero p

private theorem held_shift (register : BitVec 16) :
    held (shift register) = X * held register + C (bit register.msb) * generator := by
  have shifted := held_shiftLeft register
  unfold shift
  cases carried : register.msb with
  | false =>
    rw [carried] at shifted
    rw [if_neg (by simp)]
    simpa [bit] using shifted
  | true =>
    rw [carried] at shifted
    rw [if_pos rfl, held_xor, held_tail, generator]
    simp only [bit, if_true, C_1, one_mul] at shifted ⊢
    linear_combination shifted - add_self (X ^ 16)

def Congruent (a b : (ZMod 2)[X]) : Prop := generator ∣ a - b

theorem Congruent.trans {a b c : (ZMod 2)[X]} (first : Congruent a b) (second : Congruent b c) : Congruent a c := by
  have sum := dvd_add first second
  rwa [sub_add_sub_cancel] at sum

theorem Congruent.mul {a b : (ZMod 2)[X]} (congruent : Congruent a b) (factor : (ZMod 2)[X]) :
    Congruent (factor * a) (factor * b) := by
  have times := Dvd.dvd.mul_left congruent factor
  rwa [mul_sub] at times

private theorem Congruent.add {a b : (ZMod 2)[X]} (congruent : Congruent a b) (more : (ZMod 2)[X]) :
    Congruent (a + more) (b + more) := by
  unfold Congruent
  rwa [add_sub_add_right_eq_sub]

private theorem shift_congruent (register : BitVec 16) : Congruent (held (shift register)) (X * held register) := by
  rw [held_shift, Congruent, add_sub_cancel_left]
  exact Dvd.intro_left _ rfl

private theorem repeat_shift_congruent (count : Nat) (register : BitVec 16) :
    Congruent (held (Nat.repeat shift count register)) (X ^ count * held register) := by
  induction count with
  | zero => simp [Congruent, Nat.repeat]
  | succ count ih =>
    have next := (shift_congruent (Nat.repeat shift count register)).trans (ih.mul X)
    rw [← mul_assoc, ← pow_succ'] at next
    exact next

private theorem held_byte (byte : UInt8) :
    held (BitVec.ofNat 16 byte.toNat <<< 8) = polynomial (bits byte) * X ^ 8 := by
  have small : byte.toNat < 2 ^ 8 := byte.toNat_lt
  ext i
  rw [coeff_held, bits, polynomial_reverse, coeff_mul_X_pow', coeff_digits, BitVec.getLsbD_shiftLeft,
    BitVec.getLsbD_ofNat]
  by_cases low : i < 8
  · have below : ¬ 8 ≤ i := Nat.not_le.mpr low
    simp [low, below, bit]
  · have above : 8 ≤ i := Nat.not_lt.mp low
    by_cases inside : i < 16
    · have high : i - 8 < 8 := by omega
      have room : i - 8 < 16 := by omega
      simp [low, above, inside, high, room]
    · have high : ¬ i - 8 < 8 := by omega
      simp [inside, above, high, bit]

private theorem absorb_congruent (register : BitVec 16) (byte : UInt8) :
    Congruent (held (absorb register byte)) (held register * X ^ 8 + polynomial (bits byte) * X ^ 16) := by
  have moved := repeat_shift_congruent 8 (register ^^^ BitVec.ofNat 16 byte.toNat <<< 8)
  rw [held_xor, held_byte, mul_add] at moved
  have same : X ^ 8 * held register + X ^ 8 * (polynomial (bits byte) * X ^ 8) =
      held register * X ^ 8 + polynomial (bits byte) * X ^ 16 := by ring
  exact same ▸ moved

private theorem checksum_congruent (bytes : Bytes) : Congruent (held (checksum bytes)) (message bytes * X ^ 16) := by
  induction bytes using List.reverseRecOn with
  | nil =>
    have empty : held (checksum []) = 0 := by
      ext i
      simp [checksum, coeff_held, bit]
    rw [empty, message, List.flatMap_nil, polynomial, zero_mul, Congruent, sub_zero]
    exact dvd_zero _
  | append_singleton bytes byte ih =>
    have read : checksum (bytes ++ [byte]) = absorb (checksum bytes) byte := by
      rw [checksum, List.foldl_append]
      rfl
    have before := (ih.mul (X ^ 8)).add (polynomial (bits byte) * X ^ 16)
    have same : X ^ 8 * (message bytes * X ^ 16) + polynomial (bits byte) * X ^ 16 =
        message (bytes ++ [byte]) * X ^ 16 := by
      rw [message_concat]
      ring
    rw [mul_comm, same] at before
    exact read ▸ (absorb_congruent _ byte).trans before

private theorem monic_generator : generator.Monic := by
  unfold generator
  monicity!

private theorem degree_generator : generator.degree = 16 := by
  unfold generator
  compute_degree!

/-- What is left in the register at the end. -/
theorem held_checksum (bytes : Bytes) : held (checksum bytes) = message bytes * X ^ 16 %ₘ generator := by
  have small : (held (checksum bytes)).degree < generator.degree := by
    rw [degree_generator]
    exact degree_held (checksum bytes)
  rw [← modByMonic_eq_of_dvd_sub monic_generator (checksum_congruent bytes)]
  exact ((modByMonic_eq_self_iff monic_generator).mpr small).symm

private theorem lowBits_held (register : BitVec 16) (count : Nat) : lowBits count (held register) = register.toNat % 2 ^ count := by
  induction count with
  | zero => simp [lowBits, Nat.mod_one]
  | succ count ih =>
    have last : (bit (register.getLsbD count)).val = register.toNat / 2 ^ count % 2 := by
      rw [← Nat.toNat_testBit]
      change (bit (register.toNat.testBit count)).val = _
      cases register.toNat.testBit count <;> rfl
    rw [lowBits, Finset.sum_range_succ, ← lowBits, ih, coeff_held, last, Nat.mod_pow_succ, mul_comm (_ % 2)]

/-- What stands strictly between the first opening brace and the first closing brace behind it. -/
def Encloses (key tag : Bytes) : Prop :=
  ∃ before after, key = before ++ openBrace :: (tag ++ closeBrace :: after) ∧ openBrace ∉ before ∧ closeBrace ∉ tag

/-- The part of a key that decides on its slot. -/
inductive Hashes (key : Bytes) : Bytes → Prop where
  | tag {tag : Bytes} (encloses : Encloses key tag) (some : tag ≠ []) : Hashes key tag
  | whole (untagged : ∀ tag, Encloses key tag → tag = []) : Hashes key key

/-- Whatever is read up to the first brace stops right in front of it. -/
theorem upTo_brace {brace : UInt8} {before : Bytes} (absent : brace ∉ before) (after : Bytes) :
    (before ++ brace :: after).takeWhile (· != brace) = before ∧
      (before ++ brace :: after).dropWhile (· != brace) = brace :: after := by
  have passed (byte : UInt8) (member : byte ∈ before) : (byte != brace) = true :=
    bne_iff_ne.mpr fun same => absent (same ▸ member)
  refine ⟨?_, ?_⟩
  · rw [List.takeWhile_append_of_pos passed, List.takeWhile_cons_of_neg (by simp), List.append_nil]
  · rw [List.dropWhile_append_of_pos passed, List.dropWhile_cons_of_neg (by simp)]

theorem effectiveKey_encloses {key tag : Bytes} (encloses : Encloses key tag) :
    effectiveKey key = if tag = [] then key else tag := by
  obtain ⟨before, after, rfl, unopened, unclosed⟩ := encloses
  unfold effectiveKey
  rw [(upTo_brace unopened _).2]
  dsimp only
  rw [(upTo_brace unclosed after).1]
  by_cases empty : tag = []
  · simp [empty]
  · simp [empty]

theorem effectiveKey_plain {key : Bytes} (plain : ∀ tag, ¬ Encloses key tag) : effectiveKey key = key := by
  unfold effectiveKey
  by_cases opened : openBrace ∈ key
  · obtain ⟨before, inside, rfl, unopened⟩ := List.eq_append_cons_of_mem opened
    rw [(upTo_brace unopened inside).2]
    have unclosed : closeBrace ∉ inside := by
      intro closed
      obtain ⟨tag, after, rfl, untouched⟩ := List.eq_append_cons_of_mem closed
      exact plain tag ⟨before, after, rfl, unopened, untouched⟩
    simp [unclosed]
  · have passed : key.dropWhile (· != openBrace) = [] :=
      List.dropWhile_eq_nil_iff.mpr fun byte member => bne_iff_ne.mpr fun same => opened (same ▸ member)
    rw [passed]

private theorem Encloses.unique {key first second : Bytes} (one : Encloses key first) (other : Encloses key second) :
    first = second := by
  have found {tag : Bytes} (encloses : Encloses key tag) :
      ((key.dropWhile (· != openBrace)).drop 1).takeWhile (· != closeBrace) = tag := by
    obtain ⟨before, after, rfl, unopened, unclosed⟩ := encloses
    rw [(upTo_brace unopened _).2]
    exact (upTo_brace unclosed after).1
  exact (found one).symm.trans (found other)

/-- What is hashed is settled by the braces. -/
theorem hashes_iff {key hashed : Bytes} : Hashes key hashed ↔ hashed = effectiveKey key := by
  constructor
  · rintro (⟨encloses, some⟩ | untagged)
    · rw [effectiveKey_encloses encloses, if_neg some]
    · by_cases enclosing : ∃ tag, Encloses key tag
      · obtain ⟨tag, encloses⟩ := enclosing
        rw [effectiveKey_encloses encloses, if_pos (untagged tag encloses)]
      · exact (effectiveKey_plain fun tag encloses => enclosing ⟨tag, encloses⟩).symm
  · rintro rfl
    by_cases enclosing : ∃ tag, Encloses key tag
    · obtain ⟨tag, encloses⟩ := enclosing
      rw [effectiveKey_encloses encloses]
      split
      next empty => exact .whole fun other another => (another.unique encloses).trans empty
      next some => exact .tag encloses some
    · rw [effectiveKey_plain fun tag encloses => enclosing ⟨tag, encloses⟩]
      exact .whole fun tag encloses => absurd ⟨tag, encloses⟩ enclosing

/-- One part of a key is hashed, the one that the first pair of braces encloses or else the whole, and the slot is the low
end of the remainder of that part, read as a polynomial and moved up by x^16, on division by x^16 + x^12 + x^5 + 1. -/
theorem ofKey_eq_remainder (key : Bytes) :
    ∃ hashed, (∀ part, Hashes key part ↔ part = hashed) ∧ ofKey key = lowBits 14 (message hashed * X ^ 16 %ₘ generator) :=
  ⟨effectiveKey key, fun _ => hashes_iff, by rw [← held_checksum, lowBits_held]; rfl⟩

end Subscriber.Slot
