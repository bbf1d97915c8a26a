import CellFormula.Decimal.Basic
import Mathlib.Algebra.Field.Rat
import Mathlib.Tactic.Lemma
import Mathlib.Tactic.Ring

namespace CellFormula.Decimal

def signed (d : Decimal) : ℤ := if d.negative then -d.coefficient else d.coefficient

def value (d : Decimal) : ℚ := d.signed * 10 ^ d.exponent

def Canonical (d : Decimal) : Prop := d.coefficient % 10 = 0 → d = ⟨false, 0, 0⟩

variable {a b d : Decimal} {n c : Nat} {e f : Int}

lemma reduce_spec (h : reduce n e = (c, f)) :
    ∃ k : Nat, n = c * 10 ^ k ∧ f = e + k ∧ (n ≠ 0 → c % 10 ≠ 0) := by
  induction n, e using reduce.induct with
  | case1 n e hn ih =>
    rw [reduce, if_pos hn] at h
    obtain ⟨k, hk, hf, hc⟩ := ih h
    refine ⟨k + 1, ?_, by omega, fun _ => hc (by omega)⟩
    rw [Nat.pow_succ, ← Nat.mul_assoc, ← hk]
    omega
  | case2 n e hn =>
    rw [reduce, if_neg hn] at h
    obtain ⟨rfl, rfl⟩ := Prod.mk.inj h
    exact ⟨0, by simp, by simp, fun h0 h10 => hn ⟨h0, h10⟩⟩

lemma normal_eq (h : d.coefficient ≠ 0) :
    ∃ (c k : Nat), d.coefficient = c * 10 ^ k ∧ c % 10 ≠ 0 ∧
      d.normal = ⟨d.negative, c, d.exponent + k⟩ := by
  cases hr : reduce d.coefficient d.exponent with
  | mk c f =>
    obtain ⟨k, hk, rfl, hc⟩ := reduce_spec hr
    exact ⟨c, k, hk, hc h, by rw [normal, if_neg h, hr]⟩

lemma natAbs_signed (d : Decimal) : d.signed.natAbs = d.coefficient := by
  unfold signed
  split <;> simp

lemma signed_eq_zero : d.signed = 0 ↔ d.coefficient = 0 := by
  rw [← natAbs_signed, Int.natAbs_eq_zero]

lemma signed_neg (h : d.coefficient ≠ 0) : d.signed < 0 ↔ d.negative := by
  unfold signed
  split
  case isTrue hn =>
    simp [hn]
    omega
  case isFalse hn => simp [hn]

lemma value_zero (h : d.coefficient = 0) : d.value = 0 := by
  rw [value, signed_eq_zero.mpr h, Int.cast_zero, zero_mul]

lemma canonical_normal (d : Decimal) : d.normal.Canonical := by
  intro h
  by_cases h0 : d.coefficient = 0
  · rw [normal, if_pos h0]
  · obtain ⟨c, k, -, hc, hn⟩ := normal_eq h0
    rw [hn] at h
    exact absurd h hc

lemma value_normal (d : Decimal) : d.normal.value = d.value := by
  by_cases h0 : d.coefficient = 0
  · rw [value_zero h0, normal, if_pos h0]
    exact value_zero rfl
  · obtain ⟨c, k, hk, -, hn⟩ := normal_eq h0
    have hs : d.signed = d.normal.signed * 10 ^ k := by
      rw [signed, signed, hn, hk]
      split <;> push_cast <;> ring
    have hp : (10 : ℚ) ^ (d.exponent + k) = 10 ^ k * 10 ^ d.exponent := by
      rw [zpow_add₀ (by norm_num), zpow_natCast, mul_comm]
    rw [value, value, hs, hn, hp]
    push_cast
    ring

lemma signed_of_value (h : a.value = b.value) (he : a.exponent ≤ b.exponent) :
    ∃ k : Nat, b.exponent = a.exponent + k ∧ a.signed = b.signed * 10 ^ k := by
  obtain ⟨k, hk⟩ := Int.le.dest he
  refine ⟨k, hk.symm, ?_⟩
  rw [value, value, ← hk, zpow_add₀ (by norm_num), zpow_natCast] at h
  have hp : (10 : ℚ) ^ a.exponent ≠ 0 := zpow_ne_zero _ (by norm_num)
  have hs : (a.signed : ℚ) = b.signed * 10 ^ k := mul_right_cancel₀ hp (by rw [h]; ring)
  exact_mod_cast hs

lemma eq_of_signed (ha : a.Canonical) (hb : b.Canonical) (he : a.exponent = b.exponent)
    (h : a.signed = b.signed) : a = b := by
  have hc : a.coefficient = b.coefficient := by rw [← natAbs_signed, h, natAbs_signed]
  by_cases h0 : a.coefficient = 0
  · rw [ha (by omega), hb (by omega)]
  · have hn : a.negative = b.negative := by
      rw [Bool.eq_iff_iff, ← signed_neg h0, ← signed_neg (hc ▸ h0), h]
    obtain ⟨_, _, _⟩ := a
    obtain ⟨_, _, _⟩ := b
    cases hc
    cases hn
    cases he
    rfl

theorem Canonical.eq_of_value (ha : a.Canonical) (hb : b.Canonical) (h : a.value = b.value) :
    a = b := by
  wlog he : a.exponent ≤ b.exponent generalizing a b
  · exact (this hb ha h.symm (by omega)).symm
  obtain ⟨k, hk, hs⟩ := signed_of_value h he
  cases k with
  | zero => exact eq_of_signed ha hb (by omega) (by simpa using hs)
  | succ k =>
    have hd : a.coefficient % 10 = 0 := by
      have : a.signed % 10 = 0 := by rw [hs, Int.pow_succ, ← mul_assoc, Int.mul_emod_left]
      unfold signed at this
      split at this <;> omega
    have hz := ha hd
    have hb0 : b.signed * 10 ^ (k + 1) = 0 := by
      rw [← hs, signed_eq_zero, hz]
    have hbc := signed_eq_zero.mp ((mul_eq_zero.mp hb0).resolve_right (by simp))
    rw [hz, hb (by rw [hbc])]

theorem same_iff_value : a.same b ↔ a.value = b.value := by
  rw [same, beq_iff_eq, ← value_normal a, ← value_normal b]
  exact ⟨congrArg value, (canonical_normal a).eq_of_value (canonical_normal b)⟩

end CellFormula.Decimal
