import CellFormula.Proofs.Token.Locality
import Mathlib.Data.List.TakeWhile

namespace CellFormula

namespace Digits

def unpadded (ds : List Char) : List Char :=
  match ds.dropWhile (· == '0') with
  | [] => ['0']
  | c :: cs => c :: cs

variable {c : Char} {ds : List Char} {n : Nat}

lemma toNat_of_isDigit (h : c.isDigit) : ∃ n < 10, c.toNat = '0'.toNat + n := by
  obtain ⟨hl, hu⟩ := Char.isDigit_iff_toNat.mp h
  have hn : '9'.toNat = '0'.toNat + 9 := rfl
  exact ⟨c.toNat - '0'.toNat, by omega, by omega⟩

lemma sub_zero_lt_ten (h : c.isDigit) : c.toNat - '0'.toNat < 10 := by
  obtain ⟨n, hn, hc⟩ := toNat_of_isDigit h
  omega

lemma digitChar_sub_zero (h : c.isDigit) : Nat.digitChar (c.toNat - '0'.toNat) = c := by
  obtain ⟨n, hn, hc⟩ := toNat_of_isDigit h
  apply Char.toNat_inj.mp
  rw [hc, Nat.add_sub_cancel_left, Nat.toNat_digitChar_of_lt_ten hn]
  rfl

lemma sub_zero_pos (h : c.isDigit) (hc : c ≠ '0') : 0 < c.toNat - '0'.toNat := by
  rw [Nat.pos_iff_ne_zero]
  intro hz
  have hd := digitChar_sub_zero h
  rw [hz] at hd
  exact hc hd.symm

lemma toDigits_append (hn : 0 < n) (hd : ∀ c ∈ ds, c.isDigit) :
    Nat.toDigits 10 (Nat.ofDigitChars 10 ds n) = Nat.toDigits 10 n ++ ds := by
  induction ds generalizing n with
  | nil => simp
  | cons c ds ih =>
    obtain ⟨hc, hd⟩ := List.forall_mem_cons.mp hd
    have hlt := sub_zero_lt_ten hc
    calc Nat.toDigits 10 (Nat.ofDigitChars 10 (c :: ds) n)
      _ = Nat.toDigits 10 (10 * n + (c.toNat - '0'.toNat)) ++ ds := by
        rw [Nat.ofDigitChars_cons, ih (by omega) hd]
      _ = Nat.toDigits 10 n ++ [c] ++ ds := by
        rw [← Nat.toDigits_append_toDigits (by decide) hn hlt, Nat.toDigits_of_lt_base hlt,
          digitChar_sub_zero hc]
      _ = Nat.toDigits 10 n ++ c :: ds := List.append_cons _ c ds |>.symm

theorem toDigits_ofDigitChars (hd : ∀ c ∈ ds, c.isDigit) :
    Nat.toDigits 10 (Nat.ofDigitChars 10 ds 0) = unpadded ds := by
  induction ds with
  | nil => rfl
  | cons c ds ih =>
    obtain ⟨hc, hd⟩ := List.forall_mem_cons.mp hd
    by_cases hz : c = '0'
    · rw [hz]
      exact ih hd
    · have hp := sub_zero_pos hc hz
      rw [Nat.ofDigitChars_cons, Nat.mul_zero, Nat.zero_add, toDigits_append hp hd,
        Nat.toDigits_of_lt_base (sub_zero_lt_ten hc), digitChar_sub_zero hc, unpadded,
        List.dropWhile_cons_of_neg (by simpa using hz)]
      rfl

end Digits

structure Scale.Formed (s : Scale) : Prop where
  letter : s.letter = 'e' ∨ s.letter = 'E'
  sign : ∀ c ∈ s.sign, c = '+' ∨ c = '-'
  digits : ∀ c ∈ s.digits, c.isDigit

def Scale.Extends (s : Scale) (c : Char) : Prop :=
  c.isDigit ∨ s.digits = [] ∧ s.sign = none ∧ (c = '+' ∨ c = '-')

namespace Numeral

structure Formed (n : Numeral) : Prop where
  whole_ne : n.whole ≠ []
  whole : ∀ c ∈ n.whole, c.isDigit
  fraction : ∀ ds ∈ n.fraction, ∀ c ∈ ds, c.isDigit
  scale : ∀ s ∈ n.scale, s.Formed

def Finished (n : Numeral) : Prop := ∀ s ∈ n.scale, s.digits ≠ []

def Extends (n : Numeral) (c : Char) : Prop :=
  match n.scale with
  | some s => s.Extends c
  | none => c.isDigit ∨ c = 'e' ∨ c = 'E' ∨ n.fraction = none ∧ c = '.'

def text (n : Numeral) : String := String.ofList n.chars

end Numeral

section Scans

variable {ds rest : List Char}

lemma takeWhile_digits (hd : ∀ c ∈ ds, c.isDigit) (hr : ∀ c ∈ rest.head?, c.isDigit = false) :
    (ds ++ rest).takeWhile Char.isDigit = ds ∧ (ds ++ rest).dropWhile Char.isDigit = rest := by
  rw [List.takeWhile_append_of_pos hd, List.dropWhile_append_of_pos hd]
  cases rest with
  | nil => exact ⟨List.append_nil ds, rfl⟩
  | cons c rest => simp [hr c rfl]

lemma isDigit_head?_dropWhile (cs : List Char) :
    ∀ c ∈ (cs.dropWhile Char.isDigit).head?, c.isDigit = false := by
  intro c hc
  have h := List.head?_dropWhile_not Char.isDigit cs
  rw [hc] at h
  exact h

end Scans

namespace Scale

variable {s : Scale} {rest : List Char}

lemma scanSign_append {sign : Option Char} (hs : ∀ c ∈ sign, c = '+' ∨ c = '-')
    (hr : sign = none → ∀ c ∈ rest.head?, c ≠ '+' ∧ c ≠ '-') :
    scanSign (sign.toList ++ rest) = (sign, rest) := by
  cases sign with
  | none => exact scanSign_of_ne (hr rfl)
  | some c => rcases hs c rfl with rfl | rfl <;> rfl

theorem scan_append (h : s.Formed) (hr : ∀ c ∈ rest.head?, ¬ s.Extends c) :
    scan (s.chars ++ rest) = (some s, rest) := by
  obtain ⟨letter, sign, digits⟩ := s
  obtain ⟨hl, hs, hd⟩ := h
  have hn : ∀ c ∈ rest.head?, c.isDigit = false := fun c hc =>
    Bool.eq_false_iff.mpr fun h => hr c hc (.inl h)
  have hsign : scanSign (sign.toList ++ (digits ++ rest)) = (sign, digits ++ rest) := by
    refine scanSign_append hs fun hnone c hc => ?_
    rw [← not_or]
    intro hc'
    cases digits with
    | nil => exact hr c hc (.inr ⟨rfl, hnone, hc'⟩)
    | cons d ds =>
      obtain rfl : d = c := Option.some.inj hc
      rcases hc' with rfl | rfl <;> cases hd _ List.mem_cons_self
  simp only [chars, List.cons_append, List.append_assoc, scan, if_pos hl, hsign,
    takeWhile_digits hd hn]

lemma scan_of_ne (h : ∀ c ∈ rest.head?, c ≠ 'e' ∧ c ≠ 'E') : scan rest = (none, rest) := by
  cases rest with
  | nil => rfl
  | cons c rest => rw [scan, if_neg (not_or.mpr (h c rfl))]

lemma sign_of_scanSign {cs : List Char} {sign : Option Char} (h : scanSign cs = (sign, rest)) :
    (∀ c ∈ sign, c = '+' ∨ c = '-') ∧ (sign = none → ∀ c ∈ rest.head?, ¬ (c = '+' ∨ c = '-')) := by
  unfold scanSign at h
  split at h
  · cases h
    simp
  · cases h
    simp
  · rename_i hp hm
    cases h
    refine ⟨by simp, fun _ c hc => ?_⟩
    obtain ⟨rest, rfl⟩ := List.head?_eq_some_iff.mp hc
    rintro (rfl | rfl)
    · exact hp rest rfl
    · exact hm rest rfl

lemma of_scan {cs : List Char} (h : scan cs = (some s, rest)) :
    s.Formed ∧ ∀ c ∈ rest.head?, ¬ s.Extends c := by
  cases cs with
  | nil => cases h
  | cons letter cs =>
    rw [scan] at h
    split at h
    · rename_i hl
      cases hs : scanSign cs with
      | mk sign cs =>
        obtain ⟨hsign, hnone⟩ := sign_of_scanSign hs
        simp only [hs] at h
        cases h
        refine ⟨⟨hl, hsign, fun _ => List.mem_takeWhile_imp⟩, ?_⟩
        rintro c hc (hd | ⟨hd, hn, hc'⟩)
        · exact absurd hd (Bool.eq_false_iff.mp (isDigit_head?_dropWhile cs c hc))
        · dsimp only at hd
          rw [← List.takeWhile_append_dropWhile (p := Char.isDigit) (l := cs), hd] at hnone
          exact hnone hn c hc hc'
    · cases h

lemma eq_of_scan_none {cs : List Char} (h : scan cs = (none, rest)) :
    rest = cs ∧ ∀ c ∈ rest.head?, ¬ (c = 'e' ∨ c = 'E') := by
  cases cs with
  | nil =>
    cases h
    exact ⟨rfl, by simp⟩
  | cons c cs =>
    rw [scan] at h
    split at h
    · cases h
    · rename_i hne
      cases h
      exact ⟨rfl, fun d hd => Option.some.inj hd ▸ hne⟩

end Scale

namespace Numeral

variable {n : Numeral} {c : Char} {cs rest : List Char}

lemma head?_scale (hs : ∀ s ∈ n.scale, s.Formed) (hr : ∀ c ∈ rest.head?, ¬ n.Extends c) :
    ∀ c ∈ (n.scale.elim [] Scale.chars ++ rest).head?,
      c.isDigit = false ∧ (n.fraction = none → c ≠ '.') := by
  intro c hc
  cases hn : n.scale with
  | none =>
    rw [hn] at hc
    have he := hr c hc
    rw [Extends, hn] at he
    simp only [not_or, not_and] at he
    exact ⟨Bool.eq_false_iff.mpr he.1, he.2.2.2⟩
  | some s =>
    rw [hn] at hc
    obtain rfl : s.letter = c := Option.some.inj hc
    rcases (hs s hn).letter with hl | hl <;> rw [hl] <;> exact ⟨rfl, fun _ => by decide⟩

lemma head?_fraction (hr : ∀ c ∈ rest.head?, c.isDigit = false) :
    ∀ c ∈ (n.fraction.elim [] ('.' :: ·) ++ rest).head?, c.isDigit = false := by
  cases n.fraction with
  | none => exact hr
  | some ds =>
    intro c hc
    obtain rfl : '.' = c := Option.some.inj hc
    rfl

lemma scanFraction_append (hf : ∀ ds ∈ n.fraction, ∀ c ∈ ds, c.isDigit)
    (hr : ∀ c ∈ rest.head?, c.isDigit = false ∧ (n.fraction = none → c ≠ '.')) :
    scanFraction (n.fraction.elim [] ('.' :: ·) ++ rest) = (n.fraction, rest) := by
  cases hn : n.fraction with
  | none => exact scanFraction_of_ne fun c hc => (hr c hc).2 hn
  | some ds =>
    obtain ⟨ht, hd⟩ := takeWhile_digits (hf ds hn) fun c hc => (hr c hc).1
    change (some ((ds ++ rest).takeWhile _), (ds ++ rest).dropWhile _) = _
    rw [ht, hd]

lemma scanScale_append (hs : ∀ s ∈ n.scale, s.Formed) (hr : ∀ c ∈ rest.head?, ¬ n.Extends c) :
    Scale.scan (n.scale.elim [] Scale.chars ++ rest) = (n.scale, rest) := by
  cases hn : n.scale with
  | none =>
    refine Scale.scan_of_ne fun c hc => ?_
    have he := hr c hc
    rw [Extends, hn] at he
    simp only [not_or] at he
    exact ⟨he.2.1, he.2.2.1⟩
  | some s =>
    refine Scale.scan_append (hs s hn) fun c hc => ?_
    have he := hr c hc
    rwa [Extends, hn] at he

theorem scan_append (h : n.Formed) (hr : ∀ c ∈ rest.head?, ¬ n.Extends c) :
    scan (n.chars ++ rest) = (n, rest) := by
  have hscale := head?_scale h.scale hr
  have hfraction := head?_fraction (n := n) fun c hc => (hscale c hc).1
  obtain ⟨ht, hd⟩ := takeWhile_digits h.whole hfraction
  simp only [scan, chars, List.append_assoc, ht, hd, scanFraction_append h.fraction hscale,
    scanScale_append h.scale hr]

lemma fraction_of_scan {fraction : Option (List Char)} (h : scanFraction cs = (fraction, rest)) :
    (∀ ds ∈ fraction, ∀ c ∈ ds, c.isDigit) ∧
      (fraction ≠ none → ∀ c ∈ rest.head?, c.isDigit = false) ∧
      (fraction = none → rest = cs ∧ ∀ c ∈ rest.head?, c ≠ '.') := by
  unfold scanFraction at h
  split at h
  · cases h
    refine ⟨?_, fun _ => isDigit_head?_dropWhile _, by simp⟩
    intro ds hds c
    obtain rfl := Option.some.inj hds
    exact List.mem_takeWhile_imp
  · rename_i hp
    cases h
    refine ⟨by simp, by simp, fun _ => ⟨rfl, ?_⟩⟩
    rintro c hc rfl
    obtain ⟨rest, rfl⟩ := List.head?_eq_some_iff.mp hc
    exact hp rest rfl

theorem of_scan (hc : c.isDigit) (h : scan (c :: cs) = (n, rest)) :
    n.Formed ∧ ∀ d ∈ rest.head?, ¬ n.Extends d := by
  rw [scan] at h
  cases hf : scanFraction ((c :: cs).dropWhile Char.isDigit) with
  | mk fraction behind =>
    cases hs : Scale.scan behind with
    | mk scale rest' =>
      simp only [hf, hs, Prod.mk.injEq] at h
      obtain ⟨rfl, rfl⟩ := h
      obtain ⟨hdigits, hsome, hnone⟩ := fraction_of_scan hf
      have hne : (c :: cs).takeWhile Char.isDigit ≠ [] := by
        rw [List.takeWhile_cons_of_pos hc]
        exact List.cons_ne_nil _ _
      have hw : ∀ d ∈ (c :: cs).takeWhile Char.isDigit, d.isDigit :=
        fun _ => List.mem_takeWhile_imp
      cases scale with
      | some s =>
        obtain ⟨hs, hr⟩ := Scale.of_scan hs
        exact ⟨⟨hne, hw, hdigits, fun s' hs' => Option.some.inj hs' ▸ hs⟩, hr⟩
      | none =>
        obtain ⟨rfl, he⟩ := Scale.eq_of_scan_none hs
        refine ⟨⟨hne, hw, hdigits, by simp⟩, fun d hd => ?_⟩
        simp only [Extends, not_or, not_and]
        refine ⟨?_, fun h => he d hd (.inl h), fun h => he d hd (.inr h),
          fun hn => (hnone hn).2 d hd⟩
        by_cases hn : fraction = none
        · rw [Bool.not_eq_true]
          rw [(hnone hn).1] at hd
          exact isDigit_head?_dropWhile _ d hd
        · rw [Bool.not_eq_true]
          exact hsome hn d hd

end Numeral

def Scale.power (s : Scale) : Int :=
  if s.sign = some '-' then -Nat.ofDigitChars 10 s.digits 0 else Nat.ofDigitChars 10 s.digits 0

def Decimal.Readable (d : Decimal) : Prop :=
  (if d.coefficient = 0 then d.exponent else d.adjusted) ≤ 999999999999999999 ∧
    -1999999999999999997 ≤ d.exponent

lemma Decimal.inRange_iff {d : Decimal} : d.inRange ↔ d.Readable := by
  have hz : d.coefficient = 0 → d.adjusted = d.exponent := by
    intro h
    rw [adjusted, digits, h]
    exact Int.add_sub_cancel _ _
  simp only [inRange, Readable, Bool.and_eq_true, decide_eq_true_eq]
  split
  · rename_i h
    rw [hz h]
  · rfl

namespace Numeral

/-- The number that a numeral stands for: no digit is lost, and no other is added. -/
structure Denotes (n : Numeral) (d : Decimal) : Prop where
  negative : d.negative = false
  digits : d.digits = Digits.unpadded n.mantissa
  exponent : d.exponent = n.scale.elim 0 Scale.power - (n.fraction.getD []).length

variable {n : Numeral} {d : Decimal}

lemma Formed.mantissa (h : n.Formed) : ∀ c ∈ n.mantissa, c.isDigit := by
  refine List.forall_mem_append.mpr ⟨h.whole, ?_⟩
  cases hf : n.fraction with
  | none => exact List.forall_mem_nil _
  | some ds => exact h.fraction ds hf

lemma Formed.mantissa_ne (h : n.Formed) : n.mantissa ≠ [] :=
  List.append_ne_nil_of_left_ne_nil h.whole_ne _

lemma scale_value? (hf : n.Finished) :
    n.scale.elim (some 0) Scale.value? = some (n.scale.elim 0 Scale.power) := by
  cases hs : n.scale with
  | none => rfl
  | some s => exact if_neg (hf s hs)

lemma Denotes.unique {d' : Decimal} (h : n.Denotes d) (h' : n.Denotes d') : d = d' := by
  have hc : d.coefficient = d'.coefficient := by
    have hd := congrArg (Nat.ofDigitChars 10 · 0) (h.digits.trans h'.digits.symm)
    simpa only [Decimal.digits, Nat.ofDigitChars_ten_toDigits] using hd
  obtain ⟨negative, coefficient, exponent⟩ := d
  obtain ⟨negative', coefficient', exponent'⟩ := d'
  rw [Decimal.mk.injEq]
  exact ⟨h.negative.trans h'.negative.symm, hc, h.exponent.trans h'.exponent.symm⟩

lemma exists_denotes (h : n.Formed) (hf : n.Finished) :
    ∃ d, n.Denotes d ∧ n.value? = if d.inRange then some d else none := by
  refine ⟨⟨false, Nat.ofDigitChars 10 n.mantissa 0,
    n.scale.elim 0 Scale.power - (n.fraction.getD []).length⟩,
    ⟨rfl, Digits.toDigits_ofDigitChars h.mantissa, rfl⟩, ?_⟩
  rw [value?, if_neg h.mantissa_ne, scale_value? hf]
  rfl

theorem value?_eq_some_iff (h : n.Formed) (hf : n.Finished) :
    n.value? = some d ↔ n.Denotes d ∧ d.Readable := by
  obtain ⟨d', hd', hv⟩ := exists_denotes h hf
  rw [hv]
  constructor
  · intro hs
    split at hs
    · rename_i hr
      cases hs
      exact ⟨hd', Decimal.inRange_iff.mp hr⟩
    · cases hs
  · rintro ⟨hd, hr⟩
    obtain rfl := hd.unique hd'
    rw [if_pos (Decimal.inRange_iff.mpr hr)]

lemma value?_eq_none (hf : ¬ n.Finished) : n.value? = none := by
  simp only [Finished, not_forall, not_not] at hf
  obtain ⟨s, hs, hd⟩ := hf
  have hv : n.scale.elim (some 0) Scale.value? = none := by
    rw [Option.mem_def.mp hs]
    exact if_pos hd
  rw [value?, hv]
  split <;> rfl

lemma finished_of_value? (h : n.value? = some d) : n.Finished := by
  by_contra hf
  rw [value?_eq_none hf] at h
  cases h

end Numeral

end CellFormula
