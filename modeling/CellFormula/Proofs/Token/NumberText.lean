import CellFormula.Proofs.Token.Forms

namespace CellFormula

lemma Digits.unpadded_replicate (k : Nat) (ds : List Char) :
    unpadded (List.replicate k '0' ++ ds) = unpadded ds := by
  induction k with
  | zero => rfl
  | succ k ih => exact ih

lemma Digits.unpadded_toDigits (n : Nat) : unpadded (Nat.toDigits 10 n) = Nat.toDigits 10 n := by
  rw [← toDigits_ofDigitChars (fun c => Nat.isDigit_of_mem_toDigits (by decide) (by decide)),
    Nat.ofDigitChars_ten_toDigits]

namespace Scale

def ofInt (n : Int) : Scale :=
  ⟨'E', some (if n < 0 then '-' else '+'), Nat.toDigits 10 n.natAbs⟩

lemma formed_ofInt (n : Int) : (ofInt n).Formed := by
  refine ⟨.inr rfl, ?_, fun c => Nat.isDigit_of_mem_toDigits (by decide) (by decide)⟩
  intro c hc
  obtain rfl := Option.some.inj hc
  split
  · exact .inr rfl
  · exact .inl rfl

lemma power_ofInt (n : Int) : (ofInt n).power = n := by
  simp only [power, ofInt, Nat.ofDigitChars_ten_toDigits]
  by_cases hn : n < 0
  · rw [if_pos hn, if_pos rfl]
    omega
  · rw [if_neg hn, if_neg (by decide)]
    omega

end Scale

namespace Numeral

def placed (ds : List Char) (whole : Int) (scale : Option Scale) : Numeral :=
  if whole ≤ 0 then ⟨['0'], some (List.replicate (-whole).toNat '0' ++ ds), scale⟩
  else if ds.length ≤ whole then ⟨ds, none, scale⟩
  else ⟨ds.take whole.toNat, some (ds.drop whole.toNat), scale⟩

section Placed

variable (ds : List Char) (whole : Int) (scale : Option Scale)

lemma scale_placed : (placed ds whole scale).scale = scale := by
  simp only [placed]
  split
  · rfl
  · split <;> rfl

lemma chars_placed : (placed ds whole scale).chars =
    Decimal.pointed ds whole ++ scale.elim [] Scale.chars := by
  simp only [placed, Decimal.pointed]
  split
  · rfl
  · split <;> simp [chars]

lemma mantissa_placed :
    ∃ k, (placed ds whole scale).mantissa = List.replicate k '0' ++ ds := by
  simp only [placed]
  split
  · exact ⟨(-whole).toNat + 1, rfl⟩
  · refine ⟨0, ?_⟩
    split <;> simp [mantissa]

variable {ds whole scale}

lemma length_fraction_placed (h : whole ≤ ds.length) :
    (((placed ds whole scale).fraction.getD []).length : Int) = ds.length - whole := by
  simp only [placed]
  split
  · simp only [Option.getD_some, List.length_append, List.length_replicate]
    omega
  · split
    · simp only [Option.getD_none, List.length_nil]
      omega
    · simp only [Option.getD_some, List.length_drop]
      omega

lemma formed_placed (hne : ds ≠ []) (hd : ∀ c ∈ ds, c.isDigit) (hs : ∀ s ∈ scale, s.Formed) :
    (placed ds whole scale).Formed := by
  simp only [placed]
  split
  · refine ⟨List.cons_ne_nil _ _, List.forall_mem_singleton.mpr rfl, ?_, hs⟩
    rintro _ ⟨⟩ c hc
    rcases List.mem_append.mp hc with hc | hc
    · rw [List.eq_of_mem_replicate hc]
      rfl
    · exact hd c hc
  · split
    · exact ⟨hne, hd, by simp, hs⟩
    · refine ⟨?_, fun c hc => hd c (List.mem_of_mem_take hc), ?_, hs⟩
      · simp only [ne_eq, List.take_eq_nil_iff, hne, or_false]
        omega
      · rintro _ ⟨⟩ c hc
        exact hd c (List.mem_of_mem_drop hc)

end Placed

end Numeral

namespace Decimal

def numeral (d : Decimal) : Numeral :=
  if d.exponent ≤ 0 ∧ -6 ≤ d.adjusted then .placed d.digits (d.adjusted + 1) none
  else .placed d.digits 1 (some (.ofInt d.adjusted))

variable (d : Decimal)

lemma isDigit_of_mem_digits : ∀ c ∈ d.digits, c.isDigit :=
  fun _ => Nat.isDigit_of_mem_toDigits (by decide) (by decide)

lemma length_digits_pos : 0 < d.digits.length := Nat.length_toDigits_pos

lemma digits_ne_nil : d.digits ≠ [] := List.ne_nil_of_length_pos d.length_digits_pos

lemma formed_numeral : d.numeral.Formed := by
  rw [numeral]
  split
  · exact Numeral.formed_placed d.digits_ne_nil d.isDigit_of_mem_digits (by simp)
  · refine Numeral.formed_placed d.digits_ne_nil d.isDigit_of_mem_digits ?_
    rintro _ ⟨⟩
    exact Scale.formed_ofInt _

lemma finished_numeral : d.numeral.Finished := by
  rw [numeral, Numeral.Finished]
  split
  · simp [Numeral.scale_placed]
  · rw [Numeral.scale_placed]
    rintro _ ⟨⟩
    exact List.ne_nil_of_length_pos Nat.length_toDigits_pos

lemma chars_numeral : d.numeral.chars = d.unsignedChars := by
  rw [numeral, unsignedChars]
  split
  · rw [Numeral.chars_placed]
    exact List.append_nil _
  · rw [Numeral.chars_placed]
    rfl

lemma digits_numeral : d.digits = Digits.unpadded d.numeral.mantissa := by
  have h (whole : Int) (scale : Option Scale) :
      d.digits = Digits.unpadded (Numeral.placed d.digits whole scale).mantissa := by
    obtain ⟨k, hk⟩ := Numeral.mantissa_placed d.digits whole scale
    rw [hk, Digits.unpadded_replicate, digits, Digits.unpadded_toDigits]
  rw [numeral]
  split
  · exact h _ _
  · exact h _ _

lemma exponent_numeral : d.exponent =
    d.numeral.scale.elim 0 Scale.power - (d.numeral.fraction.getD []).length := by
  have hl := d.length_digits_pos
  have ha : d.adjusted = d.exponent + d.digits.length - 1 := rfl
  rw [numeral]
  split
  · rw [Numeral.length_fraction_placed (by omega), Numeral.scale_placed]
    dsimp only [Option.elim]
    omega
  · rw [Numeral.length_fraction_placed (by omega), Numeral.scale_placed]
    dsimp only [Option.elim]
    rw [Scale.power_ofInt]
    omega

variable {d}

lemma denotes_numeral (h : d.negative = false) : d.numeral.Denotes d :=
  ⟨h, d.digits_numeral, d.exponent_numeral⟩

lemma text_numeral (h : d.negative = false) : d.numeral.text = d.text := by
  rw [Numeral.text, text, chars_numeral, h]
  rfl

end Decimal

lemma Lexeme.Form.number_readable {d : Decimal} {cs : List Char} {next : Option Char}
    (h : Lexeme.Form (.number d) cs next) : d.negative = false ∧ d.Readable := by
  generalize hw : Lexeme.number d = w at h
  cases h with
  | number _ _ hn hr =>
    cases hw
    exact ⟨hn.negative, hr⟩
  | @quoted q => cases q <;> cases hw
  | name | symbol | error => cases hw

namespace Token

variable {formula : String} {t : Token} {d : Decimal}

lemma number_of_scan (h : t ∈ (scan formula).items) (hd : t.lexeme = .number d) :
    d.negative = false ∧ d.Readable := by
  obtain ⟨before, after, h⟩ := List.append_of_mem h
  obtain ⟨c, rest, here, cut, -, hc, hl, -⟩ := exists_cut_of_scan h
  rw [hd] at hl
  cases here with
  | inside =>
    have hi := Region.fitsInside_inside hc
    rw [← hl] at hi
    cases hi
  | outside =>
    obtain ⟨cs, behind, -, hf, -⟩ := Cut.form_of_outside hc
    rw [← hl] at hf
    exact hf.number_readable

lemma scan_number_text (h : t ∈ (scan formula).items) (hd : t.lexeme = .number d) :
    scan t.text = .ofList [⟨.number d, 0, t.text.length⟩] := by
  obtain ⟨hs, hr⟩ := number_of_scan h hd
  have hv := (Numeral.value?_eq_some_iff d.formed_numeral d.finished_numeral).mpr
    ⟨Decimal.denotes_numeral hs, hr⟩
  have ht : t.text = d.numeral.text := by
    rw [Decimal.text_numeral hs, text, hd]
    rfl
  rw [ht]
  exact scan_text d.formed_numeral hv

theorem number_roundTrips (h : t ∈ (scan formula).items) (hd : t.lexeme = .number d) :
    scan t.text = .ofList [⟨.number d, 0, t.text.length⟩] ∧
      ∀ (formula' : String) (t' : Token) (d' : Decimal), t' ∈ (scan formula').items →
        t'.lexeme = .number d' → t'.text = t.text → d' = d := by
  refine ⟨scan_number_text h hd, fun formula' t' d' h' hd' ht => ?_⟩
  have hs := scan_number_text h' hd'
  rw [ht, scan_number_text h hd] at hs
  cases hs
  rfl

theorem number_roundTrips_scientific :
    (scan "120e-9").items = [⟨.number ⟨false, 120, -9⟩, 0, 6⟩] ∧
      scan "1.20E-7" = .ofList [⟨.number ⟨false, 120, -9⟩, 0, 7⟩] := by
  have hn : Numeral.Formed ⟨['1', '2', '0'], none, some ⟨'e', some '-', ['9']⟩⟩ :=
    (@Numeral.of_scan _ '1' ['2', '0', 'e', '-', '9'] [] rfl rfl).1
  have h : scan "120e-9" = .ofList [⟨.number ⟨false, 120, -9⟩, 0, 6⟩] := scan_text hn (by decide)
  have ht : Decimal.text ⟨false, 120, -9⟩ = "1.20E-7" := by decide
  have hm : ⟨.number ⟨false, 120, -9⟩, 0, 6⟩ ∈ (scan "120e-9").items := by
    rw [h]
    exact List.mem_singleton_self _
  obtain ⟨hr, -⟩ := number_roundTrips hm rfl
  rw [text, Lexeme.text, ht] at hr
  exact ⟨congrArg Source.items h, hr⟩

end Token

end CellFormula
