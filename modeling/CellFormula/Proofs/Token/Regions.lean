import CellFormula.Proofs.Token.Spans

namespace CellFormula

def Lexeme.fitsInside : Lexeme → Bool
  | literal _ => true
  | symbol s => s != .openSquare
  | string _ | error _ | number _ | special _ => false

lemma Cut.symbol_of_symbol? {c : Char} {rest : List Char} {cut : Cut}
    (h : symbol? c rest = some cut) : ∃ s, cut.lexeme = .symbol s ∧ s.chars.head? = some c := by
  obtain ⟨s, behind, hs, -, hl, -⟩ := chars_of_symbol? h
  refine ⟨s, hl, ?_⟩
  cases s <;> cases hs <;> rfl

lemma Cut.outside_of_symbol? {c : Char} {rest : List Char} {cut : Cut}
    (h : symbol? c rest = some cut) : outside c rest = .ok cut := by
  obtain ⟨s, -, hc⟩ := symbol_of_symbol? h
  have hne : c ≠ '#' ∧ c ≠ '"' ∧ c ≠ '\'' ∧ ¬ c.isDigit := by
    cases s <;> cases hc <;> decide
  obtain ⟨hcode, hstring, hname, hdigit⟩ := hne
  rw [outside, if_neg hcode, if_neg hstring, if_neg hname, dif_neg hdigit, h]

lemma Cut.symbol?_of_inside {c : Char} {rest : List Char} {cut : Cut} {s : Symbol}
    (h : inside c rest = .ok cut) (hl : cut.lexeme = .symbol s) : symbol? c rest = some cut := by
  have hplain {first width hw cs} (h : plainColumn first width hw cs = .ok cut) : False := by
    simp only [plainColumn] at h
    split at h <;> cases h
    cases hl
  simp only [inside] at h
  split at h
  · simp only [bracketedColumn] at h
    split at h <;> cases h
    cases hl
  · split at h
    · cases rest with
      | nil => cases h
      | cons d rest => exact (hplain h).elim
    · split at h
      · exact (hplain h).elim
      · split at h
        · rename_i hs
          cases h
          exact hs
        · cases h

namespace Region

def admits : Region → Lexeme → Bool
  | outside, _ => true
  | inside, w => w.fitsInside

def through : Region → List Lexeme → Option Region
  | region, [] => some region
  | region, w :: ws => if region.admits w then (region.next w).through ws else none

variable {region final : Region} {w : Lexeme} {ws vs : List Lexeme} {s : Symbol}

lemma through_cons_eq_some_iff : region.through (w :: ws) = some final ↔
    region.admits w ∧ (region.next w).through ws = some final := by
  rw [through]
  split <;> simp_all

lemma through_append (us vs : List Lexeme) :
    region.through (us ++ vs) = (region.through us).bind (·.through vs) := by
  induction us generalizing region with
  | nil => rfl
  | cons w us ih =>
    rw [List.cons_append, through, through, ih]
    split <;> rfl

lemma next_symbol (ho : s ≠ .openSquare) (hc : s ≠ .closeSquare) :
    region.next (.symbol s) = region := by
  cases s <;> first | contradiction | rfl

lemma next_inside (ho : w.fitsInside) (hc : w ≠ .symbol .closeSquare) : inside.next w = inside := by
  cases w with
  | symbol s =>
    refine next_symbol ?_ ?_
    · rintro rfl
      cases ho
    · rintro rfl
      exact hc rfl
  | _ => rfl

lemma fitsInside_of_through (h : inside.through (ws ++ vs) = some final)
    (hc : .symbol .closeSquare ∉ ws) : ∀ w ∈ ws, w.fitsInside := by
  induction ws with
  | nil => exact List.forall_mem_nil _
  | cons w ws ih =>
    obtain ⟨hw, h⟩ := through_cons_eq_some_iff.mp h
    rw [List.mem_cons, not_or] at hc
    rw [next_inside hw (Ne.symm hc.1)] at h
    exact List.forall_mem_cons.mpr ⟨hw, ih h hc.2⟩

section Cuts

variable {c : Char} {rest : List Char} {cut : Cut}

lemma fitsInside_plainColumn {first : Char} {width : Nat} {hw : 0 < width}
    (h : Cut.plainColumn first width hw rest = .ok cut) : cut.lexeme.fitsInside := by
  simp only [Cut.plainColumn] at h
  split at h
  · cases h
    rfl
  · cases h

lemma fitsInside_inside (h : Cut.inside c rest = .ok cut) : cut.lexeme.fitsInside := by
  simp only [Cut.inside] at h
  split at h
  · simp only [Cut.bracketedColumn] at h
    split at h
    · cases h
      rfl
    · cases h
  · rename_i hc
    split at h
    · cases rest with
      | nil => cases h
      | cons d rest => exact fitsInside_plainColumn h
    · split at h
      · exact fitsInside_plainColumn h
      · split at h
        · rename_i cut hs
          cases h
          obtain ⟨s, hs, hh⟩ := Cut.symbol_of_symbol? hs
          rw [hs, Lexeme.fitsInside, bne_iff_ne]
          rintro rfl
          exact hc (Option.some.inj hh).symm
        · cases h

lemma admits_cut (h : region.cut c rest = .ok cut) : region.admits cut.lexeme := by
  cases region with
  | outside => rfl
  | inside => exact fitsInside_inside h

lemma not_special_quotation {mark : Char} {lexeme : String → Lexeme} {s : Decimal.Special}
    (hl : ∀ text, lexeme text ≠ .special s) (h : Cut.quotation mark lexeme rest = .ok cut) :
    cut.lexeme ≠ .special s := by
  simp only [Cut.quotation] at h
  split at h <;> cases h
  exact hl _

lemma not_special_outside (h : Cut.outside c rest = .ok cut) (s : Decimal.Special) :
    cut.lexeme ≠ .special s := by
  simp only [Cut.outside] at h
  split at h
  · simp only [Cut.errorCode] at h
    split at h <;> cases h
    exact Lexeme.noConfusion
  · split at h
    · exact not_special_quotation (fun _ => Lexeme.noConfusion) h
    · split at h
      · exact not_special_quotation (fun _ => Lexeme.noConfusion) h
      · split at h
        · simp only [Cut.numeral] at h
          split at h <;> cases h
          exact Lexeme.noConfusion
        · split at h
          · rename_i hs
            cases h
            obtain ⟨sy, hs, -⟩ := Cut.symbol_of_symbol? hs
            rw [hs]
            exact Lexeme.noConfusion
          · split at h <;> cases h
            exact Lexeme.noConfusion

lemma not_special_cut (h : region.cut c rest = .ok cut) (s : Decimal.Special) :
    cut.lexeme ≠ .special s := by
  cases region with
  | outside => exact not_special_outside h s
  | inside =>
    intro hs
    have hf := fitsInside_inside h
    rw [hs] at hf
    cases hf

end Cuts

end Region

namespace Token

lemma through_scanFrom (formula : String) (region : Region) (offset : Nat) (cs : List Char) :
    ∃ final,
      region.through ((scanFrom formula region offset cs).items.map lexeme) = some final := by
  fun_induction scanFrom formula region offset cs with
  | case1 region _ | case3 region _ => exact ⟨region, rfl⟩
  | case2 _ _ _ _ _ ih => exact ih
  | case4 region offset c rest _ cut hc ih =>
    obtain ⟨final, ih⟩ := ih
    exact ⟨final, Region.through_cons_eq_some_iff.mpr ⟨Region.admits_cut hc, ih⟩⟩

lemma not_special_of_mem_scanFrom {formula : String} {region : Region} {offset : Nat}
    {cs : List Char} {t : Token} (h : t ∈ (scanFrom formula region offset cs).items)
    (s : Decimal.Special) : t.lexeme ≠ .special s := by
  fun_induction scanFrom formula region offset cs with
  | case1 | case3 => cases h
  | case2 _ _ _ _ _ ih => exact ih h
  | case4 region offset c rest _ cut hc ih =>
    rcases List.mem_cons.mp h with rfl | h
    · exact Region.not_special_cut hc s
    · exact ih h

lemma fitsInside_of_scan {text : String} {before inner after : List Token} {opener : Token}
    (h : (scan text).items = before ++ opener :: (inner ++ after))
    (ho : opener.lexeme = .symbol .openSquare) (hc : ∀ t ∈ inner, t.lexeme ≠ .symbol .closeSquare) :
    ∀ t ∈ inner, t.lexeme.fitsInside := by
  obtain ⟨final, ht⟩ := through_scanFrom text .outside 0 text.toList
  rw [scan] at h
  rw [h, List.map_append, Region.through_append, Option.bind_eq_some_iff] at ht
  obtain ⟨region, -, ht⟩ := ht
  rw [List.map_cons, ho, List.map_append] at ht
  obtain ⟨-, ht⟩ := Region.through_cons_eq_some_iff.mp ht
  have hi := Region.fitsInside_of_through ht (by simpa using hc)
  exact fun t ht => hi _ (List.mem_map_of_mem ht)

end Token

end CellFormula
