import CellFormula.Token.Scan
import Mathlib.Tactic.Lemma

namespace CellFormula

def Symbol.Extends (s : Symbol) (c : Char) : Prop :=
  s = .less ∧ (c = '>' ∨ c = '=') ∨ s = .greater ∧ c = '='

lemma Numeral.length_chars_scan_le (cs : List Char) :
    (Numeral.scan cs).1.chars.length ≤ cs.length := by
  have h := congrArg List.length (Numeral.chars_scan cs)
  rw [List.length_append] at h
  omega

lemma ErrorCode.prefix_of_leading? {cs : List Char} {code : ErrorCode}
    (h : leading? cs = some code) : code.chars <+: cs := by
  have hp := List.find?_some h
  exact List.isPrefixOf_iff_prefix.mp hp

lemma Quotation.length_le {mark : Char} {cs text : List Char} {n : Nat}
    (h : decode? mark cs = some (text, n)) : n ≤ cs.length := by
  obtain ⟨rest, rfl, rfl, -⟩ := eq_encode_of_decode? h
  simp

namespace Column

lemma length_readPlain_le {cs text : List Char} {n : Nat} (h : readPlain cs = .ok (text, n)) :
    n ≤ cs.length := by
  fun_induction readPlain cs generalizing text n with
  | case1 | case7 | case10 =>
    cases h
    exact Nat.zero_le _
  | case2 | case4 | case6 | case9 => cases h
  | case3 _ _ _ _ hr ih | case5 _ _ _ _ _ _ _ hr ih | case8 _ _ _ _ hr _ _ _ ih =>
    cases h
    have := ih hr
    simp only [List.length_cons]
    omega

lemma bracketed?_lt_length {cs : List Char} {n : Nat} (h : bracketed? cs = some n) :
    n < cs.length := by
  fun_induction bracketed? cs generalizing n with
  | case1 | case2 => cases h
  | case3 _ _ ih | case5 _ _ _ _ _ ih =>
    obtain ⟨m, hm, rfl⟩ := Option.map_eq_some_iff.mp h
    have := ih hm
    simp only [List.length_cons]
    omega
  | case4 =>
    cases h
    exact Nat.zero_lt_succ _

end Column

namespace Cut

variable {c : Char} {rest : List Char} {cut : Cut}

lemma width_numeral_le {hc : c.isDigit} (h : numeral c hc rest = .ok cut) :
    cut.width ≤ rest.length + 1 := by
  simp only [numeral] at h
  split at h
  · cases h
  · cases h
    exact Numeral.length_chars_scan_le (c :: rest)

lemma width_name_le : (name c rest).width ≤ rest.length + 1 := by
  simp only [name]
  exact Nat.succ_le_succ (List.takeWhile_prefix _).length_le

lemma chars_of_symbol? (h : symbol? c rest = some cut) : ∃ s behind, c :: rest = s.chars ++ behind ∧
    (∀ d ∈ behind.head?, ¬ s.Extends d) ∧ cut.lexeme = .symbol s ∧ cut.width = s.chars.length := by
  simp only [symbol?] at h
  split at h
  · rename_i s hp
    cases h
    obtain ⟨d, hd, hp⟩ := Option.bind_eq_some_iff.mp hp
    obtain ⟨rest, rfl⟩ := List.head?_eq_some_iff.mp hd
    have hs := Symbol.chars_of_ofChars? hp
    refine ⟨s, rest, by rw [hs]; rfl, ?_, rfl, by rw [hs]; rfl⟩
    rintro e - (⟨rfl, -⟩ | ⟨rfl, -⟩) <;> cases hs
  · rename_i hn
    obtain ⟨s, ho, rfl⟩ := Option.map_eq_some_iff.mp h
    have hs := Symbol.chars_of_ofChars? ho
    refine ⟨s, rest, by rw [hs]; rfl, ?_, rfl, by rw [hs]; rfl⟩
    intro d hd he
    have hp : Symbol.ofChars? [c, d] = none := Option.bind_eq_none_iff.mp hn d hd
    rcases he with ⟨rfl, rfl | rfl⟩ | ⟨rfl, rfl⟩ <;> cases hs <;> cases hp

lemma width_symbol?_le (h : symbol? c rest = some cut) : cut.width ≤ rest.length + 1 := by
  obtain ⟨s, behind, hs, -, -, hw⟩ := chars_of_symbol? h
  rw [hw, ← List.length_cons, hs, List.length_append]
  exact Nat.le_add_right _ _

lemma width_errorCode_le (h : errorCode c rest = .ok cut) : cut.width ≤ rest.length + 1 := by
  simp only [errorCode] at h
  split at h
  · rename_i code hc
    cases h
    exact (ErrorCode.prefix_of_leading? hc).length_le
  · cases h

lemma width_quotation_le {mark : Char} {lexeme : String → Lexeme}
    (h : quotation mark lexeme rest = .ok cut) : cut.width ≤ rest.length + 1 := by
  simp only [quotation] at h
  split at h
  · rename_i text n hq
    cases h
    exact Nat.succ_le_succ (Quotation.length_le hq)
  · cases h

lemma width_bracketedColumn_le (h : bracketedColumn rest = .ok cut) :
    cut.width ≤ rest.length + 1 := by
  simp only [bracketedColumn] at h
  split at h
  · rename_i n hn
    cases h
    exact Nat.succ_le_succ (Column.bracketed?_lt_length hn)
  · cases h

lemma width_plainColumn_le {first : Char} {width : Nat} {hw : 0 < width}
    (h : plainColumn first width hw rest = .ok cut) : cut.width ≤ rest.length + width := by
  simp only [plainColumn] at h
  split at h
  · rename_i text n hn
    cases h
    exact Nat.add_le_add_right (Column.length_readPlain_le hn) width
  · cases h

lemma width_outside_le (h : outside c rest = .ok cut) : cut.width ≤ rest.length + 1 := by
  simp only [outside] at h
  split at h
  · exact width_errorCode_le h
  · split at h
    · exact width_quotation_le h
    · split at h
      · exact width_quotation_le h
      · split at h
        · exact width_numeral_le h
        · split at h
          · rename_i cut hs
            cases h
            exact width_symbol?_le hs
          · split at h
            · cases h
              exact width_name_le
            · cases h

lemma width_inside_le (h : inside c rest = .ok cut) : cut.width ≤ rest.length + 1 := by
  simp only [inside] at h
  split at h
  · exact width_bracketedColumn_le h
  · split at h
    · cases rest with
      | nil => cases h
      | cons d rest =>
        have hw : cut.width ≤ rest.length + 2 := width_plainColumn_le h
        exact hw
    · split at h
      · exact width_plainColumn_le h
      · split at h
        · rename_i cut hs
          cases h
          exact width_symbol?_le hs
        · cases h

end Cut

lemma Region.width_cut_le {region : Region} {c : Char} {rest : List Char} {cut : Cut}
    (h : region.cut c rest = .ok cut) : cut.width ≤ rest.length + 1 := by
  cases region with
  | outside => exact Cut.width_outside_le h
  | inside => exact Cut.width_inside_le h

lemma Region.length_take_width {region : Region} {c : Char} {rest : List Char} {cut : Cut}
    (h : region.cut c rest = .ok cut) : ((c :: rest).take cut.width).length = cut.width := by
  rw [List.length_take, List.length_cons, Nat.min_eq_left (width_cut_le h)]

namespace Token

section Steps

variable {formula : String} {region : Region} {offset : Nat} {c : Char} {rest : List Char}

lemma scanFrom_nil : scanFrom formula region offset [] = .empty := by
  rw [scanFrom.eq_def]

lemma scanFrom_cut {cut : Cut} (hc : Text.isBlank c = false) (h : region.cut c rest = .ok cut) :
    scanFrom formula region offset (c :: rest) =
      .cons ⟨cut.lexeme, offset, offset + cut.width⟩ (scanFrom formula (region.next cut.lexeme)
        (offset + cut.width) ((c :: rest).drop cut.width)) := by
  rw [scanFrom.eq_def]
  simp only [hc, h, Bool.false_eq_true, if_false]

end Steps

def Lies (first last : Nat) (t : Token) : Prop :=
  first ≤ t.start ∧ t.start < t.stop ∧ t.stop ≤ last

lemma Lies.mono {first first' last last' : Nat} {t : Token} (h : Lies first' last' t)
    (hf : first ≤ first') (hl : last' ≤ last) : Lies first last t := by
  obtain ⟨h₁, h₂, h₃⟩ := h
  refine ⟨?_, h₂, ?_⟩ <;> omega

lemma lies_of_mem_scanFrom {formula : String} {region : Region} {offset : Nat} {cs : List Char}
    {t : Token} (h : t ∈ (scanFrom formula region offset cs).items) :
    Lies offset (offset + cs.length) t := by
  fun_induction scanFrom formula region offset cs with
  | case1 | case3 => cases h
  | case2 region offset c rest _ ih =>
    refine (ih h).mono (Nat.le_succ offset) ?_
    rw [List.length_cons]
    omega
  | case4 region offset c rest _ cut hc ih =>
    have hw := Region.width_cut_le hc
    have hp := cut.width_pos
    rcases List.mem_cons.mp h with rfl | h
    · refine ⟨Int.le_refl _, ?_, ?_⟩
      · exact Int.lt_add_of_pos_right _ (Int.ofNat_lt.mpr hp)
      · rw [List.length_cons]
        dsimp only
        omega
    · refine (ih h).mono (Nat.le_add_right _ _) ?_
      rw [List.length_drop, List.length_cons]
      omega

theorem lies_of_mem_scan {formula : String} {t : Token} (h : t ∈ (scan formula).items) :
    Lies 0 formula.length t := by
  have hl := lies_of_mem_scanFrom h
  rwa [Nat.zero_add, String.length_toList] at hl

end Token

end CellFormula
