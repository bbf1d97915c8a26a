import CellFormula.Proofs.Decimal.Numerals
import CellFormula.Proofs.Parser.Completeness
import CellFormula.Proofs.Token.Seams

namespace CellFormula

namespace Cut

variable {n : Numeral} {c : Char} {cs rest : List Char}

lemma outside_of_isDigit (hc : c.isDigit) (rest : List Char) :
    outside c rest = numeral c hc rest := by
  have hne {d : Char} (hd : d.isDigit = false) : c ≠ d := by
    rintro rfl
    rw [hd] at hc
    cases hc
  rw [outside, if_neg (hne rfl), if_neg (hne rfl), if_neg (hne rfl), dif_pos hc]

lemma numeral_of_formed (h : n.Formed) (hr : ∀ d ∈ rest.head?, ¬ n.Extends d)
    (hn : n.chars = c :: cs) (hc : c.isDigit) : numeral c hc (cs ++ rest) =
      match n.value? with
      | none => .error ⟨.badNumeral n.text, 0, n.chars.length⟩
      | some d => .ok ⟨.number d, n.chars.length, by rw [hn]; exact Nat.zero_lt_succ _⟩ := by
  have hs : Numeral.scan (c :: (cs ++ rest)) = (n, rest) := by
    rw [← List.cons_append, ← hn]
    exact Numeral.scan_append h hr
  simp only [numeral, hs]
  rfl

end Cut

namespace Numeral

variable {n : Numeral}

lemma Formed.exists_chars (h : n.Formed) : ∃ c cs, n.chars = c :: cs ∧ c.isDigit := by
  obtain ⟨c, ds, hw⟩ := List.exists_cons_of_ne_nil h.whole_ne
  refine ⟨c, ds ++ n.fraction.elim [] ('.' :: ·) ++ n.scale.elim [] Scale.chars, ?_,
    h.whole c (hw ▸ List.mem_cons_self)⟩
  rw [chars, hw]
  rfl

end Numeral

namespace Token

variable {formula : String} {region : Region} {offset : Nat} {n : Numeral} {d : Decimal}
  {rest : List Char}

lemma scanFrom_number (h : n.Formed) (hv : n.value? = some d)
    (hr : ∀ c ∈ rest.head?, ¬ n.Extends c) :
    scanFrom formula .outside offset (n.chars ++ rest) =
      .cons ⟨.number d, offset, offset + n.chars.length⟩
        (scanFrom formula .outside (offset + n.chars.length) rest) := by
  obtain ⟨c, cs, hn, hc⟩ := h.exists_chars
  have hcut : Region.outside.cut c (cs ++ rest) =
      .ok ⟨.number d, n.chars.length, by rw [hn]; exact Nat.zero_lt_succ _⟩ := by
    rw [Region.cut, Cut.outside_of_isDigit hc, Cut.numeral_of_formed h hr hn]
    simp only [hv]
  rw [hn]
  exact scanFrom_cut_append (Text.isBlank_of_isDigit hc) hcut (congrArg List.length hn)

lemma scanFrom_badNumeral (h : n.Formed) (hv : n.value? = none)
    (hr : ∀ c ∈ rest.head?, ¬ n.Extends c) :
    scanFrom formula .outside offset (n.chars ++ rest) =
      .fail ⟨.badNumeral n.text, offset, offset + n.chars.length, formula⟩ := by
  obtain ⟨c, cs, hn, hc⟩ := h.exists_chars
  have hcut : Region.outside.cut c (cs ++ rest) =
      .error ⟨.badNumeral n.text, 0, n.chars.length⟩ := by
    rw [Region.cut, Cut.outside_of_isDigit hc, Cut.numeral_of_formed h hr hn]
    simp only [hv]
  rw [hn, List.cons_append, scanFrom_miscut (Text.isBlank_of_isDigit hc) hcut, ← hn]
  rw [Int.natCast_zero, Int.add_zero]

lemma scan_text (h : n.Formed) (hv : n.value? = some d) :
    scan n.text = .ofList [⟨.number d, 0, n.text.length⟩] := by
  have hs := @scanFrom_number n.text 0 n d [] h hv (by simp)
  rw [List.append_nil, scanFrom_nil, Int.natCast_zero, Int.zero_add] at hs
  rw [scan, Numeral.text, String.toList_ofList, String.length_ofList]
  exact hs

lemma scan_minus_text (h : n.Formed) (hv : n.value? = some d) : scan ("-" ++ n.text) =
    .ofList [⟨.symbol .subtract, 0, 1⟩, ⟨.number d, 1, 1 + n.text.length⟩] := by
  obtain ⟨c, cs, hn, hc⟩ := h.exists_chars
  have hp : Symbol.ofChars? ['-', c] = none := by
    cases hs : Symbol.ofChars? ['-', c] with
    | none => rfl
    | some s => rcases Symbol.ofChars?_pair hs with rfl | rfl <;> cases hc
  have hsymbol : Cut.symbol? '-' (c :: cs) = some ⟨.symbol .subtract, 1, Nat.one_pos⟩ := by
    rw [Cut.symbol?, List.head?_cons, Option.bind_some, hp]
    rfl
  have hminus : Region.outside.cut '-' (c :: cs) = .ok ⟨.symbol .subtract, 1, Nat.one_pos⟩ :=
    Cut.outside_of_symbol? hsymbol
  have ht : ("-" ++ n.text).toList = '-' :: n.chars := by simp [Numeral.text]
  have hs := @scanFrom_number ("-" ++ n.text) 1 n d [] h hv (by simp)
  rw [List.append_nil, scanFrom_nil] at hs
  calc scan ("-" ++ n.text)
    _ = scanFrom ("-" ++ n.text) .outside 0 ('-' :: n.chars) := by rw [scan, ht]
    _ = .cons ⟨.symbol .subtract, 0, 1⟩ (scanFrom ("-" ++ n.text) .outside 1 n.chars) := by
      rw [hn]
      exact scanFrom_cut rfl hminus
    _ = _ := by
      rw [hs, Numeral.text, String.length_ofList]
      rfl

end Token

namespace Numeral

variable {n : Numeral} {d : Decimal}

def RefusedIn (n : Numeral) (formula : String) : Prop :=
  ∃ e, Token.scan formula = .fail e ∧ e.diagnostic = ⟨.invalidNumber,
    "could not convert " ++ Text.quoted n.text ++ " into a number", 0, n.text.length, some formula⟩

lemma refusedIn (h : n.Formed) (hv : n.value? = none) {rest : List Char}
    (hr : ∀ c ∈ rest.head?, ¬ n.Extends c) : n.RefusedIn (n.text ++ String.ofList rest) := by
  have ht : (n.text ++ String.ofList rest).toList = n.chars ++ rest := by
    rw [text, String.toList_append, String.toList_ofList, String.toList_ofList]
  have hs := @Token.scanFrom_badNumeral (n.text ++ String.ofList rest) 0 n rest h hv hr
  refine ⟨_, by rw [Token.scan, ht]; exact hs, ?_⟩
  rw [text, String.length_ofList, Int.natCast_zero, Int.zero_add]
  rfl

lemma parse_minus_text (h : n.Formed) (hv : n.value? = some d) :
    Formula.parse ("-" ++ n.text) = .ok (some (.number d.negate)) := by
  rw [Formula.parse, Token.scan_minus_text h hv]
  refine Formula.parseTokens_eq_some_iff.mpr ?_
  exact .last (.plain (.negative rfl rfl)) (.immediateStop rfl) rfl

theorem readExactly (h : n.Formed) :
    (n.Finished → ∃ d, n.Denotes d ∧
      (d.Readable → Token.scan n.text = .ofList [⟨.number d, 0, n.text.length⟩] ∧
        Formula.parse ("-" ++ n.text) = .ok (some (.number { d with negative := true }))) ∧
      (¬ d.Readable → n.RefusedIn n.text)) ∧
    (¬ n.Finished → ∀ rest : List Char, (∀ c ∈ rest.head?, ¬ n.Extends c) →
      n.RefusedIn (n.text ++ String.ofList rest)) := by
  refine ⟨fun hf => ?_, fun hf rest hr => refusedIn h (value?_eq_none hf) hr⟩
  obtain ⟨d, hd, hv⟩ := exists_denotes h hf
  refine ⟨d, hd, fun hr => ?_, fun hr => ?_⟩
  · have hv := (value?_eq_some_iff h hf).mpr ⟨hd, hr⟩
    have hn : d.negate = { d with negative := true } := by rw [Decimal.negate, hd.negative]; rfl
    exact ⟨Token.scan_text h hv, hn ▸ parse_minus_text h hv⟩
  · rw [if_neg (Decimal.inRange_iff.not.mpr hr)] at hv
    have ht := @refusedIn n h hv [] (by simp)
    rwa [String.ofList_nil, String.append_empty] at ht

def padded : Numeral := ⟨['0', '0', '7'], some ['5', '0'], some ⟨'e', some '-', ['0', '2']⟩⟩

theorem readExactly_padded : padded.Formed ∧
    Token.scan "007.50e-02" = .ofList [⟨.number ⟨false, 750, -4⟩, 0, 10⟩] ∧
    Formula.parse "-007.50e-02" = .ok (some (.number ⟨true, 750, -4⟩)) := by
  have hscan : scan ['0', '0', '7', '.', '5', '0', 'e', '-', '0', '2'] = (padded, []) := rfl
  have h : padded.Formed := (of_scan rfl hscan).1
  have hf : padded.Finished := by
    rintro s ⟨⟩
    decide
  have hd : padded.Denotes ⟨false, 750, -4⟩ := ⟨rfl, by decide, by decide⟩
  obtain ⟨d, hd', hr, -⟩ := (readExactly h).1 hf
  obtain rfl := hd.unique hd'
  have hr := hr ⟨by decide, by decide⟩
  exact ⟨h, hr.1, hr.2⟩

end Numeral

end CellFormula
