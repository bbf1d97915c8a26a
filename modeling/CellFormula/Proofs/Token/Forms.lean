import CellFormula.Proofs.Token.Failures
import CellFormula.Proofs.Token.Numbers
import CellFormula.Proofs.Token.Quotes

namespace CellFormula

namespace Lexeme

/-- `Form w cs next`: the characters `cs` write `w`, and do not go on with `next` behind them. -/
inductive Form : Lexeme → List Char → Option Char → Prop
  | quoted {q : Quote} {text next} : next ≠ some q.mark →
      Form (q.lexeme (String.ofList text)) (q.enclose text) next
  | name {c cs next} : Text.startsName c → cs.all Text.continuesName →
      (∀ d ∈ next, Text.continuesName d = false) →
      Form (.literal (String.ofList (c :: cs))) (c :: cs) next
  | number {n : Numeral} {d next} : n.Formed → n.Finished → n.Denotes d → d.Readable →
      (∀ c ∈ next, ¬ n.Extends c) → Form (.number d) n.chars next
  | symbol {s : Symbol} {next} : (∀ c ∈ next, ¬ s.Extends c) → Form (.symbol s) s.chars next
  | error {code : ErrorCode} {next} : Form (.error code) code.chars next

lemma Form.alone {w : Lexeme} {cs : List Char} {next : Option Char} (h : w.Form cs next) :
    w.Form cs none := by
  cases h with
  | quoted _ => exact .quoted (by simp)
  | name hc hcs _ => exact .name hc hcs (by simp)
  | number hf hn hd hr _ => exact .number hf hn hd hr (by simp)
  | symbol _ => exact .symbol (by simp)
  | error => exact .error

lemma Form.eq_chars {w : Lexeme} {cs : List Char} {next : Option Char} {s : Symbol}
    (h : w.Form cs next) (hw : w = .symbol s) : cs = s.chars := by
  cases h with
  | @quoted q => cases q <;> cases hw
  | symbol =>
    cases hw
    rfl
  | _ => cases hw

end Lexeme

lemma Symbol.extends_of_chars {s v : Symbol} {c d : Char} (hs : s.chars = [c])
    (hv : v.chars = [c, d]) : s.Extends d := by
  cases v <;> cases hv <;> cases s <;> cases hs
  · exact .inl ⟨rfl, .inl rfl⟩
  · exact .inl ⟨rfl, .inr rfl⟩
  · exact .inr ⟨rfl, rfl⟩

namespace Cut

open Lexeme

variable {c : Char} {cs rest : List Char} {cut : Cut} {w : Lexeme} {s : Symbol}

lemma form_of_numeral {hc : c.isDigit} (h : numeral c hc rest = .ok cut) :
    ∃ n d behind, c :: rest = Numeral.chars n ++ behind ∧ n.Formed ∧ n.Finished ∧ n.Denotes d ∧
      d.Readable ∧ (∀ e ∈ behind.head?, ¬ n.Extends e) ∧ cut.lexeme = .number d ∧
      cut.width = n.chars.length := by
  cases hs : Numeral.scan (c :: rest) with
  | mk n behind =>
    have hchars := Numeral.chars_scan (c :: rest)
    obtain ⟨hf, he⟩ := Numeral.of_scan hc hs
    simp only [numeral, hs] at h hchars
    split at h
    · cases h
    · rename_i d hv
      cases h
      have hn := Numeral.finished_of_value? hv
      obtain ⟨hd, hr⟩ := (Numeral.value?_eq_some_iff hf hn).mp hv
      exact ⟨n, d, behind, hchars.symm, hf, hn, hd, hr, he, rfl, rfl⟩

theorem form_of_outside (h : outside c rest = .ok cut) : ∃ cs behind, c :: rest = cs ++ behind ∧
    cut.lexeme.Form cs behind.head? ∧ cut.width = cs.length := by
  have hquote (q : Quote) (hc : c = q.mark) : ∃ cs behind, c :: rest = cs ++ behind ∧
      cut.lexeme.Form cs behind.head? ∧ cut.width = cs.length := by
    subst hc
    obtain ⟨text, behind, he, hb, hl, hw⟩ := q.quotation_eq_ok h
    exact ⟨q.enclose text, behind, he, hl ▸ .quoted hb, hw⟩
  by_cases hs : c = '"'
  · exact hquote .string hs
  by_cases hn : c = '\''
  · exact hquote .name hn
  simp only [outside, if_neg hs, if_neg hn] at h
  split at h
  · simp only [errorCode] at h
    split at h
    · rename_i code hcode
      cases h
      obtain ⟨behind, hb⟩ := ErrorCode.prefix_of_leading? hcode
      exact ⟨code.chars, behind, hb.symm, .error, rfl⟩
    · cases h
  split at h
  · obtain ⟨n, d, behind, he, hf, hn, hd, hr, hb, hl, hw⟩ := form_of_numeral h
    exact ⟨n.chars, behind, he, hl ▸ .number hf hn hd hr hb, hw⟩
  rename_i hdigit
  split at h
  · rename_i cut' hsymbol
    cases h
    obtain ⟨s, behind, he, hb, hl, hw⟩ := chars_of_symbol? hsymbol
    exact ⟨s.chars, behind, he, hl ▸ .symbol hb, hw⟩
  split at h
  · rename_i ha
    cases h
    have hstart : Text.startsName c := by
      simp only [Text.startsName, ha, hdigit, Bool.true_and, Bool.not_false]
    refine ⟨c :: rest.takeWhile Text.continuesName, rest.dropWhile Text.continuesName, ?_, ?_, rfl⟩
    · rw [List.cons_append, List.takeWhile_append_dropWhile]
    · refine .name hstart List.all_takeWhile fun d hd => ?_
      have := List.head?_dropWhile_not Text.continuesName rest
      rw [hd] at this
      exact this
  · cases h

lemma symbol?_chars (h : s.chars = c :: cs) (hr : ∀ d ∈ rest.head?, ¬ s.Extends d) :
    symbol? c (cs ++ rest) =
      some ⟨.symbol s, s.chars.length, by rw [h]; exact Nat.zero_lt_succ _⟩ := by
  have hpair : cs = [] → (rest.head?.bind fun d => Symbol.ofChars? [c, d]) = none := by
    rintro rfl
    refine Option.bind_eq_none_iff.mpr fun d hd => ?_
    cases hs : Symbol.ofChars? [c, d] with
    | none => rfl
    | some v => exact (hr d hd (Symbol.extends_of_chars h (Symbol.chars_of_ofChars? hs))).elim
  have hs := Symbol.ofChars?_chars s
  rw [h] at hs
  match cs with
  | [] =>
    rw [symbol?, List.nil_append, hpair rfl, hs]
    simp [h]
  | [d] => simp [symbol?, hs, h]
  | _ :: _ :: _ => cases s <;> cases h

theorem outside_of_form (h : w.Form (c :: cs) rest.head?) :
    ∃ cut, outside c (cs ++ rest) = .ok cut ∧ cut.lexeme = w ∧ cut.width = (c :: cs).length := by
  generalize hl : c :: cs = l at h
  cases h with
  | @quoted q text _ hr =>
    obtain ⟨rfl, rfl⟩ := List.cons.inj hl
    refine ⟨⟨q.lexeme (String.ofList text), (Quotation.encode q.mark text).length + 2, by omega⟩,
      ?_, rfl, (q.length_enclose text).symm⟩
    rw [outside_mark, quotation, List.append_assoc, List.singleton_append,
      Quotation.decode?_encode _ _ _ hr]
  | name hc hcs hr =>
    obtain ⟨rfl, rfl⟩ := List.cons.inj hl
    exact ⟨_, (outside_of_startsName hc).trans (congrArg _ (name_of_all hcs hr)), rfl, rfl⟩
  | @number n d _ hf hn hd hr he =>
    obtain ⟨c', cs', hn', hc⟩ := hf.exists_chars
    obtain ⟨rfl, rfl⟩ := List.cons.inj (hl.trans hn')
    have hv := (Numeral.value?_eq_some_iff hf hn).mpr ⟨hd, hr⟩
    have hcut := numeral_of_formed hf he hn' hc
    simp only [hv] at hcut
    exact ⟨_, (outside_of_isDigit hc _).trans hcut, rfl, rfl⟩
  | @symbol s _ hr =>
    exact ⟨_, outside_of_symbol? (symbol?_chars hl.symm hr), rfl, rfl⟩
  | @error code _ =>
    have hp : code.chars <+: c :: (cs ++ rest) := by
      rw [← hl]
      exact List.prefix_append (c :: cs) rest
    have hc : c = '#' := by cases code <;> cases hl <;> rfl
    refine ⟨⟨.error code, code.chars.length, code.length_chars_pos⟩, ?_, rfl, rfl⟩
    rw [outside, if_pos hc, errorCode, ErrorCode.leading?_of_prefix hp]

lemma exists_symbol? (h : s.chars.head? = some c) (rest : List Char) :
    ∃ cut, symbol? c rest = some cut := by
  have hs : (Symbol.ofChars? [c]).isSome := by cases s <;> cases h <;> rfl
  obtain ⟨s', hs⟩ := Option.isSome_iff_exists.mp hs
  rw [symbol?]
  split
  · exact ⟨_, rfl⟩
  · exact ⟨_, by rw [hs]; rfl⟩

lemma not_form_of_error {e : Miscut} (h : outside c rest = .error e)
    (hf : e.cause.fault = .unrecognizedCharacter) :
    e.start = 0 ∧ ¬ c.isDigit ∧ (∀ q : Quote, c ≠ q.mark) ∧
      ∀ w cs, Form w cs none → ¬ cs <+: c :: rest := by
  have hq (q : Quote) : c ≠ q.mark := by
    rintro rfl
    rw [outside_mark, quotation] at h
    split at h
    · cases h
    · cases h
      cases hf
  have hd : ¬ c.isDigit := by
    intro hc
    rw [outside_of_isDigit hc] at h
    simp only [numeral] at h
    split at h
    · cases h
      cases hf
    · cases h
  have h₀ : e.start = 0 := by
    obtain ⟨before, -, -, -, hs, -, -, hb⟩ := shows_outside h
    rw [hs, hb fun hn => by rw [hn] at hf; cases hf]
    rfl
  refine ⟨h₀, hd, hq, fun w cs hw hp => ?_⟩
  cases hw with
  | @quoted q => exact hq q (List.cons_prefix_cons.mp hp).1.symm
  | name hc =>
    rw [outside_of_startsName ((List.cons_prefix_cons.mp hp).1 ▸ hc)] at h
    cases h
  | number hn =>
    obtain ⟨c', cs', hn', hc⟩ := hn.exists_chars
    rw [hn'] at hp
    exact hd ((List.cons_prefix_cons.mp hp).1 ▸ hc)
  | @symbol s =>
    have hs : s.chars.head? = some c := by
      obtain ⟨t, ht⟩ := hp
      cases s <;> cases ht <;> rfl
    obtain ⟨cut, hcut⟩ := exists_symbol? hs rest
    rw [outside_of_symbol? hcut] at h
    cases h
  | @error code =>
    have hc : c = '#' := by
      obtain ⟨t, ht⟩ := hp
      cases code <;> cases ht <;> rfl
    rw [outside, if_pos hc, errorCode, ErrorCode.leading?_of_prefix hp] at h
    cases h

end Cut

lemma Region.take_of_symbol {region : Region} {c : Char} {rest : List Char} {cut : Cut}
    {s : Symbol} (h : region.cut c rest = .ok cut) (hl : cut.lexeme = .symbol s) :
    (c :: rest).take cut.width = s.chars := by
  cases region with
  | outside =>
    obtain ⟨cs, behind, hs, hf, hw⟩ := Cut.form_of_outside h
    rw [hs, hw, List.take_left, hf.eq_chars hl]
  | inside =>
    obtain ⟨s', behind, hs, -, hl', hw⟩ := Cut.chars_of_symbol? (Cut.symbol?_of_inside h hl)
    rw [hs, hw, List.take_left]
    exact (congrArg Symbol.chars (Lexeme.symbol.inj (hl.symm.trans hl'))).symm

namespace Lexeme.Form

open Cut

variable {v w : Lexeme} {us ws rest : List Char}

lemma ne_nil {next : Option Char} (h : w.Form ws next) : ws ≠ [] := by
  cases h with
  | quoted => exact List.cons_ne_nil _ _
  | name => exact List.cons_ne_nil _ _
  | number hf =>
    obtain ⟨c, cs, hn, -⟩ := hf.exists_chars
    exact hn ▸ List.cons_ne_nil c cs
  | @symbol s => cases s <;> exact List.cons_ne_nil _ _
  | @error code => cases code <;> exact List.cons_ne_nil _ _

lemma unique (hv : v.Form us none) (hw : w.Form us none) : v = w := by
  obtain ⟨c, cs, rfl⟩ := List.exists_cons_of_ne_nil hv.ne_nil
  obtain ⟨cut, hc, rfl, -⟩ := @outside_of_form c cs [] v hv
  obtain ⟨cut', hc', rfl, -⟩ := @outside_of_form c cs [] w hw
  cases hc.symm.trans hc'
  rfl

-- A longer form would begin with what the shorter one ends before, and then only one is cut of it.
theorem longest (hw : w.Form ws rest.head?) (hv : v.Form us none) (hp : us <+: ws ++ rest) :
    us = ws ∧ v = w ∨ us.length < ws.length := by
  rcases Nat.lt_trichotomy us.length ws.length with hl | hl | hl
  · exact .inr hl
  · obtain ⟨t, ht⟩ := hp
    obtain ⟨rfl, -⟩ := List.append_inj ht hl
    exact .inl ⟨rfl, hv.unique hw.alone⟩
  · obtain ⟨more, rfl⟩ : ws <+: us :=
      List.prefix_of_prefix_length_le (List.prefix_append ws rest) hp hl.le
    rw [List.prefix_append_right_inj] at hp
    obtain ⟨c, cs, rfl⟩ := List.exists_cons_of_ne_nil hw.ne_nil
    cases more with
    | nil => simp at hl
    | cons d more =>
      have hd : rest.head? = (d :: more).head? := by
        obtain ⟨t, rfl⟩ := hp
        rfl
      rw [hd] at hw
      obtain ⟨cut, hc, -, hwidth⟩ := outside_of_form hw
      obtain ⟨cut', hc', -, hwidth'⟩ := @outside_of_form c (cs ++ d :: more) [] v hv
      rw [List.append_nil] at hc'
      cases hc.symm.trans hc'
      rw [hwidth] at hwidth'
      simp at hwidth'

end Lexeme.Form

namespace Token

lemma slice_of_symbol {text : String} {t : Token} {s : Symbol} (h : t ∈ (scan text).items)
    (hl : t.lexeme = .symbol s) : t.slice text = s.chars := by
  obtain ⟨before, after, hi⟩ := List.append_of_mem h
  obtain ⟨c, rest, here, cut, -, hc, ht, hs⟩ := exists_cut_of_scan hi
  rw [hs, Region.take_of_symbol hc (ht.symm.trans hl)]

structure LongestMatch (text : String) : Prop where
  form : ∀ before t after, (scan text).items = before ++ t :: after →
    Region.outside.through (before.map lexeme) = some .outside →
    t.lexeme.Form (t.slice text) text.toList[t.stop.toNat]?
  longest : ∀ before t after, (scan text).items = before ++ t :: after →
    Region.outside.through (before.map lexeme) = some .outside →
    ∀ w cs, Lexeme.Form w cs none → cs <+: text.toList.drop t.start.toNat →
      cs = t.slice text ∧ w = t.lexeme ∨ cs.length < (t.slice text).length
  stray : ∀ e, (scan text).failure = some e → e.cause.fault = .unrecognizedCharacter →
    Region.outside.through ((scan text).items.map lexeme) = some .outside →
    ∃ c rest, text.toList.drop e.start.toNat = c :: rest ∧ ¬ c.isDigit ∧
      (∀ q : Quote, c ≠ q.mark) ∧ ∀ w cs, Lexeme.Form w cs none → ¬ cs <+: c :: rest

lemma form_of_scan {text : String} {before after : List Token} {t : Token}
    (h : (scan text).items = before ++ t :: after)
    (hr : Region.outside.through (before.map lexeme) = some .outside) :
    ∃ behind, text.toList.drop t.start.toNat = t.slice text ++ behind ∧
      text.toList[t.stop.toNat]? = behind.head? ∧ t.lexeme.Form (t.slice text) behind.head? := by
  obtain ⟨skipped, c, rest, here, cut, hs, hh, hc, rfl⟩ := exists_cut_of_scanFrom h
  obtain rfl : here = .outside := Option.some.inj (hh.symm.trans hr)
  obtain ⟨cs, behind, he, hf, hw⟩ := Cut.form_of_outside hc
  rw [Nat.zero_add, slice_eq_take hs, he, hw, List.take_left]
  refine ⟨behind, ?_, ?_, hf⟩
  · rw [Int.toNat_natCast, hs, List.drop_left, he]
  · rw [← Int.natCast_add, Int.toNat_natCast, ← List.head?_drop, ← List.drop_drop, hs,
      List.drop_left, he, List.drop_left]

theorem longestMatch (text : String) : LongestMatch text where
  form before t after h hr := by
    obtain ⟨behind, -, hn, hf⟩ := form_of_scan h hr
    rwa [hn]
  longest before t after h hr w cs hw hp := by
    obtain ⟨behind, hd, -, hf⟩ := form_of_scan h hr
    rw [hd] at hp
    exact hf.longest hw hp
  stray e h hf hr := by
    obtain ⟨skipped, c, rest, here, m, hs, hh, hm, rfl, -, -⟩ := exists_miscut_of_scanFrom h
    obtain rfl : here = .outside := Option.some.inj (hh.symm.trans hr)
    obtain ⟨h₀, hd, hq, hn⟩ := Cut.not_form_of_error hm hf
    refine ⟨c, rest, ?_, hd, hq, hn⟩
    rw [h₀, Int.natCast_zero, Int.add_zero, Int.toNat_natCast, Nat.zero_add, hs,
      List.drop_left]

end Token

end CellFormula
