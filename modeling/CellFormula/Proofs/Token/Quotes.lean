import CellFormula.Proofs.Token.Seams

namespace CellFormula

open Token

inductive Quote where
  | string | name
  deriving DecidableEq

namespace Quote

def mark : Quote → Char
  | string => '"'
  | name => '\''

def lexeme : Quote → String → Lexeme
  | string => .string
  | name => .literal

def enclose (q : Quote) (text : List Char) : List Char :=
  q.mark :: (Quotation.encode q.mark text ++ [q.mark])

end Quote

lemma Cut.outside_mark (q : Quote) (rest : List Char) :
    outside q.mark rest = quotation q.mark q.lexeme rest := by
  cases q <;> rfl

namespace Token

def slice (text : String) (t : Token) : List Char :=
  (text.toList.drop t.start.toNat).take (t.stop - t.start).toNat

lemma slice_split {text : String} {t : Token} (h : t ∈ (scan text).items) : ∃ before behind,
    text.toList = before ++ (t.slice text ++ behind) ∧ t.start = before.length ∧
      t.stop = before.length + (t.slice text).length := by
  obtain ⟨h₁, h₂, h₃⟩ := lies_of_mem_scan h
  have hl : text.toList.length = text.length := String.length_toList
  refine ⟨text.toList.take t.start.toNat,
    (text.toList.drop t.start.toNat).drop (t.stop - t.start).toNat, ?_, ?_, ?_⟩
  · rw [slice, List.take_append_drop, List.take_append_drop]
  · rw [List.length_take]
    omega
  · rw [slice, List.length_take, List.length_take, List.length_drop]
    omega

lemma exists_cut_of_scanFrom {formula : String} {region : Region} {offset : Nat} {cs : List Char}
    {before after : List Token} {t : Token}
    (h : (scanFrom formula region offset cs).items = before ++ t :: after) :
    ∃ skipped c rest here cut, cs = skipped ++ c :: rest ∧
      region.through (before.map lexeme) = some here ∧ here.cut c rest = .ok cut ∧
      t = ⟨cut.lexeme, (offset + skipped.length : Nat),
        (offset + skipped.length : Nat) + cut.width⟩ := by
  fun_induction scanFrom formula region offset cs generalizing before with
  | case1 | case3 => cases before <;> cases h
  | case2 region offset c rest _ ih =>
    obtain ⟨skipped, d, tail, here, cut, rfl, hr, hc, rfl⟩ := ih h
    refine ⟨c :: skipped, d, tail, here, cut, rfl, hr, hc, ?_⟩
    rw [List.length_cons, Nat.add_assoc, Nat.add_comm 1]
  | case4 region offset c rest _ cut hcut ih =>
    cases before with
    | nil =>
      obtain ⟨rfl, -⟩ := List.cons.inj h
      exact ⟨[], c, rest, region, cut, rfl, rfl, hcut, rfl⟩
    | cons u before =>
      obtain ⟨rfl, ht⟩ := List.cons.inj h
      obtain ⟨skipped, d, tail, here, cut', hs, hr, hc, rfl⟩ := ih ht
      refine ⟨(c :: rest).take cut.width ++ skipped, d, tail, here, cut', ?_, ?_, hc, ?_⟩
      · rw [List.append_assoc, ← hs, List.take_append_drop]
      · exact Region.through_cons_eq_some_iff.mpr ⟨Region.admits_cut hcut, hr⟩
      · rw [List.length_append, Region.length_take_width hcut, ← Nat.add_assoc]

lemma slice_eq_take {formula : String} {skipped cs : List Char} {w : Lexeme} {n : Nat}
    (h : formula.toList = skipped ++ cs) :
    slice formula ⟨w, skipped.length, skipped.length + n⟩ = cs.take n := by
  have hn : ((skipped.length : Int) + n - skipped.length).toNat = n := by omega
  rw [slice, h, Int.toNat_natCast, List.drop_left, hn]

lemma exists_cut_of_scan {formula : String} {before after : List Token} {t : Token}
    (h : (scan formula).items = before ++ t :: after) :
    ∃ c rest here cut, Region.outside.through (before.map lexeme) = some here ∧
      here.cut c rest = .ok cut ∧ t.lexeme = cut.lexeme ∧
      t.slice formula = (c :: rest).take cut.width := by
  obtain ⟨skipped, c, rest, here, cut, hs, hr, hc, rfl⟩ := exists_cut_of_scanFrom h
  refine ⟨c, rest, here, cut, hr, hc, rfl, ?_⟩
  rw [Nat.zero_add]
  exact slice_eq_take hs

end Token

namespace Quote

variable (q : Quote) {formula : String} {offset : Nat} {text rest : List Char}

lemma isBlank_mark : Text.isBlank q.mark = false := by
  cases q <;> rfl

lemma length_enclose (text : List Char) :
    (q.enclose text).length = (Quotation.encode q.mark text).length + 2 := by
  rw [enclose, List.length_cons, List.length_append, List.length_singleton]

lemma enclose_append (text rest : List Char) :
    q.enclose text ++ rest = q.mark :: (Quotation.encode q.mark text ++ q.mark :: rest) := by
  rw [enclose, List.cons_append, List.append_assoc, List.singleton_append]

lemma next_lexeme (region : Region) (value : String) : region.next (q.lexeme value) = region := by
  cases q <;> rfl

theorem scanFrom_enclose (formula : String) (offset : Nat) (text : List Char)
    (h : rest.head? ≠ some q.mark) : scanFrom formula .outside offset (q.enclose text ++ rest) =
      .cons ⟨q.lexeme (String.ofList text), offset, offset + (q.enclose text).length⟩
        (scanFrom formula .outside (offset + (q.enclose text).length) rest) := by
  have hc : Region.outside.cut q.mark ((Quotation.encode q.mark text ++ [q.mark]) ++ rest) =
      .ok ⟨q.lexeme (String.ofList text), (Quotation.encode q.mark text).length + 2, by omega⟩ := by
    rw [Region.cut, Cut.outside_mark, Cut.quotation, List.append_assoc, List.singleton_append,
      Quotation.decode?_encode _ _ _ h]
  refine (scanFrom_cut_append q.isBlank_mark hc (q.length_enclose text).symm).trans ?_
  rw [next_lexeme]
  rfl

lemma quotation_eq_ok {cut : Cut} (h : Cut.outside q.mark rest = .ok cut) :
    ∃ text behind, q.mark :: rest = q.enclose text ++ behind ∧ behind.head? ≠ some q.mark ∧
      cut.lexeme = q.lexeme (String.ofList text) ∧ cut.width = (q.enclose text).length := by
  rw [Cut.outside_mark, Cut.quotation] at h
  split at h
  · rename_i text n hd
    cases h
    obtain ⟨behind, rfl, rfl, hb⟩ := Quotation.eq_encode_of_decode? hd
    exact ⟨text, behind, (q.enclose_append text behind).symm, hb, rfl, (q.length_enclose text).symm⟩
  · cases h

lemma slice_quoted {before after : List Token} {t : Token}
    (h : (scan formula).items = before ++ t :: after)
    (hr : Region.outside.through (before.map Token.lexeme) = some .outside)
    (hm : (t.slice formula).head? = some q.mark) :
    ∃ text, t.lexeme = q.lexeme (String.ofList text) ∧ t.slice formula = q.enclose text := by
  obtain ⟨c, rest, here, cut, hh, hc, hl, hs⟩ := exists_cut_of_scan h
  obtain rfl : here = .outside := Option.some.inj (hh.symm.trans hr)
  have hp := cut.width_pos
  rw [hs, List.head?_take, if_neg (Nat.ne_of_gt hp), List.head?_cons, Option.some.injEq] at hm
  subst hm
  obtain ⟨text, behind, he, -, hlex, hw⟩ := q.quotation_eq_ok hc
  refine ⟨text, hl.trans hlex, ?_⟩
  rw [hs, he, hw, List.take_left]

theorem scanFrom_eq_fail_iff (formula : String) (offset : Nat) (rest : List Char) :
    (∃ e, scanFrom formula .outside offset (q.mark :: rest) = .fail e ∧
      e.cause.fault = .unterminatedLiteral ∧ e.start = offset ∧
      e.stop = offset + (q.mark :: rest).length) ↔
    ¬ ∃ text behind, q.mark :: rest = q.enclose text ++ behind ∧ behind.head? ≠ some q.mark := by
  constructor
  · rintro ⟨e, he, -⟩ ⟨text, behind, hs, hb⟩
    rw [hs, q.scanFrom_enclose formula offset text hb] at he
    cases congrArg Source.items he
  · intro hn
    cases hc : Cut.outside q.mark rest with
    | ok cut =>
      obtain ⟨text, behind, hs, hb, -⟩ := q.quotation_eq_ok hc
      exact absurd ⟨text, behind, hs, hb⟩ hn
    | error e =>
      refine ⟨_, scanFrom_miscut q.isBlank_mark hc, ?_⟩
      rw [Cut.outside_mark, Cut.quotation] at hc
      split at hc
      · cases hc
      · cases hc
        exact ⟨rfl, Int.add_zero _, rfl⟩

structure RoundTrips (q : Quote) : Prop where
  decodes : ∀ (formula : String) (offset : Nat) (text rest : List Char), rest.head? ≠ some q.mark →
    scanFrom formula .outside offset (q.enclose text ++ rest) =
      .cons ⟨q.lexeme (String.ofList text), offset, offset + (q.enclose text).length⟩
        (scanFrom formula .outside (offset + (q.enclose text).length) rest)
  encodes : ∀ (formula : String) (before : List Token) (t : Token) (after : List Token),
    (scan formula).items = before ++ t :: after →
    Region.outside.through (before.map Token.lexeme) = some .outside →
    (t.slice formula).head? = some q.mark →
    ∃ text, t.lexeme = q.lexeme (String.ofList text) ∧ t.slice formula = q.enclose text
  fails : ∀ (formula : String) (offset : Nat) (rest : List Char),
    (∃ e, scanFrom formula .outside offset (q.mark :: rest) = .fail e ∧
      e.cause.fault = .unterminatedLiteral ∧ e.start = offset ∧
      e.stop = offset + (q.mark :: rest).length) ↔
    ¬ ∃ text behind, q.mark :: rest = q.enclose text ++ behind ∧ behind.head? ≠ some q.mark

theorem roundTrips (q : Quote) : q.RoundTrips where
  decodes formula offset text _ := q.scanFrom_enclose formula offset text
  encodes _ _ _ _ h hr hm := q.slice_quoted h hr hm
  fails := q.scanFrom_eq_fail_iff

end Quote

end CellFormula
