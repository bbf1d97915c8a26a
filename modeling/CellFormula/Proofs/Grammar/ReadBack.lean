import CellFormula.Proofs.Grammar.Joins
import CellFormula.Proofs.Grammar.Lists

namespace CellFormula

namespace Expr

def item? : Expr → Option Expr
  | empty => none
  | e => some e

lemma item?_of_ne {e : Expr} (h : e ≠ .empty) : e.item? = some e := by
  cases e <;> first | rfl | exact (h rfl).elim

lemma getD_item? (e : Expr) : e.item?.getD .empty = e := by cases e <;> rfl

lemma writtenList_eq (es : List Expr) :
    writtenList es = [.symbol .comma].intercalate (es.map written) := by
  induction es with
  | nil => rfl
  | cons e es ih =>
    cases es with
    | nil => simp [writtenList]
    | cons e' es =>
      rw [writtenList_cons, writtenBehind_eq (List.cons_ne_nil _ _), ih]
      simp

lemma ofItems_map_item? {es : List Expr} (h : es ≠ [.empty]) : ofItems (es.map item?) = es := by
  rw [ofItems_of_ne, List.map_map]
  · exact (List.map_congr_left fun e _ => getD_item? e).trans (List.map_id es)
  · intro he
    obtain ⟨e, rfl, hn⟩ := List.map_eq_singleton_iff.mp he
    have hd := getD_item? e
    rw [hn] at hd
    exact h (hd ▸ rfl)

end Expr

namespace Parser

variable {fin : Option LexicalError} {ts us rest : List Token} {t : Token} {s : Symbol} {e : Expr}
  {ws : List Lexeme}

section Items

lemma over_of_separated (h : Separated fin rest) : Over fin rest := by
  cases rest with
  | nil => exact ⟨h, h⟩
  | cons t rest =>
    obtain ⟨s, ht, hs⟩ := h
    simp only [Over, Stops, Token.bindsFrom_of_symbol ht, Token.continues,
      Token.isSymbol_of_symbol ht, Token.startsOperand_of_symbol ht]
    revert hs
    cases s <;> decide

lemma fills_of_readsBack (h : e ≠ .empty → ReadsBack fin .compound e) :
    Fills fin e.written e.item? := by
  by_cases he : e = .empty
  · subst he
    rfl
  · rw [Expr.item?_of_ne he]
    exact fun ts more hts hm =>
      h he ts more hts (.of_stops (hm.stops blind_qualifies)) (over_of_separated hm)

lemma reads_opening {closer : Symbol} {opener : Token} {es : List Expr} (hc : closer.isClose)
    (ht : t.lexeme = .symbol closer) (hne : es ≠ [.empty])
    (he : ∀ e ∈ es, e ≠ .empty → ReadsBack fin .compound e)
    (hts : lexemes ts = Expr.writtenList es) :
    Reads fin (.items closer opener .opening) (ts ++ t :: rest) (.list es) rest := by
  have hf : List.Forall₂ (Fills fin) (es.map Expr.written) (es.map Expr.item?) :=
    List.forall₂_map_left_iff.mpr (List.forall₂_map_right_iff.mpr
      (List.forall₂_same.mpr fun e hm => fills_of_readsBack (he e hm)))
  rw [Expr.writtenList_eq] at hts
  have hr : Reads fin (.items closer opener .opening) (ts ++ t :: rest)
      (.list (Expr.ofItems (es.map Expr.item?))) rest := reads_ofItems hc ht hf hts
  rwa [Expr.ofItems_map_item? hne] at hr

end Items

lemma readsBack_operand (h : ReadsBack fin .operand e) : ReadsBack fin .factor e := by
  intro ts rest hts hc _ test _
  exact ⟨e, rest, h ts rest hts hc trivial, .refl⟩

lemma readsBack_range {a b : Expr} (ha : ReadsBack fin .factor a) (hb : ReadsBack fin .value b) :
    ReadsBack fin .factor (.range a b) := by
  intro ts rest hts hc _ test htest
  obtain ⟨us, t, vs, rfl, hu, ht, hv⟩ := between_of_lexemes hts
  have ha := ha us (t :: (vs ++ rest)) hu (.of_symbol ht (by decide)) trivial test htest
  rw [List.append_assoc, List.cons_append]
  refine ha.join (htest t _ ht rfl (by decide)) (.range ht ?_)
  exact hb vs rest hv hc.right.tail trivial

lemma readsBack_percent (h : ReadsBack fin .factor e) :
    ReadsBack fin .factor (.chain [(.percent, e)]) := by
  intro ts rest hts hc _ test htest
  simp only [Expr.written, Expr.writtenSteps, Step.around, List.append_nil] at hts
  obtain ⟨us, t, vs, rfl, hu, ht, hv⟩ := between_of_lexemes hts
  obtain rfl := List.map_eq_nil_iff.mp hv
  have he := h us (t :: rest) hu (.of_symbol ht (by decide)) trivial test htest
  rw [List.append_assoc, List.cons_append]
  exact he.join (htest t _ ht rfl (by decide)) (.percent ht)

lemma readsBack_negation (h : ReadsBack fin .operand e)
    (hn : ∀ l, e.written.head? = some l → l.isNumber = false) (hne : e.written ≠ []) :
    ReadsBack fin .operand (.chain [(.subtract, e)]) := by
  intro ts rest hts hc _
  simp only [Expr.written, Expr.writtenSteps, Step.around, List.append_nil] at hts hc
  obtain ⟨t, us, rfl, ht, hu⟩ := List.map_eq_cons_iff.mp hts
  refine .negation ht ?_ (h us rest hu hc.tail trivial)
  obtain ⟨u, us, rfl⟩ := List.exists_cons_of_ne_nil (ne_nil_of_lexemes hu hne)
  exact hn u.lexeme (hu ▸ rfl)

lemma readsBack_plain (h : ReadsBack fin .value e) : ReadsBack fin .operand e := by
  intro ts rest hts hc hs
  exact .plain (h ts rest hts hc hs)

section Values

variable {d : Decimal} {name : String} {es : List Expr}

lemma readsBack_number : ReadsBack fin .value (.number d) := by
  intro ts rest hts _ _
  rw [Expr.written] at hts
  split at hts
  · obtain ⟨t, us, rfl, ht, hu⟩ := List.map_eq_cons_iff.mp hts
    obtain ⟨u, rfl, hd⟩ := List.map_eq_singleton_iff.mp hu
    have hr : Reads fin .value (t :: u :: rest) (.expr (.number d.negate.negate)) rest :=
      .negative ht hd
    rwa [Decimal.negate_negate] at hr
  · obtain ⟨t, rfl, ht⟩ := List.map_eq_singleton_iff.mp hts
    exact .number ht

lemma readsBack_boolean {b : Bool} : ReadsBack fin .value (.boolean b) := by
  intro ts rest hts hc _
  obtain ⟨t, rfl, ht⟩ := List.map_eq_singleton_iff.mp hts
  refine .literal ht (.truth ?_ (hc _ rfl).1)
  cases b <;> rfl

lemma readsBack_cell (hn : truthValue? name = none) : ReadsBack fin .value (.cell name) := by
  intro ts rest hts hc _
  obtain ⟨t, rfl, ht⟩ := List.map_eq_singleton_iff.mp hts
  exact .literal ht (.cell hn ((hc name rfl).2 hn))

lemma readsBack_brackets : ReadsBack fin .value (.bracketed .empty) := by
  intro ts rest hts _ _
  obtain ⟨t, us, c, rfl, ht, hu, hc⟩ := enclosed_of_lexemes hts
  obtain rfl := List.map_eq_nil_iff.mp hu
  exact .brackets ht hc

lemma readsBack_bracketed (h : ReadsBack fin .compound e) :
    ReadsBack fin .value (.bracketed e) := by
  intro ts rest hts _ _
  obtain ⟨t, us, c, rfl, ht, hu, hc⟩ := enclosed_of_lexemes hts
  rw [List.cons_append, List.append_assoc]
  have hr : Reads fin .compound (us ++ c :: rest) (.expr e) (c :: rest) :=
    h us (c :: rest) hu (.of_symbol hc (by decide)) (over_of_separated (separated_of_symbol hc rfl))
  exact .bracketed ht hr hc

lemma readsBack_call (hne : es ≠ [.empty]) (he : ∀ e ∈ es, e ≠ .empty → ReadsBack fin .compound e) :
    ReadsBack fin .value (.call name es) := by
  intro ts rest hts _ _
  obtain ⟨t, us, rfl, ht, hts⟩ := List.map_eq_cons_iff.mp hts
  obtain ⟨u, us, c, rfl, hu, hts, hc⟩ := enclosed_of_lexemes hts
  rw [List.cons_append, List.cons_append, List.append_assoc]
  exact .literal ht (.call hu (reads_opening rfl hc hne he hts))

lemma readsBack_ofColumns (hne : es ≠ [.empty])
    (he : ∀ e ∈ es, e ≠ .empty → ReadsBack fin .compound e) :
    ReadsBack fin .value (.ofColumns es) := by
  intro ts rest hts _ _
  rw [Expr.written_ofColumns] at hts
  obtain ⟨t, us, c, rfl, ht, hu, hc⟩ := enclosed_of_lexemes hts
  rw [List.cons_append, List.append_assoc]
  exact .columns ht (reads_opening rfl hc hne he hu)

lemma ofColumns_of_two_le (h : 2 ≤ es.length) : Expr.ofColumns es = .structured (.union es) := by
  rcases es with _ | ⟨e, _ | ⟨e', es⟩⟩
  · cases h
  · exact absurd h (by simp)
  · rfl

lemma readsBack_sheet (hn : truthValue? name = none) (h : ReadsBack fin .value e) :
    ReadsBack fin .value (.sheet (.cell name) e) := by
  intro ts rest hts hc _
  obtain ⟨us, t, vs, rfl, hu, ht, hv⟩ := between_of_lexemes hts
  obtain ⟨u, rfl, hname⟩ := List.map_eq_singleton_iff.mp hu
  exact .literal hname (.sheet hn ht (h vs rest hv hc.right.tail trivial))

lemma readsBack_table (hn : truthValue? name = none) (h : ReadsBack fin .value (.structured e)) :
    ReadsBack fin .value (.table name (.structured e)) := by
  intro ts rest hts hc _
  obtain ⟨t, us, rfl, ht, hu⟩ := List.map_eq_cons_iff.mp hts
  have hr := h us rest hu hc.tail trivial
  obtain ⟨u, us, rfl, hu, -⟩ := List.map_eq_cons_iff.mp hu
  exact .literal ht (.table hn hu hr)

end Values

lemma legible_child {c : Expr} (hl : ∀ s : Expr, s.Within e → Legible s) (hc : c ∈ e.children) :
    ∀ s : Expr, s.Within c → Legible s :=
  fun s hs => hl s (.child hc hs)

lemma legible_left {a b : Expr} (hl : ∀ s : Expr, s.Within e → Legible s)
    (hc : e.children = [a, b]) : ∀ s : Expr, s.Within a → Legible s := by
  refine legible_child hl ?_
  rw [hc]
  exact List.mem_cons_self

lemma legible_right {a b : Expr} (hl : ∀ s : Expr, s.Within e → Legible s)
    (hc : e.children = [a, b]) : ∀ s : Expr, s.Within b → Legible s := by
  refine legible_child hl ?_
  rw [hc]
  exact List.mem_cons_of_mem _ List.mem_cons_self

theorem readsBack_of_shape {level : Level} (h : Shape level e)
    (hl : ∀ s : Expr, s.Within e → Legible s) : ReadsBack fin level e := by
  induction h with
  | string =>
    intro ts rest hts _ _
    obtain ⟨t, rfl, ht⟩ := List.map_eq_singleton_iff.mp hts
    exact .string ht
  | error =>
    intro ts rest hts _ _
    obtain ⟨t, rfl, ht⟩ := List.map_eq_singleton_iff.mp hts
    exact .error ht
  | number => exact readsBack_number
  | boolean => exact readsBack_boolean
  | cell => exact readsBack_cell (truthValue?_eq_none_iff.mpr ((hl _ .self).cell _ rfl))
  | brackets => exact readsBack_brackets
  | bracketed _ ih => exact readsBack_bracketed (ih (legible_child hl List.mem_cons_self))
  | call hne _ ih =>
    exact readsBack_call hne fun e he hempty => ih e he hempty (legible_child hl he)
  | sheet _ ih =>
    have hn := (hl _ (.child List.mem_cons_self .self)).cell _ rfl
    exact readsBack_sheet (truthValue?_eq_none_iff.mpr hn)
      (ih (legible_child hl (List.mem_cons_of_mem _ List.mem_cons_self)))
  | columns =>
    have hr : ReadsBack fin .value (.ofColumns []) := readsBack_ofColumns (by simp) (by simp)
    exact hr
  | @column e h ih =>
    have hr : ReadsBack fin .value (.ofColumns [e]) := by
      refine readsBack_ofColumns (fun he => h.ne_empty (List.cons.inj he).1) fun c hc _ => ?_
      obtain rfl := List.mem_singleton.mp hc
      exact ih (legible_child hl List.mem_cons_self)
    exact hr
  | union hlen _ ih =>
    rw [← ofColumns_of_two_le hlen]
    refine readsBack_ofColumns (fun he => ?_) fun e he hempty => ?_
    · rw [he] at hlen
      exact absurd hlen (by decide)
    · exact ih e he hempty (legible_child (legible_child hl List.mem_cons_self) he)
  | table _ ih =>
    have hn := (hl _ .self).table _ _ rfl
    have he := ih (legible_child hl List.mem_cons_self)
    exact readsBack_table (truthValue?_eq_none_iff.mpr hn) he
  | plain _ ih => exact readsBack_plain (ih hl)
  | negation h ih =>
    refine readsBack_negation (ih (legible_child hl List.mem_cons_self)) ?_ h.written_ne_nil
    exact fun l => isNumber_of_head?_written h fun d hd => (hl _ .self).negation d (hd ▸ rfl)
  | operand _ ih => exact readsBack_operand (ih hl)
  | range _ _ ih ih' =>
    exact readsBack_range (ih (legible_left hl rfl)) (ih' (legible_right hl rfl))
  | percent _ ih => exact readsBack_percent (ih (legible_child hl List.mem_cons_self))
  | single _ ih => exact readsBack_single (ih hl)
  | chain _ hne hsteps _ ih iho =>
    refine readsBack_chain (ih (legible_child hl List.mem_cons_self)) hne hsteps fun o ho => ?_
    have hm : o.2 ∈ List.map Prod.snd _ := List.mem_map_of_mem ho
    exact iho o ho (legible_child hl (List.mem_cons_of_mem _ hm))
  | sum _ ih => exact readsBack_sum (ih hl)
  | comparison _ _ ih ih' =>
    exact readsBack_comparison (ih (legible_left hl rfl)) (ih' (legible_right hl rfl))
  | compared _ ih => exact readsBack_compared (ih hl)
  | comparedJoin _ _ _ ih ih' ih'' =>
    have hr := legible_right hl rfl
    exact readsBack_comparedJoin (ih (legible_left hl rfl)) (ih' (legible_left hr rfl))
      (ih'' (legible_right hr rfl))
  | textJoin _ _ ih ih' =>
    exact readsBack_textJoin (ih (legible_left hl rfl)) (ih' (legible_right hl rfl))
  | intersection _ h ih ih' =>
    exact readsBack_intersection (ih (legible_left hl rfl)) (ih' (legible_right hl rfl))
      ((hl _ .self).intersection _ _ rfl) h.written_ne_nil

end Parser

namespace Formula

theorem parseTokens_of_written {e : Expr} {ts : List Token} (h : Shape .compound e)
    (hl : ∀ s : Expr, s.Within e → Legible s) (ht : ts.map Token.lexeme = e.written) :
    parseTokens (.ofList ts) = .ok (some e) := by
  refine parseTokens_eq_some_iff.mpr ?_
  have hb : Parser.ReadsBack none .compound e := Parser.readsBack_of_shape h hl
  have hr : Parser.Reads none .compound (ts ++ []) (.expr e) [] :=
    hb ts [] ht (.of_stops rfl) ⟨rfl, rfl⟩
  rwa [List.append_nil] at hr

-- `TRUE [A]>-B&G(,1)`
def seamed : List Token :=
  [⟨.literal "TRUE", 0, 4⟩, ⟨.symbol .openSquare, 5, 6⟩, ⟨.literal "A", 6, 7⟩,
    ⟨.symbol .closeSquare, 7, 8⟩, ⟨.symbol .greater, 8, 9⟩, ⟨.symbol .subtract, 9, 10⟩,
    ⟨.literal "B", 10, 11⟩, ⟨.symbol .ampersand, 11, 12⟩, ⟨.literal "G", 12, 13⟩,
    ⟨.symbol .openBracket, 13, 14⟩, ⟨.symbol .comma, 14, 15⟩, ⟨.number ⟨false, 1, 0⟩, 15, 16⟩,
    ⟨.symbol .closeBracket, 16, 17⟩]

def seam : Expr :=
  .intersection (.boolean true)
    (.comparison .greater (.structured (.cell "A"))
      (.textJoin (.chain [(.subtract, .cell "B")]) (.call "G" [.empty, .number ⟨false, 1, 0⟩])))

lemma shape_seam : Shape .compound seam := by
  have hs {e : Expr} (h : Shape .value e) : Shape (.chain .sum) e :=
    (Shape.operand (.plain h)).of_factor .sum
  refine .intersection (.sum (hs .boolean)) (.comparedJoin (.sum (hs (.column ?_))) ?_ ?_)
  · exact .compared (.sum (hs .cell))
  · exact (Shape.operand (.negation (.plain .cell))).of_factor .sum
  · have hn : Shape .compound (.number ⟨false, 1, 0⟩) := .compared (.sum (hs .number))
    refine .compared (.sum (hs (.call (by simp) ?_)))
    simp [hn]

lemma legible_seam : ∀ s : Expr, s.Within seam → Legible s := by
  have leaf {e : Expr} (he : e.children = []) (h : Legible e) :
      ∀ s : Expr, s.Within e → Legible s := h.within (he ▸ List.forall_mem_nil _)
  have one {e c : Expr} (he : e.children = [c]) (h : Legible e)
      (hc : ∀ s : Expr, s.Within c → Legible s) : ∀ s : Expr, s.Within e → Legible s :=
    h.within (he ▸ List.forall_mem_singleton.mpr hc)
  have two {e a b : Expr} (he : e.children = [a, b]) (h : Legible e)
      (ha : ∀ s : Expr, s.Within a → Legible s) (hb : ∀ s : Expr, s.Within b → Legible s) :
      ∀ s : Expr, s.Within e → Legible s :=
    h.within (he ▸ List.forall_mem_cons.mpr ⟨ha, List.forall_mem_singleton.mpr hb⟩)
  have hcell (name : String) (hn : name ≠ "TRUE" ∧ name ≠ "FALSE") : Legible (.cell name) := by
    refine ⟨?_, by simp, by simp, by simp⟩
    rintro _ ⟨rfl⟩
    exact hn
  rw [seam]
  refine two rfl ⟨by simp, by simp, by simp, ?_⟩ (leaf rfl (by constructor <;> simp)) ?_
  · rintro _ _ ⟨rfl, rfl⟩
    constructor <;> simp [Expr.written]
  refine two rfl (by constructor <;> simp) ?_ (two rfl (by constructor <;> simp) ?_ ?_)
  · exact one rfl (by constructor <;> simp) (leaf rfl (hcell "A" (by decide)))
  · exact one rfl (by constructor <;> simp) (leaf rfl (hcell "B" (by decide)))
  · refine two rfl (by constructor <;> simp) ?_ ?_
    · exact leaf rfl (by constructor <;> simp)
    · exact leaf rfl (by constructor <;> simp)

theorem parseTokens_seamed : parseTokens (.ofList seamed) = .ok (some seam) :=
  parseTokens_of_written shape_seam legible_seam rfl

end Formula

end CellFormula
