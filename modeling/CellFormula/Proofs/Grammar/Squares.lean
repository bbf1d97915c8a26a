import CellFormula.Proofs.Grammar.Shape
import CellFormula.Proofs.Grammar.Written
import CellFormula.Proofs.Token.Regions

namespace CellFormula

namespace Expr

def fitsInside : Expr → Bool
  | string _ | error _ | number _ | structured _ | table _ _ => false
  | _ => true

end Expr

def Region.under (region : Region) : Expr → Region
  | .structured _ => inside
  | _ => region

inductive Respects : Region → Expr → Prop
  | node {region e} : (region = .inside → e.fitsInside) →
      (∀ c ∈ e.children, Respects (region.under e) c) → Respects region e

namespace Respects

variable {region : Region} {e s columns : Expr} {es : List Expr}

lemma leaf (hc : e.children = []) (h : region = .inside → e.fitsInside) : Respects region e :=
  .node h (by simp [hc])

lemma inner {a : Expr} (hc : e.children = [a]) (hu : region.under e = region)
    (h : region = .inside → e.fitsInside) (ha : Respects region a) : Respects region e :=
  .node h (by simpa [hc, hu] using ha)

lemma pair {a b : Expr} (hc : e.children = [a, b]) (hu : region.under e = region)
    (h : region = .inside → e.fitsInside) (ha : Respects region a) (hb : Respects region b) :
    Respects region e :=
  .node h (by simpa [hc, hu] using ⟨ha, hb⟩)

lemma chain {operations : List (Step × Expr)} (h : ∀ o ∈ operations, Respects region o.2) :
    Respects region (.chain operations) := by
  refine .node (fun _ => rfl) fun c hc => ?_
  obtain ⟨o, ho, rfl⟩ := List.mem_map.mp hc
  exact h o ho

lemma empty : Respects region .empty := leaf rfl fun _ => rfl

lemma ofColumns (h : ∀ e ∈ es, Respects .inside e) : Respects .outside (.ofColumns es) := by
  have hs {e : Expr} (he : Respects .inside e) : Respects .outside (.structured e) :=
    .node (by simp) (List.forall_mem_singleton.mpr he)
  rcases es with _ | ⟨e, _ | ⟨e', es⟩⟩
  · exact hs .empty
  · exact hs (h e List.mem_cons_self)
  · exact hs (.node (fun _ => rfl) h)

lemma within (h : Respects region e) (hs : s.Within e) : ∃ region', Respects region' s := by
  induction hs generalizing region with
  | self => exact ⟨region, h⟩
  | child hm _ ih =>
    obtain ⟨-, hc⟩ := h
    exact ih (hc _ hm)

lemma fitsInside (h : Respects .inside e) (hs : s.Within e) : s.fitsInside := by
  induction hs with
  | self =>
    obtain ⟨he, -⟩ := h
    exact he rfl
  | @child c e hm _ ih =>
    obtain ⟨-, hc⟩ := h
    have hi : Region.inside.under e = .inside := by cases e <;> rfl
    exact ih (hi ▸ hc _ hm)

lemma columns_of_structured (h : Respects region (.structured columns)) :
    Respects .inside columns := by
  obtain ⟨-, hc⟩ := h
  exact hc _ List.mem_cons_self

end Respects

namespace Parser

variable {fin : Option LexicalError} {c : Call} {ts us rest : List Token} {a : Answer} {t : Token}
  {s : Symbol} {region final : Region} {e : Expr}

def Leads (region : Region) (ts : List Token) (final : Region) : Prop :=
  region.through (lexemes ts) = some final

lemma Leads.cons {w : Lexeme} (h : Leads region (t :: ts) final) (ht : t.lexeme = w) :
    region.admits w ∧ Leads (region.next w) ts final := by
  subst ht
  exact Region.through_cons_eq_some_iff.mp h

lemma Leads.symbol (h : Leads region (t :: ts) final) (ht : t.lexeme = .symbol s)
    (hs : region.next (.symbol s) = region) : Leads region ts final := by
  have h := (h.cons ht).2
  rwa [hs] at h

lemma Leads.step {step : Step} (h : Leads region (t :: ts) final) (ht : t.lexeme = .symbol s)
    (hs : Step.ofSymbol? s = some step) : Leads region ts final :=
  h.symbol ht (by cases s <;> cases hs <;> rfl)

lemma Leads.openSquare (h : Leads region (t :: ts) final) (ht : t.lexeme = .symbol .openSquare) :
    region = .outside ∧ Leads .inside ts final := by
  obtain ⟨ha, h⟩ := h.cons ht
  cases region with
  | outside => exact ⟨rfl, h⟩
  | inside => cases ha

def Stays : Call → List Token → Answer → List Token → Prop
  | .compound, ts, .expr e, rest | .operand, ts, .expr e, rest | .value, ts, .expr e, rest
  | .named _, ts, .expr e, rest => ∀ region final, Leads region ts final →
    Leads region rest final ∧ Respects region e
  | .items closer _ _, ts, .list es, rest => ∀ region final, Leads region ts final →
    Leads (region.next (.symbol closer)) rest final ∧ ∀ e ∈ es, Respects region e
  | .immediateJoins left, ts, .expr e, rest | .tighterJoins _ left, ts, .expr e, rest
  | .join _ left, ts, .expr e, rest => ∀ region final, Leads region ts final →
    Leads region rest final ∧ (Respects region left → Respects region e)
  | .chainSteps .., ts, .steps operations, rest => ∀ region final, Leads region ts final →
    Leads region rest final ∧ ∀ o ∈ operations, Respects region o.2
  | _, _, _, _ => True

theorem stays_of_reads (h : Reads fin c ts a rest) : Stays c ts a rest := by
  induction h with
  | last _ _ _ ih ih' =>
    intro region final h
    obtain ⟨h, he⟩ := ih region final h
    exact (ih' region final h).imp_right fun hj => hj he
  | textJoin _ _ ht _ ih ih' ih'' =>
    intro region final h
    obtain ⟨h, he⟩ := ih region final h
    obtain ⟨h, he'⟩ := ih' region final h
    obtain ⟨h, hr⟩ := ih'' region final (h.symbol ht rfl)
    exact ⟨h, .pair rfl rfl (fun _ => rfl) (he' he) hr⟩
  | intersection _ _ _ ih ih' ih'' =>
    intro region final h
    obtain ⟨h, he⟩ := ih region final h
    obtain ⟨h, he'⟩ := ih' region final h
    obtain ⟨h, hr⟩ := ih'' region final h
    exact ⟨h, .pair rfl rfl (fun _ => rfl) (he' he) hr⟩
  | plain _ ih => exact ih
  | negation ht _ _ ih =>
    intro region final h
    obtain ⟨h, he⟩ := ih region final (h.symbol ht rfl)
    exact ⟨h, .chain (by simpa using he)⟩
  | literal ht _ ih => exact fun region final h => ih region final (h.cons ht).2
  | string ht | error ht | number ht =>
    intro region final h
    obtain ⟨ha, h⟩ := h.cons ht
    refine ⟨h, .leaf rfl ?_⟩
    rintro rfl
    exact ha
  | negative ht hn =>
    intro region final h
    obtain ⟨ha, h⟩ := (h.symbol ht rfl).cons hn
    refine ⟨h, .leaf rfl ?_⟩
    rintro rfl
    exact ha
  | brackets ht hc =>
    intro region final h
    have h := (h.symbol ht rfl).symbol hc rfl
    exact ⟨h, .inner rfl rfl (fun _ => rfl) .empty⟩
  | bracketed ht _ hc ih =>
    intro region final h
    obtain ⟨h, he⟩ := ih region final (h.symbol ht rfl)
    exact ⟨h.symbol hc rfl, .inner rfl rfl (fun _ => rfl) he⟩
  | columns ht _ ih =>
    intro region final h
    obtain ⟨rfl, hi⟩ := h.openSquare ht
    obtain ⟨h, he⟩ := ih .inside final hi
    exact ⟨h, .ofColumns he⟩
  | call ht _ ih =>
    intro region final h
    obtain ⟨h, he⟩ := ih region final (h.symbol ht rfl)
    exact ⟨h, .node (fun _ => rfl) he⟩
  | truth | cell => exact fun _ _ h => ⟨h, .leaf rfl fun _ => rfl⟩
  | sheet _ ht _ ih =>
    intro region final h
    obtain ⟨h, he⟩ := ih region final (h.symbol ht rfl)
    exact ⟨h, .pair rfl rfl (fun _ => rfl) (.leaf rfl fun _ => rfl) he⟩
  | table _ ht _ ih =>
    intro region final h
    obtain ⟨rfl, -⟩ := h.openSquare ht
    obtain ⟨h, he⟩ := ih .outside final h
    exact ⟨h, .inner rfl rfl (by simp) he⟩
  | @comma _ _ slot _ _ _ _ ht _ ih =>
    intro region final h
    obtain ⟨h, he⟩ := ih region final (h.symbol ht rfl)
    refine ⟨h, ?_⟩
    cases slot with
    | filled => exact he
    | opening | vacant => exact List.forall_mem_cons.mpr ⟨.empty, he⟩
  | @close _ _ slot _ _ ht =>
    intro region final h
    refine ⟨(h.cons ht).2, ?_⟩
    cases slot with
    | vacant => exact List.forall_mem_singleton.mpr .empty
    | opening | filled => exact List.forall_mem_nil _
  | item _ _ _ _ ih ih' =>
    intro region final h
    obtain ⟨h, he⟩ := ih region final h
    obtain ⟨h, hes⟩ := ih' region final h
    exact ⟨h, List.forall_mem_cons.mpr ⟨he, hes⟩⟩
  | immediateStop | tighterStop => exact fun _ _ h => ⟨h, id⟩
  | immediateStep _ _ _ ih ih' | tighterStep _ _ _ ih ih' =>
    intro region final h
    obtain ⟨h, he⟩ := ih region final h
    exact (ih' region final h).imp_right fun hj hl => hj (he hl)
  | range ht _ ih =>
    intro region final h
    obtain ⟨h, hr⟩ := ih region final (h.symbol ht rfl)
    exact ⟨h, fun hl => .pair rfl rfl (fun _ => rfl) hl hr⟩
  | percent ht =>
    intro region final h
    exact ⟨h.symbol ht rfl, fun hl => .chain (by simpa using hl)⟩
  | text ht _ ih =>
    intro region final h
    obtain ⟨h, hr⟩ := ih region final (h.symbol ht rfl)
    exact ⟨h, fun hl => .pair rfl rfl (fun _ => rfl) hl hr⟩
  | maths ht hs _ ih =>
    intro region final h
    obtain ⟨h, ho⟩ := ih region final (h.step ht hs)
    exact ⟨h, fun hl => .chain (List.forall_mem_cons.mpr ⟨hl, ho⟩)⟩
  | @comparison _ _ _ _ op _ _ _ ht _ _ ih ih' =>
    intro region final h
    have h := h.symbol ht (by cases op <;> rfl)
    obtain ⟨h, hr⟩ := ih region final h
    obtain ⟨h, hr'⟩ := ih' region final h
    exact ⟨h, fun hl => .pair rfl rfl (fun _ => rfl) hl (hr' hr)⟩
  | lastStep _ _ _ ih ih' =>
    intro region final h
    obtain ⟨h, hr⟩ := ih region final h
    obtain ⟨h, hr'⟩ := ih' region final h
    exact ⟨h, List.forall_mem_singleton.mpr (hr' hr)⟩
  | nextStep _ _ ht _ ih ih' ih'' =>
    intro region final h
    obtain ⟨s, ht, -, hs⟩ := Token.chainStep?_eq_some_iff.mp ht
    obtain ⟨h, hr⟩ := ih region final h
    obtain ⟨h, hr'⟩ := ih' region final h
    obtain ⟨h, ho⟩ := ih'' region final (h.step ht hs)
    exact ⟨h, List.forall_mem_cons.mpr ⟨hr' hr, ho⟩⟩

end Parser

namespace Formula

structure KeepsSquares (text : String) : Prop where
  tokens : ∀ before opener inner after,
    (Token.scan text).items = before ++ opener :: (inner ++ after) →
      opener.lexeme = .symbol .openSquare → (∀ t ∈ inner, t.lexeme ≠ .symbol .closeSquare) →
        ∀ t ∈ inner, t.lexeme.fitsInside
  tree : ∀ e, parse text = .ok (some e) → ∀ columns, (Expr.structured columns).Within e →
    ∀ s : Expr, s.Within columns → s.fitsInside

theorem keepsSquares (text : String) : KeepsSquares text where
  tokens _ _ _ _ h ho hc := Token.fitsInside_of_scan h ho hc
  tree e h columns hc s hs := by
    obtain ⟨-, hr⟩ := reads_of_parseTokens h
    obtain ⟨final, hl⟩ := Token.through_scanFrom text .outside 0 text.toList
    obtain ⟨-, he⟩ := Parser.stays_of_reads hr .outside final hl
    obtain ⟨region, hc⟩ := he.within hc
    exact hc.columns_of_structured.fitsInside hs

end Formula

end CellFormula
