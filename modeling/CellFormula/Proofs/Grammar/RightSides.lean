import CellFormula.Expr.Walk
import CellFormula.Proofs.Grammar.Shape
import CellFormula.Proofs.Parser.Completeness

namespace CellFormula

namespace Expr

mutual

def rightSides : Expr → List Expr
  | textJoin a b => rightSides a ++ b :: rightSides b
  | bracketed e | structured e | table _ e => rightSides e
  | call _ es | union es => rightSidesAll es
  | chain operations => rightSidesOfOperands operations
  | comparison _ a b | intersection a b | range a b | sheet a b => rightSides a ++ rightSides b
  | empty | string _ | error _ | number _ | boolean _ | cell _ => []

def rightSidesAll : List Expr → List Expr
  | [] => []
  | e :: es => rightSides e ++ rightSidesAll es

def rightSidesOfOperands : List (Step × Expr) → List Expr
  | [] => []
  | (_, e) :: operations => rightSides e ++ rightSidesOfOperands operations

end

lemma rightSidesAll_eq_flatMap (es : List Expr) : rightSidesAll es = es.flatMap rightSides := by
  induction es with
  | nil => rfl
  | cons e es ih => rw [rightSidesAll, ih, List.flatMap_cons]

lemma rightSidesOfOperands_eq_flatMap (operations : List (Step × Expr)) :
    rightSidesOfOperands operations = (operations.map Prod.snd).flatMap rightSides := by
  induction operations with
  | nil => rfl
  | cons o operations ih => rw [rightSidesOfOperands, ih, List.map_cons, List.flatMap_cons]

lemma rightSides_of_children {e : Expr} (h : ∀ a b, e ≠ textJoin a b) :
    e.rightSides = e.children.flatMap rightSides := by
  cases e with
  | textJoin a b => exact (h a b rfl).elim
  | call | union => exact rightSidesAll_eq_flatMap _
  | chain => exact rightSidesOfOperands_eq_flatMap _
  | _ => simp [rightSides, children]

lemma rightSides_ofColumns (es : List Expr) :
    (ofColumns es).rightSides = es.flatMap rightSides := by
  rcases es with _ | ⟨e, _ | ⟨e', es⟩⟩
  · rfl
  · exact (List.flatMap_singleton ..).symm
  · exact rightSidesAll_eq_flatMap _

lemma rightSides_chain (operations : List (Step × Expr)) :
    (chain operations).rightSides = (operations.map Prod.snd).flatMap rightSides :=
  rightSidesOfOperands_eq_flatMap operations

lemma rightSides_lone (step : Step) (e : Expr) : (chain [(step, e)]).rightSides = e.rightSides :=
  List.append_nil _

lemma mem_rightSides_of_child {r c e : Expr} (hc : c ∈ e.children) (hr : r ∈ c.rightSides) :
    r ∈ e.rightSides := by
  cases e with
  | textJoin a b =>
    rcases List.mem_cons.mp hc with rfl | hc
    · exact List.mem_append_left _ hr
    · obtain rfl := List.mem_singleton.mp hc
      exact List.mem_append_right _ (List.mem_cons_of_mem _ hr)
  | _ =>
    rw [rightSides_of_children (by simp)]
    exact List.mem_flatMap.mpr ⟨c, hc, hr⟩

lemma exists_textJoin_of_mem {r e : Expr} (h : r ∈ e.rightSides) :
    ∃ a, (textJoin a r).Within e := by
  induction e using children_induction with
  | step e ih =>
    have step {c : Expr} (hc : c ∈ e.children) (hr : r ∈ c.rightSides) :
        ∃ a, (textJoin a r).Within e := by
      obtain ⟨a, ha⟩ := ih c hc hr
      exact ⟨a, .child hc ha⟩
    cases e with
    | textJoin a b =>
      rcases List.mem_append.mp h with h | h
      · exact step List.mem_cons_self h
      · rcases List.mem_cons.mp h with rfl | h
        · exact ⟨a, .self⟩
        · exact step (List.mem_cons_of_mem _ List.mem_cons_self) h
    | _ =>
      rw [rightSides_of_children (by simp)] at h
      obtain ⟨c, hc, hr⟩ := List.mem_flatMap.mp h
      exact step hc hr

theorem mem_rightSides_iff {r e : Expr} :
    r ∈ e.rightSides ↔ ∃ a, (textJoin a r).Within e := by
  refine ⟨exists_textJoin_of_mem, ?_⟩
  rintro ⟨a, h⟩
  induction h with
  | self => exact List.mem_append_right _ List.mem_cons_self
  | child hc _ ih => exact mem_rightSides_of_child hc ih

end Expr

namespace Parser

def front? (ts : List Token) : Option Expr :=
  match expression (.ofSource (.ofList ts)) with
  | .ok e _ => e
  | .error _ _ => none

def behindAmpersands : List Token → List Expr
  | [] => []
  | t :: ts =>
    if t.isSymbol .ampersand then (front? ts).toList ++ behindAmpersands ts
    else behindAmpersands ts

variable {c : Call} {ts rest : List Token} {a : Answer} {t : Token} {s : Symbol} {e : Expr}

lemma front?_of_reads (h : Reads none .compound ts (.expr e) rest) : front? ts = some e := by
  have hr : Runs none expression ts (Exactly (some e) rest) Never :=
    fun b => given_of_reads h [] (depth b.unread) b
  obtain ⟨b, hb⟩ := hr.exists_ok (b := .ofSource (.ofList ts)) rfl rfl (yields_expression _)
  simp only [front?, hb]

lemma behindAmpersands_cons {w : Lexeme} (ht : t.lexeme = w) (hw : w ≠ .symbol .ampersand) :
    behindAmpersands (t :: ts) = behindAmpersands ts := by
  have hn : ¬ t.isSymbol .ampersand := by rwa [Token.isSymbol_iff, ht]
  rw [behindAmpersands, if_neg hn]

lemma behindAmpersands_step {step : Step} (ht : t.lexeme = .symbol s)
    (hs : Step.ofSymbol? s = some step) : behindAmpersands (t :: ts) = behindAmpersands ts := by
  refine behindAmpersands_cons ht ?_
  rintro ⟨rfl⟩
  cases hs

lemma behindAmpersands_ampersand (ht : t.lexeme = .symbol .ampersand)
    (h : Reads none .compound ts (.expr e) rest) :
    behindAmpersands (t :: ts) = e :: behindAmpersands ts := by
  rw [behindAmpersands, if_pos (Token.isSymbol_iff.mpr ht), front?_of_reads h]
  rfl

def Gathers : Call → List Token → Answer → List Token → Prop
  | .compound, ts, .expr e, rest | .operand, ts, .expr e, rest | .value, ts, .expr e, rest
  | .named _, ts, .expr e, rest => behindAmpersands ts = e.rightSides ++ behindAmpersands rest
  | .items closer _ _, ts, .list es, rest => closer ≠ .ampersand →
    behindAmpersands ts = es.flatMap Expr.rightSides ++ behindAmpersands rest
  | .immediateJoins left, ts, .expr e, rest | .tighterJoins _ left, ts, .expr e, rest
  | .join _ left, ts, .expr e, rest =>
    left.rightSides ++ behindAmpersands ts = e.rightSides ++ behindAmpersands rest
  | .chainSteps _ _ _, ts, .steps operations, rest => behindAmpersands ts =
    (operations.map Prod.snd).flatMap Expr.rightSides ++ behindAmpersands rest
  | _, _, _, _ => True

lemma rightSides_beforeComma {slot : Slot} {es : List Expr} :
    (slot.beforeComma es).flatMap Expr.rightSides = es.flatMap Expr.rightSides := by
  cases slot <;> rfl

lemma rightSides_beforeClose {slot : Slot} : slot.beforeClose.flatMap Expr.rightSides = [] := by
  cases slot <;> rfl

theorem gathers_of_reads (h : Reads none c ts a rest) : Gathers c ts a rest := by
  induction h with
  | last _ _ _ ih ih' => exact Eq.trans ih ih'
  | textJoin _ _ ht h ih ih' ih'' =>
    have hr := behindAmpersands_ampersand ht h
    simp only [Gathers] at ih ih' ih'' ⊢
    rw [ih, ih', hr, ih'', Expr.rightSides, List.append_assoc, List.cons_append]
  | intersection _ _ _ ih ih' ih'' =>
    simp only [Gathers] at ih ih' ih'' ⊢
    rw [ih, ih', ih'', Expr.rightSides, List.append_assoc]
  | plain _ ih => exact ih
  | negation ht _ _ ih =>
    simp only [Gathers] at ih ⊢
    rw [behindAmpersands_step ht rfl, ih, Expr.rightSides_lone]
  | literal ht _ ih => exact (behindAmpersands_cons ht (by simp)).trans ih
  | string ht | error ht | number ht => exact behindAmpersands_cons ht (by simp)
  | negative ht hn =>
    exact (behindAmpersands_step ht rfl).trans (behindAmpersands_cons hn (by simp))
  | brackets ht hc =>
    exact (behindAmpersands_cons ht (by simp)).trans (behindAmpersands_cons hc (by simp))
  | bracketed ht _ hc ih =>
    simp only [Gathers] at ih ⊢
    rw [behindAmpersands_cons ht (by simp), ih, behindAmpersands_cons hc (by simp)]
    rfl
  | columns ht _ ih =>
    have hi := ih (by simp)
    simp only [Gathers]
    rw [behindAmpersands_cons ht (by simp), hi, Expr.rightSides_ofColumns]
  | call ht _ ih =>
    have hi := ih (by simp)
    simp only [Gathers]
    rw [behindAmpersands_cons ht (by simp), hi, Expr.rightSides_of_children (by simp)]
    rfl
  | truth | cell => rfl
  | sheet _ ht _ ih => exact (behindAmpersands_cons ht (by simp)).trans ih
  | table _ _ _ ih => exact ih
  | comma ht _ ih =>
    intro hc
    rw [behindAmpersands_cons ht (by simp), rightSides_beforeComma]
    exact ih hc
  | close ht =>
    intro hc
    rw [behindAmpersands_cons ht (by simpa using hc), rightSides_beforeClose]
    rfl
  | item _ _ _ _ ih ih' =>
    intro hc
    simp only [Gathers] at ih
    rw [ih, ih' hc, List.flatMap_cons, List.append_assoc]
  | immediateStop | tighterStop => rfl
  | immediateStep _ _ _ ih ih' | tighterStep _ _ _ ih ih' => exact Eq.trans ih ih'
  | range ht _ ih =>
    simp only [Gathers] at ih ⊢
    rw [behindAmpersands_cons ht (by simp), ih, Expr.rightSides, List.append_assoc]
  | percent ht =>
    simp only [Gathers]
    rw [behindAmpersands_cons ht (by simp), Expr.rightSides_lone]
  | text ht h ih =>
    simp only [Gathers] at ih ⊢
    rw [behindAmpersands_ampersand ht h, ih, Expr.rightSides, List.append_assoc, List.cons_append]
  | maths ht hs _ ih =>
    simp only [Gathers] at ih ⊢
    rw [behindAmpersands_step ht hs, ih, Expr.rightSides_chain, List.map_cons, List.flatMap_cons,
      List.append_assoc]
  | @comparison _ _ _ _ op _ _ _ ht _ _ ih ih' =>
    simp only [Gathers] at ih ih' ⊢
    rw [behindAmpersands_cons ht (by cases op <;> simp [Comparator.symbol]), ih, ih',
      Expr.rightSides, List.append_assoc]
  | lastStep _ _ _ ih ih' =>
    simp only [Gathers] at ih ih' ⊢
    rw [ih, ih', List.map_singleton, List.flatMap_singleton]
  | nextStep _ _ ht _ ih ih' ih'' =>
    obtain ⟨s, ht, -, hs⟩ := Token.chainStep?_eq_some_iff.mp ht
    simp only [Gathers] at ih ih' ih'' ⊢
    rw [ih, ih', behindAmpersands_step ht hs, ih'', List.map_cons, List.flatMap_cons,
      List.append_assoc]

end Parser

namespace Formula

theorem rightSides_of_parseTokens {source : Source Token LexicalError} {e : Expr}
    (h : parseTokens source = .ok (some e)) :
    e.rightSides = Parser.behindAmpersands source.items := by
  obtain ⟨-, hr⟩ := reads_of_parseTokens h
  have hg : Parser.behindAmpersands source.items = e.rightSides ++ [] :=
    Parser.gathers_of_reads hr
  rw [hg, List.append_nil]

end Formula

end CellFormula
