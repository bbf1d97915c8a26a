import CellFormula.Proofs.Grammar.Legible
import CellFormula.Proofs.Parser.Copies
import Mathlib.Data.List.Forall2

namespace CellFormula

def Expr.ofItems : List (Option Expr) → List Expr
  | [none] => []
  | os => os.map (·.getD .empty)

lemma Expr.ofItems_of_ne {os : List (Option Expr)} (h : os ≠ [none]) :
    ofItems os = os.map (·.getD .empty) := by
  rcases os with _ | ⟨_ | e, _ | ⟨o, os⟩⟩ <;> first | rfl | exact (h rfl).elim

namespace Parser

variable {fin : Option LexicalError} {ts us rest more : List Token} {t opener : Token}
  {s closer : Symbol} {slot : Slot} {e : Expr} {es : List Expr} {o : Option Expr}
  {os : List (Option Expr)} {ws : List Lexeme} {runs : List (List Lexeme)}

def Fills (fin : Option LexicalError) (ws : List Lexeme) : Option Expr → Prop
  | none => ws = []
  | some e => ∀ ts more, lexemes ts = ws → Separated fin more →
    Reads fin .compound (ts ++ more) (.expr e) more

lemma fills_of_reads (h : Reads none .compound ts (.expr e) []) :
    Fills fin (lexemes ts) (some e) := by
  intro us more hu hm
  obtain ⟨rest, hrest, hr⟩ := repeats_of_reads hm h (us ++ more) ⟨us, hu, rfl⟩
  rwa [copies_iff.mp hrest] at hr

lemma separated_of_symbol (ht : t.lexeme = .symbol s) (hs : s.separates) :
    Separated fin (t :: rest) := ⟨s, ht, hs⟩

lemma not_separates_of_startsOperand (h : t.startsOperand) (ht : t.lexeme = .symbol s) :
    s.separates = false := by
  rw [Token.startsOperand_of_symbol ht] at h
  revert h
  cases s <;> decide

lemma separates_of_isClose (h : s.isClose) : s.separates := by
  rw [Symbol.separates, h, Bool.or_true]

lemma ne_comma_of_isClose (h : s.isClose) : s ≠ .comma := by
  rintro rfl
  cases h

lemma reads_item_of_compound (hc : closer.isClose) (hr : Reads fin .compound ts (.expr e) us)
    (h : Reads fin (.items closer opener .filled) us (.list es) rest) :
    Reads fin (.items closer opener slot) ts (.list (e :: es)) rest := by
  obtain ⟨t, ts, rfl, ht⟩ := hr.starts (.inl rfl)
  refine .item (fun hs => ?_) (fun hs => ?_) hr h
  · exact absurd (not_separates_of_startsOperand ht hs) (by decide)
  · exact absurd (not_separates_of_startsOperand ht hs) (by simp [separates_of_isClose hc])

lemma reads_item (hc : closer.isClose) (he : Fills fin ws (some e)) (hu : lexemes us = ws)
    (hm : Separated fin more) (h : Reads fin (.items closer opener .filled) more (.list es) rest) :
    Reads fin (.items closer opener slot) (us ++ more) (.list (e :: es)) rest :=
  reads_item_of_compound hc (he us more hu hm) h

lemma reads_items (hc : closer.isClose) (ht : t.lexeme = .symbol closer)
    (h : List.Forall₂ (Fills fin) runs os) (hts : lexemes ts = [.symbol .comma].intercalate runs)
    (hne : runs ≠ []) (hs : slot ≠ .filled) (ho : slot = .opening → os ≠ [none]) :
    Reads fin (.items closer opener slot) (ts ++ t :: rest)
      (.list (os.map (·.getD .empty))) rest := by
  induction h generalizing ts slot with
  | nil => exact (hne rfl).elim
  | @cons ws o runs os hw h ih =>
    cases h with
    | nil =>
      have hts : lexemes ts = ws := by simpa using hts
      cases o with
      | none =>
        obtain rfl := List.map_eq_nil_iff.mp (hts.trans hw)
        cases slot with
        | opening => exact (ho rfl rfl).elim
        | vacant => exact .close ht (ne_comma_of_isClose hc)
        | filled => exact (hs rfl).elim
      | some e =>
        exact reads_item hc hw hts (separated_of_symbol ht (separates_of_isClose hc))
          (.close ht (ne_comma_of_isClose hc))
    | cons hw' h =>
      rw [List.intercalate_cons_cons, List.append_assoc] at hts
      obtain ⟨us, u, vs, rfl, hus, hu, hvs⟩ := between_of_lexemes hts
      have hr := ih hvs (by simp) (show Slot.vacant ≠ .filled by simp) (by simp)
      rw [List.append_assoc]
      cases o with
      | none =>
        obtain rfl := List.map_eq_nil_iff.mp (hus.trans hw)
        cases slot with
        | opening | vacant => exact .comma hu hr
        | filled => exact (hs rfl).elim
      | some e => exact reads_item hc hw hus (separated_of_symbol hu rfl) (.comma hu hr)

lemma reads_ofItems (hc : closer.isClose) (ht : t.lexeme = .symbol closer)
    (h : List.Forall₂ (Fills fin) runs os) (hts : lexemes ts = [.symbol .comma].intercalate runs) :
    Reads fin (.items closer opener .opening) (ts ++ t :: rest) (.list (Expr.ofItems os)) rest := by
  have hclose : Reads fin (.items closer opener .opening) (t :: rest) (.list []) rest :=
    .close ht (ne_comma_of_isClose hc)
  by_cases hos : os = [none]
  · subst hos
    obtain ⟨ws, runs, hw, hr, rfl⟩ := List.forall₂_cons_right_iff.mp h
    obtain rfl := List.forall₂_nil_right_iff.mp hr
    obtain rfl : ws = [] := hw
    obtain rfl := List.map_eq_nil_iff.mp hts
    exact hclose
  rw [Expr.ofItems_of_ne hos]
  by_cases hnil : runs = []
  · subst hnil
    obtain rfl := List.forall₂_nil_left_iff.mp h
    obtain rfl := List.map_eq_nil_iff.mp hts
    exact hclose
  · exact reads_items hc ht h hts hnil (by simp) fun _ => hos

end Parser

end CellFormula
