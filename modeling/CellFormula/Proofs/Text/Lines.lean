import CellFormula.Text.Lines
import Mathlib.Tactic.Lemma

namespace CellFormula.Text

def endsLine (c : Char) : Bool := c == '\n' || c == '\r'

def Unbroken (line : List Char) : Prop := ∀ c ∈ line, endsLine c = false

inductive Lines : List Char → List (List Char) → Prop
  | last {line} : Unbroken line → Lines line [line]
  | lineFeed {line rest ls} : Unbroken line → Lines rest ls →
      Lines (line ++ '\n' :: rest) (line :: ls)
  | pair {line rest ls} : Unbroken line → Lines rest ls →
      Lines (line ++ '\r' :: '\n' :: rest) (line :: ls)
  | carriageReturn {line rest ls} : Unbroken line → rest.head? ≠ some '\n' → Lines rest ls →
      Lines (line ++ '\r' :: rest) (line :: ls)

variable {c : Char} {cs line rest : List Char} {ls : List (List Char)}

lemma Lines.cons (h : Lines cs ls) (hc : endsLine c = false) :
    Lines (c :: cs) (consFirst c ls) := by
  have unbroken {line : List Char} (hl : Unbroken line) : Unbroken (c :: line) :=
    List.forall_mem_cons.mpr ⟨hc, hl⟩
  cases h with
  | last hl => exact .last (unbroken hl)
  | lineFeed hl hr => exact .lineFeed (unbroken hl) hr
  | pair hl hr => exact .pair (unbroken hl) hr
  | carriageReturn hl hn hr => exact .carriageReturn (unbroken hl) hn hr

lemma lines_cons (hc : endsLine c = false) : lines (c :: cs) = consFirst c (lines cs) := by
  rw [endsLine, Bool.or_eq_false_iff, beq_eq_false_iff_ne, beq_eq_false_iff_ne] at hc
  rw [lines]
  · rw [if_neg (not_or.mpr hc)]
  · rintro _ rfl
    exact absurd rfl hc.2

lemma lines_lineFeed : lines ('\n' :: rest) = [] :: lines rest := by
  rw [lines]
  · rfl
  · intro _ h
    cases h

lemma lines_carriageReturn (h : rest.head? ≠ some '\n') :
    lines ('\r' :: rest) = [] :: lines rest := by
  rw [lines]
  · rfl
  · rintro rest' - rfl
    exact h rfl

lemma lines_append (hl : Unbroken line) (h : lines rest = [] :: ls) :
    lines (line ++ rest) = line :: ls := by
  induction line with
  | nil => exact h
  | cons c line ih =>
    obtain ⟨hc, hl⟩ := List.forall_mem_cons.mp hl
    rw [List.cons_append, lines_cons hc, ih hl, consFirst]

lemma lines_of_unbroken (hl : Unbroken line) : lines line = [line] := by
  have h : lines [] = [[]] := by rw [lines]
  simpa only [List.append_nil] using lines_append hl h

theorem lines_iff : Lines cs ls ↔ lines cs = ls := by
  constructor
  · intro h
    induction h with
    | last hl => exact lines_of_unbroken hl
    | lineFeed hl _ ih => exact lines_append hl (ih ▸ lines_lineFeed)
    | pair hl _ ih => exact lines_append hl (ih ▸ by rw [lines])
    | carriageReturn hl hn _ ih => exact lines_append hl (ih ▸ lines_carriageReturn hn)
  · rintro rfl
    fun_induction lines cs with
    | case1 => exact .last (List.forall_mem_nil _)
    | case2 rest ih => exact .pair (List.forall_mem_nil _) ih
    | case3 c rest hn hc ih =>
      rcases hc with rfl | rfl
      · exact .lineFeed (List.forall_mem_nil _) ih
      · refine .carriageReturn (List.forall_mem_nil _) (fun hr => ?_) ih
        obtain ⟨rest', rfl⟩ := List.head?_eq_some_iff.mp hr
        exact hn rest' rfl rfl
    | case4 c rest hn hc ih => exact ih.cons (by simpa [endsLine] using hc)

end CellFormula.Text
