import CellFormula.Text.DoubleWidth
import CellFormula.Text.TextEmoji
import CellFormula.Text.ZeroWidth

set_option maxRecDepth 8000

namespace CellFormula.Text

def charWidth (c : Char) : Nat := if isZeroWidth c then 0 else if isDoubleWidth c then 2 else 1

def joiner : Char := '\u200d'

def emojiSelector : Char := '\ufe0f'

/-- Columns of the rest of a text. A character that is `joined` to the one before it takes none;
a selector widens `last`, the latest character that took a column, if it is an emoji that is shown
as text and no selector has followed it yet. -/
def widthAfter (joined : Bool) (last : Option Char) : List Char → Nat
  | [] => 0
  | c :: rest =>
    if joined then widthAfter false last rest
    else if c = joiner then widthAfter true last rest
    else if c = emojiSelector then
      (if last.any isTextEmoji then 1 else 0) + widthAfter false none rest
    else if charWidth c = 0 then widthAfter false last rest
    else charWidth c + widthAfter false (some c) rest

def width (text : List Char) : Nat := widthAfter false none text

theorem charWidth_space : charWidth ' ' = 1 := by decide

theorem widthAfter_space (last : Option Char) (text : List Char) :
    widthAfter false last (' ' :: text) = 1 + widthAfter false (some ' ') text := by
  have hj : ' ' ≠ joiner := by decide
  have hs : ' ' ≠ emojiSelector := by decide
  simp [widthAfter, hj, hs, charWidth_space]

theorem widthAfter_spaces (last : Option Char) (n : Nat) :
    widthAfter false last (List.replicate n ' ') = n := by
  induction n generalizing last with
  | zero => rfl
  | succ n ih => rw [List.replicate_succ, widthAfter_space, ih, Nat.add_comm]

theorem widthAfter_append_spaces (joined : Bool) (last : Option Char) (text : List Char) (n : Nat) :
    widthAfter joined last (text ++ ' ' :: List.replicate n ' ') =
      widthAfter joined last (text ++ [' ']) + n := by
  induction text generalizing joined last with
  | nil =>
    cases joined with
    | false => simp [widthAfter_space, widthAfter_spaces, widthAfter]
    | true => simp [widthAfter, widthAfter_spaces]
  | cons c rest ih =>
    simp only [List.cons_append, widthAfter, ih]
    repeat' split
    all_goals simp only [Nat.add_assoc]

theorem widthAfter_eq_of_not_mem (joined : Bool) (last last' : Option Char) {text : List Char}
    (h : emojiSelector ∉ text) : widthAfter joined last text = widthAfter joined last' text := by
  induction text generalizing joined last last' with
  | nil => rfl
  | cons c rest ih =>
    simp only [List.mem_cons, not_or] at h
    simp only [widthAfter, Ne.symm h.1, if_false]
    rw [ih false last last' h.2, ih true last last' h.2]

theorem width_cons {c : Char} {rest : List Char} (hc : c ≠ joiner)
    (hs : emojiSelector ∉ c :: rest) : width (c :: rest) = charWidth c + width rest := by
  simp only [List.mem_cons, not_or] at hs
  by_cases hz : charWidth c = 0
  · simp [width, widthAfter, hc, Ne.symm hs.1, hz]
  · have hl := widthAfter_eq_of_not_mem false (some c) none hs.2
    simp [width, widthAfter, hc, Ne.symm hs.1, hz, hl]

end CellFormula.Text
