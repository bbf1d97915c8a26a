import CellFormula.Caret
import CellFormula.Text.Width

namespace CellFormula.Report

def isDropped (c : Char) : Bool :=
  c.toNat == 7 || c.toNat == 8 || (11 ≤ c.toNat && c.toNat ≤ 13)

def CountsSpaces (width : List Char → Nat) : Prop :=
  ∀ part n, width (part ++ ' ' :: List.replicate n ' ') = width (part ++ [' ']) + n

theorem countsSpaces_width : CountsSpaces Text.width :=
  Text.widthAfter_append_spaces false none

section Columns

variable {width : List Char → Nat}

/-- Part of a line that a tab ends. The tab is shown as one space, which like any character may be
joined to the one before it, and then as spaces up to a multiple of eight columns. -/
def fillTab (width : List Char → Nat) (part : List Char) : List Char :=
  part ++ ' ' :: List.replicate ((8 - width (part ++ [' ']) % 8) % 8) ' '

theorem eight_dvd_width_fillTab (h : CountsSpaces width) (part : List Char) :
    8 ∣ width (fillTab width part) := by
  rw [fillTab, h]
  omega

def fillTabs (width : List Char → Nat) (line : List Char) : List Char :=
  let parts := line.splitOn '\t'
  parts.dropLast.flatMap (fillTab width) ++ parts.getLastD []

theorem fillTabs_of_not_mem {line : List Char} (h : '\t' ∉ line) : fillTabs width line = line := by
  simp [fillTabs, List.splitOn_eq_singleton h]

def shown (width : List Char → Nat) (text : String) : String :=
  let lines := (text.toList.filter fun c => !isDropped c).splitOn '\n'
  String.join (lines.map fun line => String.ofList (fillTabs width line ++ ['\n']))

def textBy (width : List Char → Nat) (d : Diagnostic) : String :=
  let place := match d.formula with
    | none => shown width ("at offset " ++ toString d.start)
    | some formula =>
      String.join ((Caret.lines (Caret.mark formula d.start d.stop)).map (shown width))
  shown width ("error: " ++ d.message) ++ place

end Columns

def text : Diagnostic → String := textBy Text.width

end CellFormula.Report
