import CellFormula.Diagnostic

namespace CellFormula.Caret

def flatten (c : Char) : Char := if c = '\t' ∨ c = '\n' ∨ c = '\r' then ' ' else c

def line (formula : String) : String := String.ofList (formula.toList.map flatten)

def underline (start stop : Int) : String :=
  let stop := if stop ≤ start then start + 1 else stop
  String.ofList (List.replicate start.toNat ' ' ++ List.replicate (stop - start).toNat '^')

def mark (formula : String) (start stop : Int) : String :=
  line formula ++ "\n" ++ underline start stop

def lines (marked : String) : List String :=
  (marked.toList.splitOn '\n').map String.ofList

theorem lines_mark (formula : String) (start stop : Int) :
    lines (mark formula start stop) = [line formula, underline start stop] := by
  have hl : '\n' ∉ (line formula).toList := by
    simp only [line, String.toList_ofList, List.mem_map, not_exists, not_and]
    intro c _
    unfold flatten
    split
    · decide
    · rename_i h
      exact fun hc => h (Or.inr (Or.inl hc))
  have hu : '\n' ∉ (underline start stop).toList := by
    simp [underline, List.mem_replicate]
  have hn : ("\n" : String).toList = ['\n'] := by decide
  simp only [lines, mark, String.toList_append, hn, List.append_assoc, List.singleton_append,
    List.splitOn_append_cons_self_of_not_mem hl, List.splitOn_eq_singleton hu, List.map_cons,
    List.map_nil, String.ofList_toList]

end CellFormula.Caret
