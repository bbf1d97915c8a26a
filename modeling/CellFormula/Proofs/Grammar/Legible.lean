import CellFormula.Proofs.Grammar.Shape
import CellFormula.Proofs.Grammar.Written

namespace CellFormula

structure Seam (left right : List Lexeme) : Prop where
  subtract : right.head? ≠ some (.symbol .subtract)
  bracket : ∀ name, left.getLast? = some (.literal name) → right.head? ≠ some (.symbol .openBracket)
  square : ∀ name, left.getLast? = some (.literal name) → name ≠ "TRUE" → name ≠ "FALSE" →
    right.head? ≠ some (.symbol .openSquare)

structure Legible (s : Expr) : Prop where
  cell : ∀ name, s = .cell name → name ≠ "TRUE" ∧ name ≠ "FALSE"
  table : ∀ name columns, s = .table name columns → name ≠ "TRUE" ∧ name ≠ "FALSE"
  negation : ∀ d, s = .chain [(.subtract, .number d)] → d.negative
  intersection : ∀ left right, s = .intersection left right → Seam left.written right.written

lemma Legible.within {e : Expr} (h : Legible e)
    (hc : ∀ c ∈ e.children, ∀ s : Expr, s.Within c → Legible s) :
    ∀ s : Expr, s.Within e → Legible s := by
  rintro s (_ | ⟨hm, hs⟩)
  · exact h
  · exact hc _ hm s hs

lemma Shape.written_ne_nil {level : Level} {e : Expr} (h : Shape level e) : e.written ≠ [] := by
  induction h with
  | plain _ ih | operand _ ih | single _ ih | sum _ ih | compared _ ih => exact ih
  | number =>
    rw [Expr.written]
    split <;> exact List.cons_ne_nil _ _
  | sheet _ ih => simp [Expr.written]
  | chain _ _ _ _ ih => simp [Expr.written, Expr.writtenSteps, Step.around, ih]
  | intersection _ _ ih => simp [Expr.written, ih]
  | _ => simp [Expr.written, Expr.writtenSteps, Step.around]

lemma isNumber_of_head?_written {e : Expr} {l : Lexeme} (h : Shape .operand e)
    (hn : ∀ d, e = .number d → d.negative) (hl : e.written.head? = some l) :
    l.isNumber = false := by
  cases h with
  | negation =>
    cases hl
    rfl
  | plain h =>
    cases h with
    | number =>
      rw [Expr.written, if_pos (hn _ rfl)] at hl
      cases hl
      rfl
    | _ =>
      cases hl
      rfl

namespace Parser

variable {fin : Option LexicalError} {ts rest : List Token} {t : Token} {s : Symbol} {a b : Expr}
  {ws vs : List Lexeme}

section Lexemes

variable {w w' : Lexeme}

lemma between_of_lexemes (h : lexemes ts = ws ++ w :: vs) : ∃ us t us', ts = us ++ t :: us' ∧
    lexemes us = ws ∧ t.lexeme = w ∧ lexemes us' = vs := by
  obtain ⟨us, us', rfl, hu, h⟩ := List.map_eq_append_iff.mp h
  obtain ⟨t, us', rfl, ht, hu'⟩ := List.map_eq_cons_iff.mp h
  exact ⟨us, t, us', rfl, hu, ht, hu'⟩

lemma enclosed_of_lexemes (h : lexemes ts = w :: ws ++ [w']) : ∃ t us c,
    ts = t :: (us ++ [c]) ∧ t.lexeme = w ∧ lexemes us = ws ∧ c.lexeme = w' := by
  obtain ⟨t, us, rfl, ht, h⟩ := List.map_eq_cons_iff.mp h
  obtain ⟨us, c, rfl, hu, hc⟩ := List.map_eq_append_iff.mp h
  obtain ⟨c, rfl, rfl⟩ := List.map_eq_singleton_iff.mp hc
  exact ⟨t, us, c, rfl, ht, hu, rfl⟩

lemma ne_nil_of_lexemes (h : lexemes ts = ws) (hw : ws ≠ []) : ts ≠ [] := by
  rintro rfl
  exact hw h.symm

end Lexemes

def Clear (fin : Option LexicalError) (ws : List Lexeme) (rest : List Token) : Prop :=
  ∀ name, ws.getLast? = some (.literal name) → Stops fin (Token.isSymbol · .openBracket) rest ∧
    (truthValue? name = none → Stops fin Token.qualifies rest)

lemma Clear.of_stops (h : Stops fin Token.qualifies rest) : Clear fin ws rest := by
  refine fun name _ => ⟨h.mono fun t ht => ?_, fun _ => h⟩
  simp only [Token.qualifies, Bool.or_eq_false_iff] at ht
  exact ht.1.1

lemma Clear.right (h : Clear fin (ws ++ vs) rest) : Clear fin vs rest := by
  intro name hn
  exact h name (by rw [List.getLast?_append, hn, Option.some_or])

lemma Clear.tail {w : Lexeme} (h : Clear fin (w :: vs) rest) : Clear fin vs rest := by
  have h : Clear fin ([w] ++ vs) rest := h
  exact h.right

lemma Clear.of_symbol (ht : t.lexeme = .symbol s)
    (hs : s ≠ .openBracket ∧ s ≠ .bang ∧ s ≠ .openSquare) : Clear fin ws (t :: rest) := by
  refine .of_stops ?_
  simp [Stops, Token.qualifies_of_symbol ht, hs]

lemma clear_of_seam (hs : Seam a.written b.written) (hb : b.written.head? = some t.lexeme)
    (h : t.startsOperand) : Clear fin a.written (t :: rest) := by
  intro name hn
  have hround : t.isSymbol .openBracket = false := by
    refine Token.isSymbol_eq_false_iff.mpr fun ht => ?_
    exact hs.bracket name hn (ht ▸ hb)
  refine ⟨hround, fun hname => ?_⟩
  obtain ⟨htrue, hfalse⟩ := truthValue?_eq_none_iff.mp hname
  have hsquare : t.isSymbol .openSquare = false := by
    refine Token.isSymbol_eq_false_iff.mpr fun ht => ?_
    exact hs.square name hn htrue hfalse (ht ▸ hb)
  have hbang : t.isSymbol .bang = false := by
    refine Token.isSymbol_eq_false_iff.mpr fun ht => ?_
    rw [Token.startsOperand_of_symbol ht] at h
    cases h
  simp only [Stops, Token.qualifies, hround, hsquare, hbang, Bool.or_false]

end Parser

end CellFormula
