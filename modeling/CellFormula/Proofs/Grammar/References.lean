import CellFormula.Proofs.Expr.Traversal
import CellFormula.Proofs.Parser.Outcome

namespace CellFormula

def Symbol.openSquares (depth : Nat) : Symbol → Nat
  | openSquare => depth + 1
  | closeSquare => depth - 1
  | _ => depth

lemma Symbol.openSquares_of_not_bracket {s : Symbol} (h : s.isBracket = false) (depth : Nat) :
    s.openSquares depth = depth := by
  cases s <;> first | rfl | cases h

namespace Parser

def cellNames (depth : Nat) : List Token → List String
  | [] => []
  | t :: ts =>
    match t.lexeme with
    | .literal name =>
      if depth = 0 ∧ name ≠ "TRUE" ∧ name ≠ "FALSE" ∧ ts.head?.any Token.qualifies = false then
        name :: cellNames depth ts
      else cellNames depth ts
    | .symbol s => cellNames (s.openSquares depth) ts
    | .string _ | .error _ | .number _ | .special _ => cellNames depth ts

def seen (depth : Nat) (es : List Expr) : List String :=
  if depth = 0 then es.flatMap Expr.references else []

variable {fin : Option LexicalError} {c : Call} {ts us rest : List Token} {a : Answer}
  {t u : Token} {s : Symbol} {depth : Nat} {e : Expr} {name : String}

lemma seen_nil : seen depth [] = [] := ite_self _

lemma seen_append (as bs : List Expr) : seen depth (as ++ bs) = seen depth as ++ seen depth bs := by
  cases depth with
  | zero => exact List.flatMap_append
  | succ depth => rfl

lemma seen_cons (e : Expr) (es : List Expr) :
    seen depth (e :: es) = seen depth [e] ++ seen depth es :=
  seen_append [e] es

lemma seen_children (e : Expr) (h : e.cellName? = none) :
    seen depth [e] = seen depth e.referenceChildren := by
  simp only [seen, List.flatMap_singleton, Expr.references_of_children h]

lemma seen_cell : seen depth [.cell name] = if depth = 0 then [name] else [] := by
  simp only [seen, List.flatMap_singleton, Expr.references_cell]

lemma seen_leaf (e : Expr) (h : e.cellName? = none) (hc : e.referenceChildren = []) :
    seen depth [e] = [] := by
  rw [seen_children e h, hc, seen_nil]

lemma seen_inner {inner : Expr} (e : Expr) (h : e.cellName? = none)
    (hc : e.referenceChildren = [inner]) : seen depth [e] = seen depth [inner] := by
  rw [seen_children e h, hc]

lemma seen_pair {left right : Expr} (e : Expr) (h : e.cellName? = none)
    (hc : e.referenceChildren = [left, right]) :
    seen depth [e] = seen depth [left] ++ seen depth [right] := by
  rw [seen_children e h, hc, seen_cons]

lemma seen_ofColumns (es : List Expr) : seen depth [.ofColumns es] = [] := by
  rcases es with _ | ⟨e, _ | ⟨e', es⟩⟩ <;> exact seen_leaf _ rfl rfl

lemma cellNames_symbol (ht : t.lexeme = .symbol s) :
    cellNames depth (t :: ts) = cellNames (s.openSquares depth) ts := by
  simp only [cellNames, ht]

lemma cellNames_operator (ht : t.lexeme = .symbol s) (hs : s.isBracket = false) :
    cellNames depth (t :: ts) = cellNames depth ts := by
  rw [cellNames_symbol ht, Symbol.openSquares_of_not_bracket hs]

lemma cellNames_step {step : Step} (ht : t.lexeme = .symbol s) (hs : Step.ofSymbol? s = some step) :
    cellNames depth (t :: ts) = cellNames depth ts :=
  cellNames_operator ht (by cases s <;> cases hs <;> rfl)

lemma cellNames_literal (hu : u.lexeme = .literal name) : cellNames depth (u :: ts) =
    (if depth = 0 ∧ truthValue? name = none ∧ ts.head?.any Token.qualifies = false then [name]
      else []) ++ cellNames depth ts := by
  simp only [cellNames, hu, truthValue?_eq_none_iff, and_assoc]
  split <;> rfl

lemma cellNames_qualified (hu : u.lexeme = .literal name) (ht : t.qualifies) :
    cellNames depth (u :: t :: ts) = cellNames depth (t :: ts) := by
  rw [cellNames_literal hu, if_neg, List.nil_append]
  rintro ⟨-, -, h⟩
  rw [List.head?_cons, Option.any_some, ht] at h
  cases h

lemma cellNames_truth {b : Bool} (hu : u.lexeme = .literal name) (hn : truthValue? name = some b) :
    cellNames depth (u :: ts) = cellNames depth ts := by
  rw [cellNames_literal hu, if_neg, List.nil_append]
  rintro ⟨-, h, -⟩
  rw [hn] at h
  cases h

lemma cellNames_cell (hu : u.lexeme = .literal name) (hn : truthValue? name = none)
    (hs : Stops fin Token.qualifies ts) :
    cellNames depth (u :: ts) = seen depth [.cell name] ++ cellNames depth ts := by
  have hq : ts.head?.any Token.qualifies = false := by
    cases ts with
    | nil => rfl
    | cons t ts => exact hs
  simp only [cellNames_literal hu, seen_cell, hn, hq, and_self, and_true]

/-- What a call takes for references is what it answers with, together with what was taken for
it before. -/
def Refers : Call → List Token → Answer → List Token → Prop
  | .compound, ts, .expr e, rest | .operand, ts, .expr e, rest | .value, ts, .expr e, rest =>
    ∀ depth, cellNames depth ts = seen depth [e] ++ cellNames depth rest
  | .named name, ts, .expr e, rest => ∀ depth (u : Token), u.lexeme = .literal name →
    cellNames depth (u :: ts) = seen depth [e] ++ cellNames depth rest
  | .items closer _ _, ts, .list es, rest =>
    ∀ depth, cellNames depth ts = seen depth es ++ cellNames (closer.openSquares depth) rest
  | .immediateJoins left, ts, .expr e, rest | .tighterJoins _ left, ts, .expr e, rest
  | .join _ left, ts, .expr e, rest =>
    ∀ depth, seen depth [left] ++ cellNames depth ts = seen depth [e] ++ cellNames depth rest
  | .chainSteps _ _ _, ts, .steps operations, rest => ∀ depth,
    cellNames depth ts = seen depth (operations.map Prod.snd) ++ cellNames depth rest
  | _, _, _, _ => True

section Slots

variable {slot : Slot} {es : List Expr}

lemma seen_beforeComma : seen depth (slot.beforeComma es) = seen depth es := by
  cases slot with
  | filled => rfl
  | opening | vacant => rw [Slot.beforeComma, seen_cons, seen_leaf .empty rfl rfl, List.nil_append]

lemma seen_beforeClose : seen depth slot.beforeClose = [] := by
  cases slot with
  | vacant => exact seen_leaf .empty rfl rfl
  | opening | filled => exact seen_nil

end Slots

theorem refers_of_reads (h : Reads fin c ts a rest) : Refers c ts a rest := by
  induction h with
  | last _ _ _ ih ih' => exact fun depth => (ih depth).trans (ih' depth)
  | textJoin _ _ ht _ ih ih' ih'' =>
    intro depth
    have hr := (cellNames_symbol ht).trans (ih'' depth)
    rw [ih depth, ih' depth, hr, seen_pair (.textJoin _ _) rfl rfl, List.append_assoc]
  | intersection _ _ _ ih ih' ih'' =>
    intro depth
    rw [ih depth, ih' depth, ih'' depth, seen_pair (.intersection _ _) rfl rfl, List.append_assoc]
  | plain _ ih => exact ih
  | negation ht _ _ ih =>
    intro depth
    rw [seen_inner (.chain _) rfl rfl]
    exact (cellNames_symbol ht).trans (ih depth)
  | literal ht _ ih => exact fun depth => ih depth _ ht
  | string ht | error ht | number ht =>
    intro depth
    simp only [cellNames, ht]
    rw [seen_leaf _ rfl rfl, List.nil_append]
  | negative ht hn =>
    intro depth
    rw [cellNames_symbol ht, seen_leaf _ rfl rfl, List.nil_append]
    simp only [cellNames, hn]
    rfl
  | brackets ht hc =>
    intro depth
    rw [cellNames_symbol ht, cellNames_symbol hc, seen_inner (.bracketed _) rfl rfl,
      seen_leaf .empty rfl rfl]
    rfl
  | bracketed ht _ hc ih =>
    intro depth
    rw [cellNames_symbol ht, seen_inner (.bracketed _) rfl rfl]
    have hr := ih depth
    rw [cellNames_symbol hc] at hr
    exact hr
  | columns ht _ ih =>
    intro depth
    rw [cellNames_symbol ht, seen_ofColumns]
    exact ih (depth + 1)
  | call ht _ ih =>
    intro depth u hu
    have hq : Token.qualifies _ := Token.qualifies_of_symbol ht
    rw [cellNames_qualified hu hq, cellNames_symbol ht, seen_children (.call _ _) rfl]
    exact ih depth
  | truth hn =>
    intro depth u hu
    rw [cellNames_truth hu hn, seen_leaf _ rfl rfl, List.nil_append]
  | sheet _ ht _ ih =>
    intro depth u hu
    rw [cellNames_qualified hu (Token.qualifies_of_symbol ht), cellNames_symbol ht,
      seen_inner (.sheet _ _) rfl rfl]
    exact ih depth
  | table _ ht _ ih =>
    intro depth u hu
    rw [cellNames_qualified hu (Token.qualifies_of_symbol ht), seen_inner (.table _ _) rfl rfl]
    exact ih depth
  | cell hn hs => exact fun depth u hu => cellNames_cell hu hn hs
  | comma ht _ ih =>
    intro depth
    rw [cellNames_symbol ht, seen_beforeComma]
    exact ih depth
  | close ht =>
    intro depth
    rw [cellNames_symbol ht, seen_beforeClose, List.nil_append]
  | item _ _ _ _ ih ih' =>
    intro depth
    rw [ih depth, ih' depth, ← List.append_assoc]
    exact congrArg (· ++ _) (seen_cons _ _).symm
  | immediateStop | tighterStop => exact fun _ => rfl
  | immediateStep _ _ _ ih ih' | tighterStep _ _ _ ih ih' =>
    exact fun depth => (ih depth).trans (ih' depth)
  | range ht _ ih =>
    intro depth
    rw [cellNames_symbol ht, seen_pair (.range _ _) rfl rfl, List.append_assoc]
    exact congrArg _ (ih depth)
  | text ht _ ih =>
    intro depth
    rw [cellNames_symbol ht, seen_pair (.textJoin _ _) rfl rfl, List.append_assoc]
    exact congrArg _ (ih depth)
  | percent ht =>
    intro depth
    rw [cellNames_symbol ht, seen_inner (.chain _) rfl rfl]
    rfl
  | maths ht hs _ ih =>
    intro depth
    rw [cellNames_step ht hs, ih depth, seen_children (.chain _) rfl, ← List.append_assoc]
    exact congrArg (· ++ _) (seen_cons _ _).symm
  | @comparison _ _ _ _ op _ _ _ ht _ _ ih ih' =>
    intro depth
    rw [cellNames_operator ht (by cases op <;> rfl), seen_pair (.comparison _ _ _) rfl rfl,
      List.append_assoc]
    exact congrArg _ ((ih depth).trans (ih' depth))
  | lastStep _ _ _ ih ih' => exact fun depth => (ih depth).trans (ih' depth)
  | nextStep _ _ ht _ ih ih' ih'' =>
    intro depth
    obtain ⟨s, ht, -, hs⟩ := Token.chainStep?_eq_some_iff.mp ht
    rw [ih depth, ih' depth, cellNames_step ht hs, ih'' depth, ← List.append_assoc]
    exact congrArg (· ++ _) (seen_cons _ _).symm

end Parser

namespace Formula

theorem references_of_parseTokens {source : Source Token LexicalError} {e : Expr}
    (h : parseTokens source = .ok (some e)) :
    e.references = Parser.cellNames 0 source.items := by
  obtain ⟨-, hr⟩ := reads_of_parseTokens h
  have hn : Parser.cellNames 0 source.items = Parser.seen 0 [e] ++ Parser.cellNames 0 [] :=
    Parser.refers_of_reads hr 0
  rw [hn, Parser.seen, if_pos rfl, List.flatMap_singleton]
  exact (List.append_nil _).symm

-- `F(A)-S!B T[C]`
def qualified : Source Token LexicalError :=
  .ofList [⟨.literal "F", 0, 1⟩, ⟨.symbol .openBracket, 1, 2⟩, ⟨.literal "A", 2, 3⟩,
    ⟨.symbol .closeBracket, 3, 4⟩, ⟨.symbol .subtract, 4, 5⟩, ⟨.literal "S", 5, 6⟩,
    ⟨.symbol .bang, 6, 7⟩, ⟨.literal "B", 7, 8⟩, ⟨.literal "T", 9, 10⟩,
    ⟨.symbol .openSquare, 10, 11⟩, ⟨.literal "C", 11, 12⟩, ⟨.symbol .closeSquare, 12, 13⟩]

def qualification : Expr :=
  .intersection
    (.chain [(.start, .call "F" [.cell "A"]), (.subtract, .sheet (.cell "S") (.cell "B"))])
    (.table "T" (.structured (.cell "C")))

theorem references_qualification : parseTokens qualified = .ok (some qualification) ∧
    qualification.references = ["A", "B"] := by
  have h : parseTokens qualified = .ok (some qualification) := rfl
  exact ⟨h, (references_of_parseTokens h).trans rfl⟩

end Formula

end CellFormula
