import CellFormula.Proofs.Parser.Outcome

namespace CellFormula

namespace Step

def around (operand : List Lexeme) : Step → List Lexeme
  | start => operand
  | add => .symbol .add :: operand
  | subtract => .symbol .subtract :: operand
  | multiply => .symbol .multiply :: operand
  | divide => .symbol .divide :: operand
  | power => .symbol .power :: operand
  | percent => operand ++ [.symbol .percent]

end Step

namespace Expr

mutual

def written : Expr → List Lexeme
  | empty => []
  | string text => [.string text]
  | error code => [.error code]
  | number d => if d.negative then [.symbol .subtract, .number d.negate] else [.number d]
  | boolean b => [.literal (if b then "TRUE" else "FALSE")]
  | cell name => [.literal name]
  | bracketed e => .symbol .openBracket :: written e ++ [.symbol .closeBracket]
  | call name es =>
    .literal name :: .symbol .openBracket :: writtenList es ++ [.symbol .closeBracket]
  | comparison op a b => written a ++ .symbol op.symbol :: written b
  | chain operations => writtenSteps operations
  | intersection a b => written a ++ written b
  | union es => writtenList es
  | textJoin a b => written a ++ .symbol .ampersand :: written b
  | range a b => written a ++ .symbol .colon :: written b
  | sheet name ref => written name ++ .symbol .bang :: written ref
  | structured e => .symbol .openSquare :: written e ++ [.symbol .closeSquare]
  | table name e => .literal name :: written e

def writtenList : List Expr → List Lexeme
  | [] => []
  | [e] => written e
  | e :: es => written e ++ .symbol .comma :: writtenList es

def writtenSteps : List (Step × Expr) → List Lexeme
  | [] => []
  | (step, e) :: operations => step.around (written e) ++ writtenSteps operations

end

def writtenBehind (es : List Expr) : List Lexeme := es.flatMap fun e => .symbol .comma :: e.written

lemma writtenList_cons (e : Expr) (es : List Expr) :
    writtenList (e :: es) = e.written ++ writtenBehind es := by
  induction es generalizing e with
  | nil => simp [writtenList, writtenBehind]
  | cons e' es ih =>
    rw [writtenList, ih]
    · rfl
    · simp

lemma writtenBehind_eq {es : List Expr} (h : es ≠ []) :
    writtenBehind es = .symbol .comma :: writtenList es := by
  cases es with
  | nil => exact (h rfl).elim
  | cons e es =>
    rw [writtenList_cons]
    rfl

lemma written_ofColumns (es : List Expr) : (ofColumns es).written =
    .symbol .openSquare :: writtenList es ++ [.symbol .closeSquare] := by
  rcases es with _ | ⟨e, _ | ⟨e', es⟩⟩ <;> rfl

end Expr

lemma Step.around_ofSymbol? {s : Symbol} {step : Step} (h : Step.ofSymbol? s = some step)
    (operand : List Lexeme) : step.around operand = .symbol s :: operand := by
  cases s <;> cases h <;> rfl

lemma eq_of_truthValue? {name : String} {b : Bool} (h : truthValue? name = some b) :
    name = if b then "TRUE" else "FALSE" := by
  unfold truthValue? at h
  split at h
  · cases h
    assumption
  · split at h
    · cases h
      assumption
    · cases h

namespace Parser

variable {fin : Option LexicalError} {c : Call} {ts rest : List Token} {a : Answer}

def lexemes (ts : List Token) : List Lexeme := ts.map Token.lexeme

def Unsigned (ts : List Token) : Prop := ∀ t ∈ ts, ∀ d, t.lexeme = .number d → d.negative = false

lemma Unsigned.suffix {us : List Token} (h : Unsigned ts) (hs : us <:+ ts) : Unsigned us :=
  fun t ht => h t (hs.subset ht)

/-- What a call writes back of the tokens that it took, together with those that were taken for
it before. -/
def Spells (fin : Option LexicalError) : Call → List Token → Answer → List Token → Prop
  | .compound, ts, .expr e, rest | .operand, ts, .expr e, rest | .value, ts, .expr e, rest =>
    lexemes ts = e.written ++ lexemes rest
  | .named name, ts, .expr e, rest => .literal name :: lexemes ts = e.written ++ lexemes rest
  | .items closer _ .filled, ts, .list es, rest => Stops fin Token.startsOperand ts →
    lexemes ts = Expr.writtenBehind es ++ .symbol closer :: lexemes rest
  | .items closer _ .opening, ts, .list es, rest =>
    lexemes ts = Expr.writtenList es ++ .symbol closer :: lexemes rest
  | .items closer _ .vacant, ts, .list es, rest =>
    es ≠ [] ∧ lexemes ts = Expr.writtenList es ++ .symbol closer :: lexemes rest
  | .immediateJoins left, ts, .expr e, rest | .tighterJoins _ left, ts, .expr e, rest
  | .join _ left, ts, .expr e, rest => left.written ++ lexemes ts = e.written ++ lexemes rest
  | .chainSteps _ step _, ts, .steps operations, rest => ∀ s, Step.ofSymbol? s = some step →
    .symbol s :: lexemes ts = Expr.writtenSteps operations ++ lexemes rest
  | _, _, _, _ => True

section Items

variable {closer : Symbol} {opener t : Token} {slot : Slot} {us : List Token} {e : Expr}
  {es : List Expr}

lemma spells_beforeComma (ht : t.lexeme = .symbol .comma)
    (h : Spells fin (.items closer opener .vacant) ts (.list es) rest) :
    Spells fin (.items closer opener slot) (t :: ts) (.list (slot.beforeComma es)) rest := by
  obtain ⟨hne, h⟩ := h
  have hb : lexemes (t :: ts) = Expr.writtenBehind es ++ .symbol closer :: lexemes rest := by
    rw [Expr.writtenBehind_eq hne, List.cons_append, ← h, ← ht]
    rfl
  have he : Expr.writtenList (.empty :: es) = Expr.writtenBehind es := Expr.writtenList_cons _ _
  cases slot with
  | opening => exact hb.trans (he ▸ rfl)
  | vacant => exact ⟨List.cons_ne_nil _ _, hb.trans (he ▸ rfl)⟩
  | filled => exact fun _ => hb

lemma spells_beforeClose (ht : t.lexeme = .symbol closer) :
    Spells fin (.items closer opener slot) (t :: rest) (.list slot.beforeClose) rest := by
  have h : lexemes (t :: rest) = .symbol closer :: lexemes rest := by
    rw [← ht]
    rfl
  cases slot with
  | opening => exact h
  | vacant => exact ⟨List.cons_ne_nil _ _, h⟩
  | filled => exact fun _ => h

lemma spells_item (hr : Reads fin .compound ts (.expr e) us)
    (he : lexemes ts = e.written ++ lexemes us)
    (h : Spells fin (.items closer opener .filled) us (.list es) rest) :
    Spells fin (.items closer opener slot) ts (.list (e :: es)) rest := by
  have hw : lexemes ts = Expr.writtenList (e :: es) ++ .symbol closer :: lexemes rest := by
    rw [he, h hr.stops_startsOperand, Expr.writtenList_cons, List.append_assoc]
  cases slot with
  | opening => exact hw
  | vacant => exact ⟨List.cons_ne_nil _ _, hw⟩
  | filled =>
    intro hn
    obtain ⟨t, us, rfl, ht⟩ := hr.starts (.inl rfl)
    rw [show t.startsOperand = false from hn] at ht
    cases ht

end Items

theorem spells_of_reads (h : Reads fin c ts a rest) (hu : Unsigned ts) :
    Spells fin c ts a rest := by
  induction h with
  | last h h' _ ih ih' =>
    have he := ih hu
    have he' := ih' (hu.suffix h.suffix)
    exact he.trans he'
  | textJoin h h' ht hr ih ih' ih'' =>
    have hu' := hu.suffix h.suffix
    have he := (ih hu).trans (ih' hu')
    have hr := ih'' (hu'.suffix ((List.suffix_cons _ _).trans h'.suffix))
    simp only [Spells, lexemes, List.map_cons, ht] at he hr ⊢
    rw [he, hr, Expr.written, List.append_assoc, List.cons_append]
  | intersection h h' hr ih ih' ih'' =>
    have hu' := hu.suffix h.suffix
    have he := (ih hu).trans (ih' hu')
    have hr := ih'' (hu'.suffix h'.suffix)
    simp only [Spells] at he hr ⊢
    rw [he, hr, Expr.written, List.append_assoc]
  | plain _ ih => exact ih hu
  | negation ht _ _ ih =>
    have he := ih (hu.suffix (List.suffix_cons _ _))
    simp only [Spells, lexemes, List.map_cons, ht] at he ⊢
    rw [he]
    simp [Expr.written, Expr.writtenSteps, Step.around]
  | literal ht _ ih =>
    have he := ih (hu.suffix (List.suffix_cons _ _))
    simpa only [Spells, lexemes, List.map_cons, ht] using he
  | string ht | error ht =>
    simp only [Spells, lexemes, List.map_cons, ht]
    rfl
  | number ht =>
    have hd := hu _ List.mem_cons_self _ ht
    simp [Spells, lexemes, ht, Expr.written, hd]
  | @negative _ _ _ d ht hn =>
    have hd := hu _ (List.mem_cons_of_mem _ List.mem_cons_self) _ hn
    have hn' : d.negate.negative = true := by simp [Decimal.negate, hd]
    simp [Spells, lexemes, ht, hn, Expr.written, hn', Decimal.negate_negate]
  | brackets ht hc =>
    simp only [Spells, lexemes, List.map_cons, ht, hc]
    rfl
  | bracketed ht _ hc ih =>
    have he := ih (hu.suffix (List.suffix_cons _ _))
    simp only [Spells, lexemes, List.map_cons, ht, hc] at he ⊢
    rw [he]
    simp [Expr.written]
  | columns ht _ ih =>
    have he := ih (hu.suffix (List.suffix_cons _ _))
    simp only [Spells, lexemes, List.map_cons, ht] at he ⊢
    rw [he, Expr.written_ofColumns]
    simp
  | call ht _ ih =>
    have he := ih (hu.suffix (List.suffix_cons _ _))
    simp only [Spells, lexemes, List.map_cons, ht] at he ⊢
    rw [he]
    simp [Expr.written]
  | truth hn =>
    simp only [Spells, Expr.written, eq_of_truthValue? hn]
    rfl
  | sheet _ ht _ ih =>
    have he := ih (hu.suffix (List.suffix_cons _ _))
    simp only [Spells, lexemes, List.map_cons, ht] at he ⊢
    rw [he]
    rfl
  | table _ _ _ ih =>
    have he := ih hu
    simp only [Spells, Expr.written, List.cons_append] at he ⊢
    rw [he]
  | cell => rfl
  | comma ht _ ih => exact spells_beforeComma ht (ih (hu.suffix (List.suffix_cons _ _)))
  | close ht => exact spells_beforeClose ht
  | item _ _ h _ ih ih' => exact spells_item h (ih hu) (ih' (hu.suffix h.suffix))
  | immediateStop | tighterStop => rfl
  | immediateStep _ h _ ih ih' | tighterStep _ h _ ih ih' =>
    have he := ih hu
    have he' := ih' (hu.suffix h.suffix)
    exact he.trans he'
  | range ht _ ih | text ht _ ih =>
    have he := ih (hu.suffix (List.suffix_cons _ _))
    simp only [Spells, lexemes, List.map_cons, ht] at he ⊢
    rw [he, Expr.written, List.append_assoc, List.cons_append]
  | percent ht =>
    simp only [Spells, lexemes, List.map_cons, ht]
    simp [Expr.written, Expr.writtenSteps, Step.around]
  | maths ht hs _ ih =>
    have he := ih (hu.suffix (List.suffix_cons _ _)) _ hs
    simp only [Spells, lexemes, List.map_cons, ht] at he ⊢
    rw [he, ← List.append_assoc]
    rfl
  | comparison ht h _ ih ih' =>
    have hu' := hu.suffix (List.suffix_cons _ _)
    have he := (ih hu').trans (ih' (hu'.suffix h.suffix))
    simp only [Spells, lexemes, List.map_cons, ht] at he ⊢
    rw [he, Expr.written, List.append_assoc, List.cons_append]
  | lastStep h _ _ ih ih' =>
    have he := (ih hu).trans (ih' (hu.suffix h.suffix))
    intro s hs
    rw [he, Expr.writtenSteps, Step.around_ofSymbol? hs]
    simp [Expr.writtenSteps]
  | nextStep h h' ht _ ih ih' ih'' =>
    have hu' := hu.suffix h.suffix
    have he := (ih hu).trans (ih' hu')
    obtain ⟨s', ht, -, hs'⟩ := Token.chainStep?_eq_some_iff.mp ht
    have ho := ih'' (hu'.suffix ((List.suffix_cons _ _).trans h'.suffix)) s' hs'
    intro s hs
    simp only [lexemes, List.map_cons, ht] at he ho ⊢
    rw [he, ho, Expr.writtenSteps, Step.around_ofSymbol? hs, List.cons_append, List.cons_append,
      List.append_assoc]

end Parser

namespace Formula

theorem written_of_parseTokens {source : Source Token LexicalError} {e : Expr}
    (hu : ∀ t ∈ source.items, ∀ d, t.lexeme = .number d → d.negative = false)
    (h : parseTokens source = .ok (some e)) : e.written = source.items.map Token.lexeme := by
  obtain ⟨-, hr⟩ := reads_of_parseTokens h
  have hs := Parser.spells_of_reads hr hu
  simpa [Parser.Spells, Parser.lexemes] using hs.symm

-- `F(,-5)% TRUE`
def folded : Source Token LexicalError :=
  .ofList [⟨.literal "F", 0, 1⟩, ⟨.symbol .openBracket, 1, 2⟩, ⟨.symbol .comma, 2, 3⟩,
    ⟨.symbol .subtract, 3, 4⟩, ⟨.number ⟨false, 5, 0⟩, 4, 5⟩, ⟨.symbol .closeBracket, 5, 6⟩,
    ⟨.symbol .percent, 6, 7⟩, ⟨.literal "TRUE", 8, 12⟩]

theorem written_folded :
    (Expr.intersection (.chain [(.percent, .call "F" [.empty, .number ⟨true, 5, 0⟩])])
      (.boolean true)).written = folded.items.map Token.lexeme := by
  apply written_of_parseTokens
  · simp [folded, Source.ofList]
  · rfl

end Formula

end CellFormula
