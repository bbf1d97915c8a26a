import CellFormula.Proofs.Parser.Blame
import CellFormula.Proofs.Token.Spans

namespace CellFormula

def Diagnostic.Marks (d : Diagnostic) (t : Token) : Prop := d.start = t.start ∧ d.stop = t.stop

structure Diagnostic.PointsInto (d : Diagnostic) (text : String) : Prop where
  formula : d.formula = some text
  missing : d.fault = .missingOperand → (Token.scan text).failure = none ∧
    ∃ t, (Token.scan text).items.getLast? = some t ∧ d.start = t.stop ∧ d.stop = d.start + 1
  unexpected : d.fault = .unexpectedToken → ∃ t ∈ (Token.scan text).items, d.Marks t
  unbalanced : d.fault = .unbalancedBracket → ∃ t ∈ (Token.scan text).items, d.Marks t ∧
    ∃ s, t.lexeme = .symbol s ∧ s.isBracket
  bounds : 0 ≤ d.start ∧ d.start < d.stop ∧ d.start ≤ text.length

lemma LexicalError.stage_diagnostic (e : LexicalError) : e.diagnostic.fault.stage = .lexical := by
  cases he : e.cause <;> simp [diagnostic, LexicalCause.fault, Fault.stage, he]

namespace Diagnostic

variable {text message : String} {fault : Fault} {start stop : Int} {t : Token}

lemma bounds_of_mem (ht : t ∈ (Token.scan text).items) :
    0 ≤ t.start ∧ t.start < t.stop ∧ t.stop ≤ text.length := Token.lies_of_mem_scan ht

lemma pointsInto_of_missing (hf : (Token.scan text).failure = none)
    (ht : (Token.scan text).items.getLast? = some t) :
    PointsInto ⟨.missingOperand, message, t.stop, t.stop + 1, some text⟩ text := by
  obtain ⟨h₁, h₂, h₃⟩ := bounds_of_mem (List.mem_of_getLast? ht)
  refine ⟨rfl, fun _ => ⟨hf, t, ht, rfl, rfl⟩, by simp, by simp, ?_⟩
  dsimp only
  omega

lemma pointsInto_of_unexpected (ht : t ∈ (Token.scan text).items) :
    PointsInto ⟨.unexpectedToken, message, t.start, t.stop, some text⟩ text := by
  obtain ⟨h₁, h₂, h₃⟩ := bounds_of_mem ht
  refine ⟨rfl, by simp, fun _ => ⟨t, ht, rfl, rfl⟩, by simp, h₁, h₂, ?_⟩
  dsimp only
  omega

lemma pointsInto_of_unbalanced (ht : t ∈ (Token.scan text).items) (hb : Parser.IsBracket t) :
    PointsInto ⟨.unbalancedBracket, message, t.start, t.stop, some text⟩ text := by
  obtain ⟨h₁, h₂, h₃⟩ := bounds_of_mem ht
  refine ⟨rfl, by simp, by simp, fun _ => ⟨t, ht, ⟨rfl, rfl⟩, hb⟩, h₁, h₂, ?_⟩
  dsimp only
  omega

end Diagnostic

namespace Formula

theorem pointsInto_of_parse {text : String} {f : Failure} {d : Diagnostic}
    (h : parse text = .error f) (hd : f.diagnostic? (some text) = some d)
    (hs : d.fault.stage = .syntactic) : d.PointsInto text := by
  cases f with
  | nonfinite | defect => cases hd
  | lexical e =>
    cases hd
    rw [LexicalError.stage_diagnostic] at hs
    cases hs
  | syntactic cause =>
    have hb := blames_of_parseTokens h
    cases hd
    cases cause with
    | missing need after => exact Diagnostic.pointsInto_of_missing hb.1 hb.2
    | misplaced | strayInList | leftover => exact Diagnostic.pointsInto_of_unexpected hb
    | unclosed | unclosedList | unmatched => exact Diagnostic.pointsInto_of_unbalanced hb.1 hb.2

theorem pointsInto_unfinished : Diagnostic.PointsInto
    ⟨.missingOperand, "nothing to negate after '-'", 2, 3, some "(-"⟩ "(-" := by
  have hopen : Region.outside.cut '(' ['-'] = .ok ⟨.symbol .openBracket, 1, Nat.one_pos⟩ := rfl
  have hminus : Region.outside.cut '-' [] = .ok ⟨.symbol .subtract, 1, Nat.one_pos⟩ := rfl
  have hs : Token.scan "(-" =
      .ofList [⟨.symbol .openBracket, 0, 1⟩, ⟨.symbol .subtract, 1, 2⟩] := by
    calc Token.scan "(-"
      _ = Token.scanFrom "(-" .outside 0 ['(', '-'] := rfl
      _ = .cons ⟨.symbol .openBracket, 0, 1⟩ (Token.scanFrom "(-" .outside 1 ['-']) :=
        Token.scanFrom_cut rfl hopen
      _ = .cons ⟨.symbol .openBracket, 0, 1⟩ (.cons ⟨.symbol .subtract, 1, 2⟩
          (Token.scanFrom "(-" .outside 2 [])) := congrArg _ (Token.scanFrom_cut rfl hminus)
      _ = .ofList [⟨.symbol .openBracket, 0, 1⟩, ⟨.symbol .subtract, 1, 2⟩] := by
        rw [Token.scanFrom_nil]
        rfl
  have h : parse "(-" = .error (.syntactic (.missing .negation ⟨.symbol .subtract, 1, 2⟩)) := by
    rw [parse, hs]
    rfl
  exact pointsInto_of_parse h rfl rfl

end Formula

end CellFormula
