import CellFormula.Caret
import CellFormula.Proofs.Parser.Diagnosis
import CellFormula.Proofs.Parser.Whole
import CellFormula.Proofs.Token.Forms
import CellFormula.Proofs.Token.Partition
import Mathlib.Data.List.Forall2

namespace CellFormula

namespace Caret

def Shown (c shown : Char) : Prop :=
  if c = '\t' ∨ c = '\n' ∨ c = '\r' then shown = ' ' else shown = c

lemma shown_flatten (c : Char) : Shown c (flatten c) := by
  unfold Shown flatten
  split <;> rfl

lemma exists_lines (text : String) {start stop : Int} (h : start < stop) :
    ∃ first second, lines (mark text start stop) = [first, second] ∧
      List.Forall₂ Shown text.toList first.toList ∧
      second.toList =
        List.replicate start.toNat ' ' ++ List.replicate (stop - start).toNat '^' := by
  refine ⟨line text, underline start stop, lines_mark text start stop, ?_, ?_⟩
  · rw [line, String.toList_ofList, List.forall₂_map_right_iff, List.forall₂_same]
    exact fun c _ => shown_flatten c
  · rw [underline, if_neg (Int.not_le.mpr h), String.toList_ofList]

end Caret

/-- The carets for a diagnostic stand under the characters `blamed` of a text, and `behind` follows
these. -/
def Diagnostic.Covers (d : Diagnostic) (text : String) (blamed behind : List Char) : Prop :=
  ∃ before, text.toList = before ++ (blamed ++ behind) ∧ d.start = before.length ∧
    d.stop = before.length + blamed.length

namespace Token

def BlankUpTo (text : String) (place : Int) : Prop :=
  ∀ (i : Nat) c, i < place → text.toList[i]? = some c →
    (∀ t ∈ (scan text).items, t.stop ≤ i) → Text.isBlank c

lemma shows_of_scan {text : String} {e : LexicalError} (h : (scan text).failure = some e) :
    ∃ blamed behind, e.cause.Shows blamed behind ∧ e.diagnostic.Covers text blamed behind ∧
      (e.cause ≠ .loneEscape → BlankUpTo text e.start) := by
  obtain ⟨skipped, c, rest, here, m, hs, -, hm, rfl, -, hb⟩ := exists_miscut_of_scanFrom h
  obtain ⟨before, blamed, behind, hc, hstart, hstop, hshows, hfirst⟩ := Region.shows_cut hm
  refine ⟨blamed, behind, hshows, ⟨skipped ++ before, ?_, ?_, ?_⟩, fun he i d hi hd ht => ?_⟩
  · rw [hs, hc, List.append_assoc]
  · rw [List.length_append]
    dsimp only [LexicalError.diagnostic]
    omega
  · rw [List.length_append]
    dsimp only [LexicalError.diagnostic]
    omega
  · have hi : i < skipped.length := by
      rw [hstart, hfirst he, List.length_nil] at hi
      dsimp only at hi
      omega
    rw [hs, List.getElem?_append_left hi] at hd
    exact hb i d hd (by rwa [Nat.zero_add])

end Token

structure Failure.Marked (f : Failure) (text : String) (d : Diagnostic) : Prop where
  report : f.diagnostic? (some text) = some d
  formula : d.formula = some text
  lines : ∃ first second, Caret.lines (Caret.mark text d.start d.stop) = [first, second] ∧
    List.Forall₂ Caret.Shown text.toList first.toList ∧
    second.toList = List.replicate d.start.toNat ' ' ++ List.replicate (d.stop - d.start).toNat '^'
  carets : 0 ≤ d.start ∧ 1 ≤ d.stop - d.start
  missing : d.fault = .missingOperand → (Token.scan text).failure = none ∧
    ∃ t, (Token.scan text).items.getLast? = some t ∧ d.start = t.stop ∧ d.stop = t.stop + 1 ∧
      t.stop ≤ text.length
  within : d.fault ≠ .missingOperand → d.stop ≤ text.length
  token : ∀ cause, f = .syntactic cause → d.fault ≠ .missingOperand →
    ∃ t ∈ (Token.scan text).items, cause.blamed? = some t ∧
      ∃ behind, d.Covers text (t.slice text) behind
  bracket : d.fault = .unbalancedBracket → ∃ (s : Symbol) (behind : List Char),
    s.isBracket ∧ d.Covers text s.chars behind
  scan : ∀ e, f = .lexical e → (Token.scan text).failure = some e ∧
    ∃ blamed behind, e.cause.Shows blamed behind ∧ d.Covers text blamed behind ∧
      (e.cause ≠ .loneEscape → Token.BlankUpTo text d.start)

namespace Failure

variable {text : String} {e : LexicalError} {cause : ParseCause} {t : Token}

lemma marked_lexical (h : (Token.scan text).failure = some e) :
    (lexical e).Marked text e.diagnostic := by
  obtain ⟨hf, h₀, hlt, hle, -⟩ := (Token.partition_scan text).failure e h
  have hne {fault : Fault} (hs : fault.stage = .syntactic) : e.diagnostic.fault ≠ fault := by
    rintro rfl
    rw [e.stage_diagnostic] at hs
    cases hs
  exact {
    report := rfl
    formula := congrArg some hf
    lines := Caret.exists_lines text hlt
    carets := ⟨h₀, Int.le_sub_left_of_add_le hlt⟩
    missing := fun hm => (@hne .missingOperand rfl hm).elim
    within := fun _ => hle
    token := fun _ hc => by cases hc
    bracket := fun hb => (@hne .unbalancedBracket rfl hb).elim
    scan := fun _ he => by
      cases he
      exact ⟨h, Token.shows_of_scan h⟩ }

lemma marked_missing {need : Need} (hf : (Token.scan text).failure = none)
    (ht : (Token.scan text).items.getLast? = some t) :
    (syntactic (.missing need t)).Marked text
      ⟨.missingOperand, need.message, t.stop, t.stop + 1, some text⟩ := by
  obtain ⟨h₀, hlt, hle⟩ := Token.lies_of_mem_scan (List.mem_of_getLast? ht)
  exact {
    report := rfl
    formula := rfl
    lines := Caret.exists_lines text (Int.lt_succ t.stop)
    carets := by constructor <;> dsimp only <;> omega
    missing := fun _ => ⟨hf, t, ht, rfl, rfl, hle⟩
    within := fun hn => absurd rfl hn
    token := fun _ _ hn => absurd rfl hn
    bracket := fun hb => by cases hb
    scan := fun _ he => by cases he }

lemma marked_token (hc : cause.blamed? = some t) (ht : t ∈ (Token.scan text).items)
    (hb : cause.fault = .unbalancedBracket → Parser.IsBracket t) :
    (syntactic cause).Marked text ⟨cause.fault, cause.message, t.start, t.stop, some text⟩ := by
  obtain ⟨h₀, hlt, hle⟩ := Token.lies_of_mem_scan ht
  obtain ⟨before, behind, hs, hstart, hstop⟩ := Token.slice_split ht
  have hspan : cause.span = (t.start, t.stop) := by cases cause <;> cases hc <;> rfl
  have hfault : cause.fault ≠ .missingOperand := by
    cases cause <;> cases hc <;> exact fun hf => by cases hf
  exact {
    report := by rw [diagnostic?, hspan]
    formula := rfl
    lines := Caret.exists_lines text hlt
    carets := ⟨h₀, Int.le_sub_left_of_add_le hlt⟩
    missing := fun hm => (hfault hm).elim
    within := fun _ => hle
    token := fun _ he _ => by
      cases he
      exact ⟨t, ht, hc, behind, before, hs, hstart, hstop⟩
    bracket := fun hu => by
      obtain ⟨s, hl, hs'⟩ := hb hu
      rw [Token.slice_of_symbol ht hl] at hs hstop
      exact ⟨s, behind, hs', before, hs, hstart, hstop⟩
    scan := fun _ he => by cases he }

end Failure

namespace Formula

variable {text : String} {f : Failure}

theorem marked_of_parse (h : parse text = .error f) : ∃ d, f.Marked text d := by
  obtain ⟨e, rfl, he⟩ | ⟨cause, rfl⟩ := refusal_of_parse h
  · exact ⟨_, Failure.marked_lexical he⟩
  · have hb := blames_of_parseTokens h
    cases ht : cause.blamed? with
    | none =>
      cases cause <;> cases ht
      exact ⟨_, Failure.marked_missing hb.1 hb.2⟩
    | some t =>
      obtain ⟨hm, hbracket⟩ := hb.blamed ht
      exact ⟨_, Failure.marked_token ht hm hbracket⟩

theorem marked_unclosed : ∃ d,
    Failure.Marked (.lexical ⟨.unclosedQuote '"', 3, 5, "A1\t\"b"⟩) "A1\t\"b" d := by
  have hname : Region.outside.cut 'A' ['1', '\t', '"', 'b'] =
      .ok ⟨.literal "A1", 2, Nat.two_pos⟩ := rfl
  have hquote : Region.outside.cut '"' ['b'] = .error ⟨.unclosedQuote '"', 0, 2⟩ := rfl
  have hs : Token.scan "A1\t\"b" =
      .cons ⟨.literal "A1", 0, 2⟩ (.fail ⟨.unclosedQuote '"', 3, 5, "A1\t\"b"⟩) := by
    calc Token.scan "A1\t\"b"
      _ = Token.scanFrom "A1\t\"b" .outside 0 ['A', '1', '\t', '"', 'b'] := rfl
      _ = .cons ⟨.literal "A1", 0, 2⟩ (Token.scanFrom "A1\t\"b" .outside 2 ['\t', '"', 'b']) :=
        Token.scanFrom_cut rfl hname
      _ = .cons ⟨.literal "A1", 0, 2⟩ (Token.scanFrom "A1\t\"b" .outside 3 ['"', 'b']) := by
        rw [Token.scanFrom_blank rfl]
      _ = .cons ⟨.literal "A1", 0, 2⟩ (.fail ⟨.unclosedQuote '"', 3, 5, "A1\t\"b"⟩) :=
        congrArg _ (Token.scanFrom_miscut rfl hquote)
  refine marked_of_parse ?_
  rw [parse, hs]
  rfl

end Formula

end CellFormula
