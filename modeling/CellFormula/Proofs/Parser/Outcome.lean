import CellFormula.Formula
import CellFormula.Proofs.Parser.Soundness

namespace CellFormula

namespace Parser

/-- `Rejects fin ts f rest`: a stream of the tokens `ts` is no formula, because of `f`, and `rest`
was not taken. -/
inductive Rejects (fin : Option LexicalError) : List Token → Failure → List Token → Prop
  | lexical {e} : fin = some e → Rejects fin [] (.lexical e) []
  | fails {ts f rest} : Fails fin .compound ts f rest → Rejects fin ts f rest
  | leftover {ts t rest e} : Reads fin .compound ts (.expr e) (t :: rest) →
      Rejects fin ts (.syntactic (.ofStray t (.leftover t))) (t :: rest)
  | stray {t ts} : t.startsOperand = false →
      Rejects fin (t :: ts) (.syntactic (.ofStray t (.leftover t))) (t :: ts)

variable {fin : Option LexicalError}

lemma runs_expression (ts : List Token) : Runs fin expression ts
    (Answers fin .compound ts (Stops fin Token.startsOperand ts)) (Fails fin .compound ts) :=
  fun b hb hf => derived_whole (derived fin (depth b.unread)) ts b hb hf

lemma runs_formula (ts : List Token) : Runs fin formula ts
    (fun o rest => fin = none ∧ rest = [] ∧
      o.elim (ts = []) fun e => Reads fin .compound ts (.expr e) [])
    (Rejects fin ts) := by
  simp only [formula]
  cases ts with
  | nil => exact .peek_nil (fun e he => .lexical he) fun hf => .pure ⟨hf, rfl, rfl⟩
  | cons t ts =>
    apply Runs.peek_cons
    refine Runs.bind ((runs_expression (t :: ts)).mono (fun _ _ h => h) fun _ _ h => .fails h) ?_
    rintro (_ | e) us he
    · obtain ⟨rfl, hs⟩ := he
      exact .peek_cons (runs_refuse (.stray hs))
    · cases us with
      | nil =>
        have hf := he.stops_compound.1.eq_none rfl
        refine .peek_nil (fun e he => ?_) fun _ => .pure ⟨hf, rfl, he⟩
        rw [hf] at he
        cases he
      | cons u us => exact .peek_cons (runs_refuse (.leftover he))

lemma rejects_of_formula {b c : State} {f : Failure} (h : formula b = .error f c) :
    Rejects b.source.failure b.rest f c.rest := by
  have hr := runs_formula b.rest b rfl rfl
  have hd := yields_formula b
  rw [Yields, h] at hd
  rw [h] at hr
  exact hr.resolve_left hd

end Parser

namespace Formula

open CellFormula.Parser

variable {source : Source Token LexicalError}

lemma run_cases (source : Source Token LexicalError) : match run source with
    | .ok o b => source.failure = none ∧ b = .ofSource .empty ∧
        o.elim (source.items = []) fun e => Reads source.failure .compound source.items (.expr e) []
    | .error f b => Rejects source.failure source.items f b.rest := by
  have hr := runs_formula source.items (.ofSource source) rfl rfl
  simp only [run]
  cases h : formula (.ofSource source) with
  | ok o b =>
    rw [h] at hr
    obtain ⟨hfin, hf, hrest, ho⟩ := hr
    obtain ⟨hahead, hitems⟩ := List.append_eq_nil_iff.mp hrest
    obtain ⟨ahead, ⟨items, failure⟩⟩ := b
    exact ⟨hf, by simp_all [Lookahead.ofSource, Source.empty, Source.ofList], ho⟩
  | error f b => exact rejects_of_formula h

lemma run_of_parseTokens {o : Option Expr} (h : parseTokens source = .ok o) :
    source.failure = none ∧ run source = .ok o (.ofSource .empty) ∧
      o.elim (source.items = []) fun e => Reads none .compound source.items (.expr e) [] := by
  have hr := run_cases source
  rw [parseTokens] at h
  cases ho : run source with
  | ok o b =>
    rw [ho] at hr h
    cases h
    obtain ⟨hf, rfl, he⟩ := hr
    exact ⟨hf, rfl, hf ▸ he⟩
  | error f b =>
    rw [ho] at h
    cases h

theorem reads_of_parseTokens {e : Expr} (h : parseTokens source = .ok (some e)) :
    source.failure = none ∧ Reads none .compound source.items (.expr e) [] := by
  obtain ⟨hf, -, he⟩ := run_of_parseTokens h
  exact ⟨hf, he⟩

lemma parseTokens_eq_none_iff : parseTokens source = .ok none ↔ source = .empty := by
  constructor
  · intro h
    obtain ⟨hf, -, hi⟩ := run_of_parseTokens h
    have hi : source.items = [] := hi
    obtain ⟨items, failure⟩ := source
    simp_all [Source.empty, Source.ofList]
  · rintro rfl
    rfl

theorem rejects_of_parseTokens {f : Failure} (h : parseTokens source = .error f) :
    ∃ rest, Rejects source.failure source.items f rest := by
  have hr := run_cases source
  rw [parseTokens] at h
  cases ho : run source with
  | ok o b =>
    rw [ho] at h
    cases h
  | error f b =>
    rw [ho] at hr h
    cases h
    exact ⟨b.rest, hr⟩

end Formula

end CellFormula
