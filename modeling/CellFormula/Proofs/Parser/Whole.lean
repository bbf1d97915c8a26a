import CellFormula.Proofs.Parser.Outcome
import CellFormula.Proofs.Token.Regions

namespace CellFormula

namespace Token

variable {formula : String} {region : Region} {offset : Nat} {cs : List Char}

lemma scanFrom_eq_empty_iff :
    scanFrom formula region offset cs = .empty ↔ ∀ c ∈ cs, Text.isBlank c := by
  fun_induction scanFrom formula region offset cs with
  | case1 => simp
  | case2 region offset c rest hc ih => rw [ih, List.forall_mem_cons, and_iff_right hc]
  | case3 region offset c rest hc e _ =>
    refine ⟨fun h => ?_, fun h => (hc (h c List.mem_cons_self)).elim⟩
    cases congrArg Source.failure h
  | case4 region offset c rest hc cut _ =>
    refine ⟨fun h => ?_, fun h => (hc (h c List.mem_cons_self)).elim⟩
    cases congrArg Source.items h

end Token

namespace Parser

variable {source : Source Token LexicalError} {ts rest : List Token} {c : Call} {f : Failure}

/-- A reader refuses a stream for the failure of its source, for what one of its tokens says in
place of a number, or for a cause of its own. -/
def Refuses (source : Source Token LexicalError) : Failure → Prop
  | .lexical e => source.failure = some e
  | .syntactic _ => True
  | .nonfinite s => ∃ t ∈ source.items, t.lexeme.Spoils s
  | .defect => False

lemma refuses_of_raises (h : Raises source.failure c ts f rest) (hs : ts <:+ source.items) :
    Refuses source f := by
  cases h with
  | lexical _ he | lexicalBehind _ he => exact he
  | @special t _ s hl => exact ⟨t, hs.subset List.mem_cons_self, hl ▸ .plain⟩
  | @negativeSpecial _ u _ s _ hl =>
    exact ⟨u, hs.subset (List.mem_cons_of_mem _ List.mem_cons_self), hl ▸ .negated⟩
  | _ => trivial

lemma refuses_of_fails (h : Fails source.failure c ts f rest) (hs : ts <:+ source.items) :
    Refuses source f := by
  induction h with
  | enter he _ ih => exact ih (he.suffix.trans hs)
  | raise h => exact refuses_of_raises h hs

lemma refuses_of_rejects (h : Rejects source.failure source.items f rest) : Refuses source f := by
  generalize hi : source.items = ts at h
  cases h with
  | lexical he => exact he
  | fails h => exact refuses_of_fails h (hi ▸ List.suffix_rfl)
  | leftover | stray => trivial

end Parser

namespace Formula

open CellFormula.Parser

variable {source : Source Token LexicalError} {text : String} {f : Failure}

lemma refuses_of_parseTokens (h : parseTokens source = .error f) : Refuses source f := by
  obtain ⟨rest, hr⟩ := rejects_of_parseTokens h
  exact refuses_of_rejects hr

lemma refusal_of_parseTokens (hn : ∀ t ∈ source.items, ∀ s, t.lexeme ≠ .special s)
    (h : parseTokens source = .error f) :
    (∃ e, f = .lexical e ∧ source.failure = some e) ∨ ∃ cause, f = .syntactic cause := by
  have hr := refuses_of_parseTokens h
  cases f with
  | lexical e => exact .inl ⟨e, rfl, hr⟩
  | syntactic cause => exact .inr ⟨cause, rfl⟩
  | nonfinite s =>
    obtain ⟨t, ht, hs⟩ := hr
    have hn := hn t ht
    generalize t.lexeme = l at hs hn
    cases hs <;> exact (hn _ rfl).elim
  | defect => exact hr.elim

lemma refusal_of_parse (h : parse text = .error f) :
    (∃ e, f = .lexical e ∧ (Token.scan text).failure = some e) ∨ ∃ cause, f = .syntactic cause :=
  refusal_of_parseTokens (fun _ => Token.not_special_of_mem_scanFrom) h

structure ReadsWhole (text : String) : Prop where
  blank : parse text = .ok none ↔ ∀ c ∈ text.toList, Text.isBlank c
  whole : ∀ o, parse text = .ok o → (Token.scan text).failure = none ∧
    run (Token.scan text) = .ok o (.ofSource .empty)
  refused : ∀ e, (Token.scan text).failure = some e →
    parse text = .error (.lexical e) ∨ ∃ cause, parse text = .error (.syntactic cause)
  lexical : ∀ e, parse text = .error (.lexical e) → (Token.scan text).failure = some e

theorem readsWhole (text : String) : ReadsWhole text where
  blank := parseTokens_eq_none_iff.trans Token.scanFrom_eq_empty_iff
  whole o h := by
    obtain ⟨hf, hr, -⟩ := run_of_parseTokens h
    exact ⟨hf, hr⟩
  refused e he := by
    cases hp : parse text with
    | ok o =>
      obtain ⟨hf, -⟩ := run_of_parseTokens hp
      rw [hf] at he
      cases he
    | error f =>
      obtain ⟨e', rfl, he'⟩ | ⟨cause, rfl⟩ := refusal_of_parse hp
      · obtain rfl := Option.some.inj (he.symm.trans he')
        exact .inl rfl
      · exact .inr ⟨cause, rfl⟩
  lexical e h := refuses_of_parseTokens h

end Formula

end CellFormula
