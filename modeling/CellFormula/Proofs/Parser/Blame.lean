import CellFormula.Proofs.Parser.Outcome

namespace CellFormula

namespace Parser

variable {fin : Option LexicalError} {all ts us rest : List Token} {c d : Call} {t : Token}
  {cause : ParseCause}

def IsBracket (t : Token) : Prop := ∃ s, t.lexeme = .symbol s ∧ s.isBracket

def Blames (fin : Option LexicalError) (all : List Token) : ParseCause → Prop
  | .missing _ after => fin = none ∧ all.getLast? = some after
  | .misplaced _ t | .strayInList t _ | .leftover t => t ∈ all
  | .unclosed t | .unclosedList t | .unmatched t => t ∈ all ∧ IsBracket t

/-- What is known of the tokens `all` of the stream when a call has the tokens `ts` left. -/
def Reached (all : List Token) : Call → List Token → Prop
  | .items _ opener _, ts => ts <:+ all ∧ opener ∈ all ∧ IsBracket opener
  | .chainSteps _ _ operator, ts => operator :: ts <:+ all
  | _, ts => ts <:+ all

lemma Reached.suffix (h : Reached all c ts) : ts <:+ all := by
  cases c with
  | items => exact h.1
  | chainSteps => exact (List.suffix_cons _ _).trans h
  | _ => exact h

lemma mem_of_cons_suffix (h : t :: ts <:+ all) : t ∈ all := h.subset List.mem_cons_self

lemma blames_lack {need : Need} {after : Token} (h : after :: ts <:+ all)
    (hf : ts = [] → fin = none) : Blames fin all (.lack need after ts) := by
  cases ts with
  | nil =>
    obtain ⟨before, rfl⟩ := h
    exact ⟨hf rfl, List.getLast?_concat⟩
  | cons t ts => exact mem_of_cons_suffix ((List.suffix_cons _ _).trans h)

lemma blames_ofStray (h : t ∈ all) (hc : Blames fin all cause) :
    Blames fin all (.ofStray t cause) := by
  unfold ParseCause.ofStray
  split
  · rename_i ht
    obtain ⟨s, hs, hclose⟩ := (Option.any_eq_true _ _).mp ht
    refine ⟨h, s, Token.symbol?_eq_some_iff.mp hs, ?_⟩
    revert hclose
    cases s <;> decide
  · exact hc

lemma Blames.blamed (h : Blames fin all cause) (ht : cause.blamed? = some t) :
    t ∈ all ∧ (cause.fault = .unbalancedBracket → IsBracket t) := by
  cases cause with
  | missing => cases ht
  | misplaced | strayInList | leftover =>
    cases ht
    exact ⟨h, fun hf => by cases hf⟩
  | unclosed | unclosedList | unmatched =>
    cases ht
    exact ⟨h.1, fun _ => h.2⟩

lemma reached_of_enters (he : Enters fin c ts d us) (h : Reached all c ts) :
    Reached all d us := by
  have hs := h.suffix
  have hu := he.suffix.trans hs
  cases he with
  | columns ht | call ht => exact ⟨hu, mem_of_cons_suffix hs, _, ht, rfl⟩
  | comma | items => exact ⟨hu, h.2⟩
  | maths => exact hs
  | nextStep he he' => exact he'.suffix.trans (he.suffix.trans hs)
  | _ => exact hu

lemma blames_of_raises (hr : Raises fin c ts (.syntactic cause) rest) (h : Reached all c ts) :
    Blames fin all cause := by
  have hs := h.suffix
  cases hr with
  | textJoin he he' _ hn => exact blames_lack (he'.suffix.trans (he.suffix.trans hs)) hn.eq_none
  | negation _ hn | text _ hn | comparison _ hn => exact blames_lack hs hn.eq_none
  | sheet _ _ hl | range _ hl => exact blames_lack hs hl.eq_none
  | step hn => exact blames_lack h hn.eq_none
  | brackets ht | bracketed ht => exact ⟨mem_of_cons_suffix hs, _, ht, rfl⟩
  | unclosedList => exact h.2
  | strayInList => exact blames_ofStray (mem_of_cons_suffix hs) (mem_of_cons_suffix hs)

theorem blames_of_fails {f : Failure} (hf : Fails fin c ts f rest) (h : Reached all c ts)
    (hc : f = .syntactic cause) : Blames fin all cause := by
  induction hf with
  | raise hr =>
    subst hc
    exact blames_of_raises hr h
  | enter he _ ih => exact ih (reached_of_enters he h) hc

theorem blames_of_rejects {f : Failure} (hr : Rejects fin ts f rest) (hc : f = .syntactic cause) :
    Blames fin ts cause := by
  cases hr with
  | lexical => cases hc
  | fails hf => exact blames_of_fails hf List.suffix_rfl hc
  | leftover he =>
    obtain rfl := Failure.syntactic.inj hc
    exact blames_ofStray (mem_of_cons_suffix he.suffix) (mem_of_cons_suffix he.suffix)
  | stray =>
    obtain rfl := Failure.syntactic.inj hc
    exact blames_ofStray List.mem_cons_self List.mem_cons_self

end Parser

theorem Formula.blames_of_parseTokens {source : Source Token LexicalError} {cause : ParseCause}
    (h : parseTokens source = .error (.syntactic cause)) :
    Parser.Blames source.failure source.items cause := by
  obtain ⟨rest, hr⟩ := rejects_of_parseTokens h
  exact Parser.blames_of_rejects hr rfl

end CellFormula
