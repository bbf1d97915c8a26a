import CellFormula.Proofs.Grammar.Lists
import CellFormula.Proofs.Parser.Demand

/-! What stands before the token that a refusal is blamed on can be continued to a formula, and so
can a stream that ends too early. A call that failed is completed from the inside outwards: by a
name where an expression has to follow, and by the bracket that closes what was opened. -/

namespace CellFormula

namespace Parser

variable {fin : Option LexicalError} {ts us vs rest pre old new after : List Token}
  {c d : Call} {a a' : Answer} {t : Token} {e : Expr} {cause : ParseCause}

def standIn : Token := ⟨.literal "A", 0, 1⟩

def closerToken (closer : Symbol) : Token := ⟨.symbol closer, 0, 1⟩

lemma Separated.compound (hm : Separated fin rest) (h : Reads fin .operand ts (.expr e) rest) :
    Reads fin .compound ts (.expr e) rest :=
  .last h (.immediateStop (hm.stops blind_joinsAtOnce)) (hm.stops blind_continues)

lemma Separated.standIn_value (hm : Separated fin rest) :
    Reads fin .value (standIn :: rest) (.expr (.cell "A")) rest :=
  .literal rfl (.cell rfl (hm.stops blind_qualifies))

lemma Separated.standIn_compound (hm : Separated fin rest) :
    Reads fin .compound (standIn :: rest) (.expr (.cell "A")) rest :=
  hm.compound (.plain hm.standIn_value)

def Call.Gives : Call → Answer → Prop
  | items .., a => ∃ es, a = .list es
  | chainSteps .., a => ∃ operations, a = .steps operations
  | _, a => ∃ e, a = .expr e

lemma Reads.gives (h : Reads fin c ts a rest) : c.Gives a := by
  cases h <;> exact ⟨_, rfl⟩

lemma Reads.exists_cons_of_join (h : Reads fin (.join t e) ts a rest) : ∃ us, ts = t :: us :=
  List.head?_eq_some_iff.mp h.head?_join

def Call.front : Call → List Token → List Token
  | chainSteps _ _ operator, ts => operator :: ts
  | _, ts => ts

/-- What stands before `old` may be read before `new` as well: the same token comes next, or one
that ends every expression. -/
def Resumes (old new : List Token) : Prop :=
  (∃ t, old.head? = some t ∧ new.head? = some t) ∨ Separated none new

lemma resumes_cons : Resumes (t :: us) (t :: vs) := .inl ⟨t, rfl, rfl⟩

lemma Resumes.append (h : Resumes old new) (pre : List Token) :
    Resumes (pre ++ old) (pre ++ new) := by
  cases pre with
  | nil => exact h
  | cons => exact resumes_cons

lemma Resumes.replaces (h : Resumes old new) : Replaces fin old none new := by
  intro test ht hs
  rcases h with ⟨t, ho, hn⟩ | hn
  · obtain ⟨us, rfl⟩ := List.head?_eq_some_iff.mp ho
    obtain ⟨vs, rfl⟩ := List.head?_eq_some_iff.mp hn
    exact hs
  · exact hn.stops ht

lemma Resumes.front (hd : pre = [] → ∀ vs, d.front vs = vs)
    (h : Resumes (d.front us) (d.front vs)) :
    Resumes (c.front (pre ++ us)) (c.front (pre ++ vs)) := by
  have hp : Resumes (pre ++ us) (pre ++ vs) := by
    cases pre with
    | nil => exact hd rfl us ▸ hd rfl vs ▸ h
    | cons => exact resumes_cons
  cases c with
  | chainSteps => exact resumes_cons
  | _ => exact hp

lemma exists_resumed (h : Reads fin c ts a us) (h' : Reads fin d us a' rest) :
    ∃ pre, ts = pre ++ rest ∧ ∀ new, Resumes rest new →
      ∃ us', Reads none c (pre ++ new) a us' ∧ Reads none d us' a' new := by
  obtain ⟨mid, rfl⟩ := h'.suffix
  obtain ⟨pre, rfl⟩ := h.suffix
  refine ⟨pre ++ mid, (List.append_assoc _ _ _).symm, fun new hn => ⟨mid ++ new, ?_, ?_⟩⟩
  · rw [List.append_assoc]
    exact reads_of_replaces (hn.append mid).replaces h
  · exact reads_of_replaces hn.replaces h'

/-- What `c` takes of `ts` before `rest` is left can be continued so that `c` answers, whatever
separator follows then. -/
def Completable (rest : List Token) (c : Call) (ts : List Token) : Prop :=
  ∃ before more, ts = before ++ rest ∧ ∀ after, Separated none after →
    Resumes (c.front ts) (c.front (before ++ (more ++ after))) ∧
      ∃ a, Reads none c (before ++ (more ++ after)) a after

lemma Completable.enclose (h : Completable rest d us) (pre post : List Token)
    (hpost : ∀ after, Separated none after → Separated none (post ++ after))
    (hd : pre = [] → ∀ vs, d.front vs = vs)
    (hc : ∀ vs after a, Separated none after → Resumes (d.front us) (d.front vs) →
      Reads none d vs a (post ++ after) → ∃ a', Reads none c (pre ++ vs) a' after) :
    Completable rest c (pre ++ us) := by
  obtain ⟨before, more, rfl, h⟩ := h
  refine ⟨pre ++ before, more ++ post, (List.append_assoc _ _ _).symm, fun after hm => ?_⟩
  obtain ⟨hf, a, ha⟩ := h (post ++ after) (hpost after hm)
  simp only [List.append_assoc]
  exact ⟨hf.front hd, hc _ _ a hm hf ha⟩

lemma Completable.extend (h : Completable rest d us) (pre : List Token)
    (hd : pre = [] → ∀ vs, d.front vs = vs)
    (hc : ∀ vs after a, Separated none after → Resumes (d.front us) (d.front vs) →
      Reads none d vs a after → ∃ a', Reads none c (pre ++ vs) a' after) :
    Completable rest c (pre ++ us) :=
  h.enclose pre [] (fun _ hm => hm) hd hc

lemma completable_of_enters (hc : c.Closes) (he : Enters fin c ts d us)
    (h : Completable rest d us) : Completable rest c ts := by
  cases he with
  | operand =>
    refine h.extend [] (fun _ _ => rfl) fun vs after a hm _ hr => ?_
    obtain ⟨e, rfl⟩ := hr.gives
    exact ⟨_, hm.compound hr⟩
  | joins hr =>
    obtain ⟨pre, rfl⟩ := hr.suffix
    refine h.extend pre (fun _ _ => rfl) fun vs after a hm hn hj => ?_
    obtain ⟨e, rfl⟩ := hj.gives
    exact ⟨_, .last (reads_of_replaces hn.replaces hr) hj (hm.stops blind_continues)⟩
  | @textJoin _ _ _ t _ _ hr hj ht =>
    obtain ⟨pre, rfl, hp⟩ := exists_resumed hr hj
    rw [List.append_cons]
    refine h.extend (pre ++ [t]) (fun _ _ => rfl) fun vs after a _ _ hr => ?_
    obtain ⟨e, rfl⟩ := hr.gives
    obtain ⟨us', h₁, h₂⟩ := hp (t :: vs) resumes_cons
    rw [List.append_cons] at h₁
    exact ⟨_, .textJoin h₁ h₂ ht hr⟩
  | intersection hr hj =>
    obtain ⟨pre, rfl, hp⟩ := exists_resumed hr hj
    refine h.extend pre (fun _ _ => rfl) fun vs after a _ hn hr => ?_
    obtain ⟨e, rfl⟩ := hr.gives
    obtain ⟨us', h₁, h₂⟩ := hp vs hn
    exact ⟨_, .intersection h₁ h₂ hr⟩
  | value =>
    refine h.extend [] (fun _ _ => rfl) fun vs after a _ _ hr => ?_
    obtain ⟨e, rfl⟩ := hr.gives
    exact ⟨_, .plain hr⟩
  | @negation t _ ht hs =>
    refine h.extend [t] (fun _ _ => rfl) fun vs after a _ hn hr => ?_
    obtain ⟨e, rfl⟩ := hr.gives
    exact ⟨_, .negation ht (hn.replaces _ blind_isNumber hs) hr⟩
  | @literal t _ _ ht =>
    refine h.extend [t] (fun _ _ => rfl) fun vs after a _ _ hr => ?_
    obtain ⟨e, rfl⟩ := hr.gives
    exact ⟨_, .literal ht hr⟩
  | @bracketed t _ ht =>
    refine h.enclose [t] [closerToken .closeBracket] (fun _ _ => separated_of_symbol rfl rfl)
      (fun _ _ => rfl) fun vs after a _ _ hr => ?_
    obtain ⟨e, rfl⟩ := hr.gives
    exact ⟨_, .bracketed ht hr rfl⟩
  | @columns t _ ht =>
    refine h.extend [t] (fun _ _ => rfl) fun vs after a _ _ hr => ?_
    obtain ⟨es, rfl⟩ := hr.gives
    exact ⟨_, .columns ht hr⟩
  | @call _ t _ ht =>
    refine h.extend [t] (fun _ _ => rfl) fun vs after a _ _ hr => ?_
    obtain ⟨es, rfl⟩ := hr.gives
    exact ⟨_, .call ht hr⟩
  | @sheet _ t _ hb ht =>
    refine h.extend [t] (fun _ _ => rfl) fun vs after a _ _ hr => ?_
    obtain ⟨e, rfl⟩ := hr.gives
    exact ⟨_, .sheet hb ht hr⟩
  | table hb ht =>
    refine h.extend [] (fun _ _ => rfl) fun vs after a _ hn hr => ?_
    obtain ⟨e, rfl⟩ := hr.gives
    obtain ⟨u, us, rfl, hu⟩ := hr.starts (.inr (.inr rfl))
    rcases hn with ⟨t, ho, hn⟩ | ⟨s, hs, hsep⟩
    · cases ho
      cases hn
      exact ⟨_, .table hb ht hr⟩
    · rw [not_separates_of_startsOperand hu hs] at hsep
      cases hsep
  | @comma _ _ _ t _ ht =>
    refine h.extend [t] (fun _ _ => rfl) fun vs after a _ _ hr => ?_
    obtain ⟨es, rfl⟩ := hr.gives
    exact ⟨_, .comma ht hr⟩
  | @item closer =>
    refine h.enclose [] [closerToken closer]
      (fun _ _ => separated_of_symbol rfl (separates_of_isClose hc)) (fun _ _ => rfl)
      fun vs after a _ _ hr => ?_
    obtain ⟨e, rfl⟩ := hr.gives
    exact ⟨_, reads_item_of_compound hc hr (.close rfl (ne_comma_of_isClose hc))⟩
  | items _ _ hr =>
    obtain ⟨pre, hpre⟩ := hr.suffix
    rw [← hpre] at hr ⊢
    refine h.extend pre (fun _ _ => rfl) fun vs after a _ hn hi => ?_
    obtain ⟨es, rfl⟩ := hi.gives
    exact ⟨_, reads_item_of_compound hc (reads_of_replaces hn.replaces hr) hi⟩
  | immediate ht =>
    refine h.extend [] (fun _ _ => rfl) fun vs after a hm _ hr => ?_
    obtain ⟨e, rfl⟩ := hr.gives
    obtain ⟨us, rfl⟩ := hr.exists_cons_of_join
    exact ⟨_, .immediateStep ht hr (.immediateStop (hm.stops blind_joinsAtOnce))⟩
  | immediateNext ht hr =>
    obtain ⟨pre, hpre⟩ := hr.suffix
    rw [← hpre] at hr ⊢
    refine h.extend pre (fun _ _ => rfl) fun vs after a _ (hn : Resumes _ vs) hj => ?_
    obtain ⟨e, rfl⟩ := hj.gives
    have hr := reads_of_replaces hn.replaces hr
    obtain ⟨us, hus⟩ := hr.exists_cons_of_join
    rw [hus] at hr ⊢
    exact ⟨_, .immediateStep ht hr hj⟩
  | tighter ht =>
    refine h.extend [] (fun _ _ => rfl) fun vs after a hm _ hr => ?_
    obtain ⟨e, rfl⟩ := hr.gives
    obtain ⟨us, rfl⟩ := hr.exists_cons_of_join
    exact ⟨_, .tighterStep ht hr (.tighterStop (hm.stops blind_bindsTighter))⟩
  | tighterNext ht hr =>
    obtain ⟨pre, hpre⟩ := hr.suffix
    rw [← hpre] at hr ⊢
    refine h.extend pre (fun _ _ => rfl) fun vs after a _ (hn : Resumes _ vs) hj => ?_
    obtain ⟨e, rfl⟩ := hj.gives
    have hr := reads_of_replaces hn.replaces hr
    obtain ⟨us, hus⟩ := hr.exists_cons_of_join
    rw [hus] at hr ⊢
    exact ⟨_, .tighterStep ht hr hj⟩
  | @range t _ _ ht =>
    refine h.extend [t] (fun _ _ => rfl) fun vs after a _ _ hr => ?_
    obtain ⟨e, rfl⟩ := hr.gives
    exact ⟨_, .range ht hr⟩
  | @text t _ _ ht =>
    refine h.extend [t] (fun _ _ => rfl) fun vs after a _ _ hr => ?_
    obtain ⟨e, rfl⟩ := hr.gives
    exact ⟨_, .text ht hr⟩
  | @maths _ _ t _ _ ht hs =>
    refine h.extend [t] (fun hp => by cases hp) fun vs after a _ _ hr => ?_
    obtain ⟨operations, rfl⟩ := hr.gives
    exact ⟨_, .maths ht hs hr⟩
  | @comparison _ t _ _ ht =>
    refine h.extend [t] (fun _ _ => rfl) fun vs after a hm _ hr => ?_
    obtain ⟨e, rfl⟩ := hr.gives
    exact ⟨_, .comparison ht hr (.tighterStop (hm.stops blind_bindsTighter))⟩
  | @comparisonJoins _ t _ _ _ _ ht hr =>
    obtain ⟨pre, rfl⟩ := hr.suffix
    refine h.extend (t :: pre) (fun _ _ => rfl) fun vs after a _ hn hj => ?_
    obtain ⟨e, rfl⟩ := hj.gives
    exact ⟨_, .comparison ht (reads_of_replaces hn.replaces hr) hj⟩
  | step =>
    refine h.extend [] (fun _ _ => rfl) fun vs after a hm _ hr => ?_
    obtain ⟨e, rfl⟩ := hr.gives
    exact ⟨_, .lastStep hr (.tighterStop (hm.stops blind_bindsTighter)) (hm.stops blind_chainStep)⟩
  | stepJoins hr =>
    obtain ⟨pre, rfl⟩ := hr.suffix
    refine h.extend pre (fun _ _ => rfl) fun vs after a hm hn hj => ?_
    obtain ⟨e, rfl⟩ := hj.gives
    exact ⟨_, .lastStep (reads_of_replaces hn.replaces hr) hj (hm.stops blind_chainStep)⟩
  | @nextStep _ _ _ _ _ t _ _ _ _ hr hj ht =>
    obtain ⟨pre, rfl, hp⟩ := exists_resumed hr hj
    rw [List.append_cons]
    refine h.extend (pre ++ [t]) (fun hp => by simp at hp) fun vs after a _ hn hr => ?_
    obtain ⟨operations, rfl⟩ := hr.gives
    obtain ⟨us', h₁, h₂⟩ := hp (t :: vs) hn
    rw [List.append_cons] at h₁
    exact ⟨_, .nextStep h₁ h₂ ht hr⟩

lemma completable_of_raises (hc : c.Closes) (hf : cause.fault ≠ .unbalancedBracket)
    (hr : Raises fin c ts (.syntactic cause) rest) : Completable rest c ts := by
  cases hr with
  | @textJoin _ _ _ t _ _ hr hj ht =>
    obtain ⟨pre, rfl, hp⟩ := exists_resumed hr hj
    refine ⟨pre ++ [t], [standIn], List.append_cons .., fun after hm => ?_⟩
    obtain ⟨us', h₁, h₂⟩ := hp (t :: standIn :: after) resumes_cons
    rw [← List.append_cons]
    exact ⟨resumes_cons.append pre, _, .textJoin h₁ h₂ ht hm.standIn_compound⟩
  | @negation t _ ht =>
    exact ⟨[t], [standIn], rfl, fun after hm =>
      ⟨resumes_cons, _, .negation ht rfl (.plain hm.standIn_value)⟩⟩
  | brackets | bracketed | unclosedList => exact (hf rfl).elim
  | @sheet _ t _ hb ht =>
    exact ⟨[t], [standIn], rfl, fun after hm =>
      ⟨resumes_cons, _, .sheet hb ht hm.standIn_value⟩⟩
  | @strayInList closer =>
    exact ⟨[], [closerToken closer], rfl, fun after _ =>
      ⟨.inr (separated_of_symbol rfl (separates_of_isClose hc)), _,
        .close rfl (ne_comma_of_isClose hc)⟩⟩
  | @range t _ _ ht =>
    exact ⟨[t], [standIn], rfl, fun after hm => ⟨resumes_cons, _, .range ht hm.standIn_value⟩⟩
  | @text t _ _ ht =>
    exact ⟨[t], [standIn], rfl, fun after hm => ⟨resumes_cons, _, .text ht hm.standIn_compound⟩⟩
  | @comparison _ t _ _ ht =>
    exact ⟨[t], [standIn], rfl, fun after hm => ⟨resumes_cons, _,
      .comparison ht (.plain hm.standIn_value) (.tighterStop (hm.stops blind_bindsTighter))⟩⟩
  | step =>
    exact ⟨[], [standIn], rfl, fun after hm => ⟨resumes_cons, _,
      .lastStep (.plain hm.standIn_value) (.tighterStop (hm.stops blind_bindsTighter))
        (hm.stops blind_chainStep)⟩⟩

theorem completable_of_fails {f : Failure} (hf : Fails fin c ts f rest) (hc : c.Closes)
    (h : f = .syntactic cause) (hb : cause.fault ≠ .unbalancedBracket) :
    Completable rest c ts := by
  induction hf with
  | raise hr =>
    subst h
    exact completable_of_raises hc hb hr
  | enter he _ ih => exact completable_of_enters hc he (ih (hc.enter he) h)

theorem exists_completion_of_rejects (hr : Rejects fin ts (.syntactic cause) rest)
    (hb : cause.fault ≠ .unbalancedBracket) : ∃ before, ts = before ++ rest ∧
      ∃ more e, Reads none .compound (before ++ more) (.expr e) [] := by
  have hnil : Separated none [] := rfl
  generalize hf : Failure.syntactic cause = f at hr
  cases hr with
  | lexical => cases hf
  | fails h =>
    obtain ⟨before, more, rfl, hm⟩ := completable_of_fails h trivial hf.symm hb
    obtain ⟨-, a, ha⟩ := hm [] hnil
    obtain ⟨e, rfl⟩ := ha.gives
    rw [List.append_nil] at ha
    exact ⟨before, rfl, more, e, ha⟩
  | leftover h =>
    obtain ⟨before, rfl⟩ := h.suffix
    exact ⟨before, rfl, [], _, reads_of_replaces (fun _ ht _ => hnil.stops ht) h⟩
  | stray => exact ⟨[], rfl, [standIn], _, hnil.standIn_compound⟩

end Parser

namespace Formula

open CellFormula.Parser

def Viable (ts : List Token) : Prop :=
  ∃ more e, parseTokens (.ofList (ts ++ more)) = .ok (some e)

variable {source : Source Token LexicalError} {b : State} {cause : ParseCause}

lemma exists_viable_of_error (h : run source = .error (.syntactic cause) b)
    (hb : cause.fault ≠ .unbalancedBracket) :
    ∃ before, source.items = before ++ b.rest ∧ cause.blamed? = b.rest.head? ∧ Viable before := by
  have hr := run_cases source
  rw [h] at hr
  obtain ⟨before, hi, more, e, he⟩ := exists_completion_of_rejects hr hb
  exact ⟨before, hi, leavesBlamed_of_rejects hr hb, more, e, parseTokens_eq_some_iff.mpr he⟩

theorem viable_before_blamed (h : run source = .error (.syntactic cause) b) :
    (cause.fault = .unexpectedToken → ∃ i t, source.items[i]? = some t ∧
      cause.blamed? = some t ∧ b.rest = source.items.drop i ∧ Viable (source.items.take i)) ∧
    (cause.fault = .missingOperand → Viable source.items) := by
  constructor
  · intro hf
    obtain ⟨before, hi, hb, hv⟩ := exists_viable_of_error h (by simp [hf])
    obtain ⟨t, ht⟩ : ∃ t, cause.blamed? = some t := by
      cases cause <;> first | exact ⟨_, rfl⟩ | cases hf
    obtain ⟨rest, hrest⟩ := List.head?_eq_some_iff.mp (hb.symm.trans ht)
    refine ⟨before.length, t, ?_, ht, ?_, ?_⟩ <;> rw [hi]
    · simp [hrest]
    · rw [List.drop_left]
    · rwa [List.take_left]
  · intro hf
    obtain ⟨before, hi, hb, hv⟩ := exists_viable_of_error h (by simp [hf])
    have hn : cause.blamed? = none := by cases cause <;> first | rfl | cases hf
    rw [hi, List.head?_eq_none_iff.mp (hb.symm.trans hn), List.append_nil]
    exact hv

-- `F(A,-,`
theorem viable_before_comma : ∃ source cause b, run source = .error (.syntactic cause) b ∧
    cause.message = "nothing to negate after '-', found ," ∧
    ∃ i t, source.items[i]? = some t ∧ cause.blamed? = some t ∧
      b.rest = source.items.drop i ∧ Viable (source.items.take i) := by
  refine ⟨.ofList [⟨.literal "F", 0, 1⟩, ⟨.symbol .openBracket, 1, 2⟩, ⟨.literal "A", 2, 3⟩,
    ⟨.symbol .comma, 3, 4⟩, ⟨.symbol .subtract, 4, 5⟩, ⟨.symbol .comma, 5, 6⟩], _, _, rfl, rfl, ?_⟩
  exact (viable_before_blamed rfl).1 rfl

end Formula

end CellFormula
