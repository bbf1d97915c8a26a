import CellFormula.Proofs.Parser.Completeness
import CellFormula.Proofs.Parser.Demand

namespace CellFormula

def Token.closes (t : Token) : Bool := t.symbol?.any Symbol.isClose

lemma Token.closes_of_symbol {t : Token} {s : Symbol} (h : t.lexeme = .symbol s) :
    t.closes = s.isClose := by
  rw [closes, symbol?_eq_some_iff.mpr h, Option.any_some]

namespace Parser

variable {α : Type} {fin : Option LexicalError} {ts us rest : List Token} {t : Token} {b c : State}

structure Holds (b : State) (ts : List Token) : Prop where
  rest : b.rest = ts
  failure : b.source.failure = none

lemma holds_ofList (ts : List Token) : Holds (.ofSource (.ofList ts)) ts := ⟨rfl, rfl⟩

inductive Agree : EStateM.Result Failure State α → EStateM.Result Failure State α → Prop
  | ok {a b c ts} : Holds b ts → Holds c ts → Agree (.ok a b) (.ok a c)
  | error {f b c ts} : Holds b ts → Holds c ts → Agree (.error f b) (.error f c)

lemma Script.run_agree (s : Script α) (hb : Holds b ts) (hc : Holds c ts) :
    Agree (s.run b) (s.run c) := by
  induction s generalizing b c ts with
  | done a => exact .ok hb hc
  | fail f => exact .error hb hc
  | ask q k ih =>
    obtain ⟨b', hb', hrb, hfb⟩ := Query.read_ok (.inr hb.failure)
    obtain ⟨c', hc', hrc, hfc⟩ := Query.read_ok (.inr hc.failure)
    rw [hb.rest] at hb' hrb
    rw [hc.rest] at hc' hrc
    rw [run_ask hb', run_ask hc']
    exact ih _ ⟨hrb, hfb.trans hb.failure⟩ ⟨hrc, hfc.trans hc.failure⟩

lemma formula_agree (hb : Holds b ts) (hc : Holds c ts) : Agree (formula b) (formula c) := by
  obtain ⟨s, hs⟩ := exists_plays_formula ts.length
  have hl {b : State} (h : Holds b ts) : b.unread ≤ ts.length :=
    Nat.le_of_eq ((Lookahead.length_rest b).symm.trans (congrArg List.length h.rest))
  rw [← hs b (hl hb), ← hs c (hl hc)]
  exact s.run_agree hb hc

lemma holds_of_error {f : Failure} (hb : Holds b ts) (h : formula b = .error f c) :
    Holds c c.rest := by
  have ha := formula_agree hb hb
  rw [h] at ha
  cases ha with
  | error hc _ => exact ⟨rfl, hc.failure⟩

lemma exists_drop_of_error {f : Failure} (h : formula b = .error f c) :
    ∃ i, c.rest = b.rest.drop i := by
  obtain ⟨s, hs⟩ := exists_plays_formula b.unread
  rw [← hs b (Nat.le_refl _)] at h
  have hc := (Script.passes_of_error h).suffix
  exact ⟨b.rest.length - c.rest.length, List.suffix_iff_eq_drop.mp hc⟩

section Blame

variable {d : Call} {cause : ParseCause} {f : Failure}

def Call.Opens : Call → Prop
  | .items _ opener _ => opener.closes = false
  | _ => True

lemma Call.Opens.enter {c : Call} (h : c.Opens) (he : Enters fin c ts d us) : d.Opens := by
  cases he with
  | columns ht | call ht => exact Token.closes_of_symbol ht
  | comma | items => exact h
  | _ => trivial

def BlamesFront (rest : List Token) : Failure → Prop
  | .syntactic cause => cause.blamed? = rest.head? ∨
      cause.fault = .unbalancedBracket ∧ ∃ t, cause.blamed? = some t ∧ t.closes = false
  | _ => True

lemma blamesFront_of_raises {c : Call} (hr : Raises fin c ts f rest) (h : c.Opens) :
    BlamesFront rest f := by
  cases hr with
  | lexical | lexicalBehind | special | negativeSpecial => trivial
  | brackets ht | bracketed ht => exact .inr ⟨rfl, _, rfl, Token.closes_of_symbol ht⟩
  | unclosedList => exact .inr ⟨rfl, _, rfl, h⟩
  | strayInList => exact .inl (blamed?_ofStray rfl)
  | _ => exact .inl (blamed?_lack _ _ _)

theorem blamesFront_of_fails {c : Call} (hf : Fails fin c ts f rest) (h : c.Opens) :
    BlamesFront rest f := by
  induction hf with
  | raise hr => exact blamesFront_of_raises hr h
  | enter he _ ih => exact ih (h.enter he)

lemma blamesFront_of_rejects (hr : Rejects fin ts f rest) : BlamesFront rest f := by
  cases hr with
  | lexical => trivial
  | fails hf => exact blamesFront_of_fails hf trivial
  | leftover | stray => exact .inl (blamed?_ofStray rfl)

lemma head?_of_formula (h : formula b = .error (.syntactic cause) c)
    (hc : cause.fault = .unbalancedBracket → ∃ t, cause.blamed? = some t ∧ t.closes) :
    c.rest.head? = cause.blamed? := by
  rcases blamesFront_of_rejects (rejects_of_formula h) with hh | ⟨hf, u, hu, hn⟩
  · exact hh.symm
  · obtain ⟨t, ht, hclose⟩ := hc hf
    obtain rfl := Option.some.inj (hu.symm.trans ht)
    rw [hn] at hclose
    cases hclose

lemma lack_ne_leftover {need : Need} {after : Token} :
    ParseCause.lack need after ts ≠ .leftover t := by
  cases ts <;> exact nofun

lemma ne_leftover_of_fails {c : Call} (h : Fails fin c ts f rest) :
    f ≠ .syntactic (.leftover t) := by
  induction h with
  | enter _ _ ih => exact ih
  | raise hr =>
    intro hc
    cases hr with
    | lexical | lexicalBehind | special | negativeSpecial | brackets | bracketed
    | unclosedList => cases hc
    | strayInList =>
      rw [ParseCause.ofStray] at hc
      split at hc <;> cases hc
    | _ => exact lack_ne_leftover (Failure.syntactic.inj hc)

lemma leftover_of_rejects (h : Rejects fin ts (.syntactic (.leftover t)) rest) :
    ∃ us, rest = t :: us ∧ t.startsOperand = false ∧
      ParseCause.ofStray t (.leftover t) = .leftover t := by
  generalize hf : Failure.syntactic (.leftover t) = f at h
  have hstray {u : Token} (h : Failure.syntactic (.leftover t) =
      .syntactic (.ofStray u (.leftover u))) : u = t := by
    rw [ParseCause.ofStray] at h
    split at h <;> cases h
    rfl
  cases h with
  | lexical => cases hf
  | fails h => exact (ne_leftover_of_fails h hf.symm).elim
  | @leftover _ u us _ hr =>
    obtain rfl := hstray hf
    exact ⟨us, rfl, hr.stops_startsOperand, Failure.syntactic.inj hf.symm⟩
  | @stray u us hs =>
    obtain rfl := hstray hf
    exact ⟨us, rfl, hs, Failure.syntactic.inj hf.symm⟩

end Blame

section Leftover

variable {o : Option Expr}

lemma leftover_of_expression (hb : Holds b ts)
    (h : (Parser.peek >>= fun _ => expression) b = .ok o c) (hc : c.rest = t :: us) :
    Gives none (compound · []) ts o (t :: us) ∧ ts ≠ [] ∧ t.startsOperand = false := by
  obtain ⟨b', hp, hr, hf⟩ := @Query.read_ok .peek b (.inr hb.failure)
  have hp : Parser.peek b = .ok b.rest[0]? b' := hp
  have ha := runs_expression ts b' (hr.trans hb.rest) (hf.trans hb.failure)
  simp only [Bind.bind, EStateM.bind, hp] at h
  rw [h] at ha
  obtain ⟨-, ha⟩ := ha
  rw [hc] at ha
  cases o with
  | none =>
    obtain ⟨rfl, hs⟩ := ha
    exact ⟨gives_compound_absent hs, List.cons_ne_nil t us, hs⟩
  | some e =>
    have hr : Reads none .compound ts (.expr e) (t :: us) := ha
    obtain ⟨u, vs, hts, -⟩ := hr.starts (.inl rfl)
    exact ⟨given_of_reads hr [], hts ▸ List.cons_ne_nil u vs, hr.stops_startsOperand⟩

lemma formula_of_leftover (hb : Holds b ts) (hn : ts ≠ [])
    (h : Gives none (compound · []) ts o (t :: us)) :
    ∃ c, formula b = .error (.syntactic (.ofStray t (.leftover t))) c ∧ Holds c (t :: us) := by
  have hr : Runs none formula ts (fun _ _ => False)
      fun f rest => f = .syntactic (.ofStray t (.leftover t)) ∧ rest = t :: us := by
    have he : Runs none expression ts (Exactly o (t :: us)) Never :=
      fun b => h (depth b.unread) b
    obtain ⟨u, vs, rfl⟩ := List.exists_cons_of_ne_nil hn
    simp only [formula]
    refine .peek_cons ((he.mono (fun _ _ => id) fun _ _ => False.elim).bind ?_)
    rintro _ _ ⟨rfl, rfl⟩
    exact .peek_cons (runs_refuse ⟨rfl, rfl⟩)
  have hr := hr b hb.rest hb.failure
  have hd := yields_formula b
  rw [Yields] at hd
  cases hf : formula b with
  | ok o c =>
    rw [hf] at hr
    exact hr.2.elim
  | error f c =>
    rw [hf] at hr hd
    obtain ⟨rfl, hc⟩ := hr.resolve_left hd
    exact ⟨c, rfl, hc, (holds_of_error hb hf).failure⟩

lemma formula_of_stops (hb : Holds b (t :: us)) (ht : t.startsOperand = false) :
    ∃ c, formula b = .error (.syntactic (.ofStray t (.leftover t))) c ∧ Holds c (t :: us) :=
  formula_of_leftover hb (List.cons_ne_nil t us) (gives_compound_absent ht)

end Leftover

end Parser

namespace Formula

open CellFormula.Parser

variable {ts us : List Token} {t : Token} {b c : State}

def leave : Nat → State → State
  | 0, b => b
  | n + 1, b =>
    match Parser.formula b with
    | .ok _ b | .error _ b => leave n b

lemma parseRepeatedly_congr (hb : Holds b ts) (hc : Holds c ts) (n : Nat) :
    parseRepeatedly n b = parseRepeatedly n c := by
  induction n generalizing b c ts with
  | zero => rfl
  | succ n ih =>
    have ha := formula_agree hb hc
    rw [parseRepeatedly, parseRepeatedly]
    generalize formula b = r, formula c = r' at ha
    cases ha with
    | ok hb hc => exact congrArg _ (ih hb hc)
    | error hb hc => exact congrArg _ (ih hb hc)

lemma parseRepeatedly_of_ended (hb : Holds b []) (n : Nat) :
    parseRepeatedly n b = List.replicate n (.ok none) := by
  rw [parseRepeatedly_congr hb (holds_ofList [])]
  induction n with
  | zero => rfl
  | succ n ih => exact congrArg _ ih

lemma parseRepeatedly_of_stops (hb : Holds b (t :: us)) (ht : t.startsOperand = false) (n : Nat) :
    parseRepeatedly n b =
        List.replicate n (.error (.syntactic (.ofStray t (.leftover t)))) ∧
      (leave n b).rest = t :: us := by
  induction n generalizing b with
  | zero => exact ⟨rfl, hb.rest⟩
  | succ n ih =>
    obtain ⟨c, hc, hh⟩ := formula_of_stops hb ht
    obtain ⟨hp, hl⟩ := ih hh
    rw [parseRepeatedly, leave, hc]
    exact ⟨congrArg _ hp, hl⟩

structure Rereads (ts : List Token) : Prop where
  answered : ∀ o b, run (.ofList ts) = .ok o b →
    ∀ n, parseRepeatedly n b = List.replicate n (.ok none)
  missing : ∀ cause b, run (.ofList ts) = .error (.syntactic cause) b →
    cause.fault = .missingOperand → ∀ n, parseRepeatedly n b = List.replicate n (.ok none)
  blamed : ∀ cause b, run (.ofList ts) = .error (.syntactic cause) b →
    cause.fault = .unexpectedToken ∨
      cause.fault = .unbalancedBracket ∧ (∃ t, cause.blamed? = some t ∧ t.closes) →
    ∃ i t, ts[i]? = some t ∧ cause.blamed? = some t ∧ b.rest = ts.drop i ∧
      ∀ n, parseRepeatedly n b = parseRepeatedly n (.ofSource (.ofList (ts.drop i)))
  leftover : ∀ o c t us, (peek >>= fun _ => expression) (.ofSource (.ofList ts)) = .ok o c →
    c.rest = t :: us →
    ∃ b, run (.ofList ts) = .error (.syntactic (.ofStray t (.leftover t))) b ∧ b.rest = t :: us ∧
      ∀ n, parseRepeatedly n b =
          List.replicate n (.error (.syntactic (.ofStray t (.leftover t)))) ∧
        (leave n b).rest = t :: us
  stays : ∀ t b, run (.ofList ts) = .error (.syntactic (.leftover t)) b →
    ∀ n, parseRepeatedly n b = List.replicate n (.error (.syntactic (.leftover t))) ∧
      (leave n b).rest = b.rest

theorem rereads (ts : List Token) : Rereads ts where
  answered o b h n := by
    have hr := run_cases (.ofList ts)
    rw [h] at hr
    obtain ⟨-, rfl, -⟩ := hr
    exact parseRepeatedly_of_ended (holds_ofList []) n
  missing cause b h hf n := by
    have hh := head?_of_formula h (by simp [hf])
    rw [blamed?_eq_none_iff.mpr hf, List.head?_eq_none_iff] at hh
    exact parseRepeatedly_of_ended (hh ▸ holds_of_error (holds_ofList ts) h) n
  blamed cause b h hc := by
    have hf : cause.fault ≠ .missingOperand := by rcases hc with hf | ⟨hf, -⟩ <;> simp [hf]
    obtain ⟨t, ht⟩ := Option.ne_none_iff_exists'.mp (blamed?_eq_none_iff.not.mpr hf)
    have hh := head?_of_formula h fun hf => (hc.resolve_left (by simp [hf])).2
    obtain ⟨i, hi⟩ : ∃ i, b.rest = ts.drop i := exists_drop_of_error h
    refine ⟨i, t, ?_, ht, hi, fun n => ?_⟩
    · rw [← List.head?_drop, ← hi, hh, ht]
    · rw [← hi]
      exact parseRepeatedly_congr (holds_of_error (holds_ofList ts) h) (holds_ofList b.rest) n
  leftover o c t us h hc := by
    obtain ⟨hg, hn, ht⟩ := leftover_of_expression (holds_ofList ts) h hc
    obtain ⟨b, hb, hh⟩ := formula_of_leftover (holds_ofList ts) hn hg
    exact ⟨b, hb, hh.rest, parseRepeatedly_of_stops hh ht⟩
  stays t b h n := by
    obtain ⟨us, hus, ht, hs⟩ := leftover_of_rejects (rejects_of_formula h)
    have hb := holds_of_error (holds_ofList ts) h
    rw [hus] at hb ⊢
    have hp := parseRepeatedly_of_stops hb ht n
    rwa [hs] at hp

end Formula

end CellFormula
