import CellFormula.Proofs.Parser.Blame
import CellFormula.Proofs.Parser.Demand
import CellFormula.Proofs.Parser.Whole
import CellFormula.Trace

/-! What is recorded while a text is read: the tokens that the reading took from it, in their order,
and never more than that. As long as something is left of the text, the tokens that were taken
decide how the reading comes out. -/

namespace CellFormula

namespace Parser

variable {α : Type}

def left : EStateM.Result Failure State α → State
  | .ok _ b | .error _ b => b

namespace Query

variable {q : Query} {b c : State}

def pulls (q : Query) (b : State) : List Token := b.source.items.take (q.asked b)

lemma items_of_error {f : Failure} (h : q.read b = .error f c) : c.source.items = [] := by
  by_cases hq : q.reach ≤ b.unread
  · rw [read_of_le hq] at h
    cases h
  · rw [read_of_lt (Nat.lt_of_not_le hq)] at h
    cases hf : b.source.failure <;> rw [hf] at h <;> cases h
    rfl

lemma pulls_append (q : Query) (b : State) :
    q.pulls b ++ (left (q.read b)).source.items = b.source.items := by
  by_cases hq : q.reach ≤ b.unread
  · rw [read_of_le hq]
    exact List.take_append_drop (q.asked b) b.source.items
  · have hl : b.source.items.length ≤ q.asked b := by
      rw [Lookahead.unread] at hq
      rw [asked]
      omega
    rw [read_of_lt (Nat.lt_of_not_le hq), pulls, List.take_of_length_le hl]
    cases b.source.failure <;> exact List.append_nil _

end Query

namespace Script

variable {s : Script α} {q : Query} {b c : State}

def log : Script α → State → List Token
  | done _, _ | fail _, _ => []
  | ask q k, b => q.pulls b ++ match q.read b with
    | .ok o c => (k o).log c
    | .error _ _ => []

lemma log_append (s : Script α) (b : State) :
    s.log b ++ (left (s.run b)).source.items = b.source.items := by
  induction s generalizing b with
  | done a => rfl
  | fail f => rfl
  | ask q k ih =>
    have hp := q.pulls_append b
    cases hr : q.read b with
    | ok o c =>
      rw [hr] at hp
      rw [log, hr, run_ask hr, List.append_assoc]
      exact (congrArg (q.pulls b ++ ·) (ih o c)).trans hp
    | error f c =>
      rw [hr] at hp
      rw [log, hr, run_ask_error hr, List.append_nil]
      exact hp

lemma length_left_le (s : Script α) (b : State) :
    (left (s.run b)).source.items.length ≤ b.source.items.length := by
  rw [← log_append s b, List.length_append]
  exact Nat.le_add_left _ _

lemma Asks.spares_left (h : s.Asks b q c) (hn : (left (s.run b)).source.items ≠ []) :
    q.Spares (left (s.run b)).source.items.length c := by
  induction h with
  | @now q k b =>
    have hp := congrArg List.length (q.pulls_append b)
    cases hr : q.read b with
    | ok o d =>
      rw [run_ask hr] at hn ⊢
      have hl := length_left_le (k o) d
      have hpos := List.length_pos_iff.mpr hn
      rw [hr, List.length_append, Query.pulls, List.length_take, left] at hp
      rw [Query.Spares]
      omega
    | error f d =>
      rw [run_ask_error hr] at hn
      exact absurd (Query.items_of_error hr) hn
  | later hr _ ih =>
    rw [run_ask hr] at hn ⊢
    exact ih hn

end Script

end Parser

namespace Formula

open CellFormula.Parser

variable {source : Source Token LexicalError} {cause : ParseCause}

def demand (source : Source Token LexicalError) : Nat := pulled source (left (run source))

lemma taken_eq_take (source : Source Token LexicalError) :
    taken source (run source) = source.items.take (demand source) := by
  rw [demand, pulled]
  cases run source <;> rfl

lemma log_eq_take {n : Nat} {s : Script (Option Expr)} (hs : s.Plays n formula)
    (hl : source.items.length ≤ n) :
    s.log (.ofSource source) = source.items.take (demand source) := by
  have ha : s.log (.ofSource source) ++ (left (run source)).source.items = source.items := by
    rw [← run_eq_of_plays hs hl]
    exact s.log_append _
  rw [demand, pulled, ← ha, List.length_append, Nat.add_sub_cancel, List.take_left]

lemma take_demand_append (source : Source Token LexicalError) :
    source.items.take (demand source) ++ (left (run source)).source.items = source.items := by
  obtain ⟨s, hs⟩ := exists_plays_formula source.items.length
  rw [← log_eq_take hs (Nat.le_refl _), ← run_eq_of_plays hs (Nat.le_refl _)]
  exact s.log_append _

lemma parseTokens_take_demand (hn : (left (run source)).source.items ≠ []) :
    parseTokens (.ofList (source.items.take (demand source))) = parseTokens source := by
  obtain ⟨s, hs⟩ := exists_plays_formula source.items.length
  -- What is left was never asked for, so a script says the same without it.
  have ha := take_demand_append source
  have hsource : (⟨source.items.take (demand source) ++ (left (run source)).source.items,
      source.failure⟩ : Source Token LexicalError) = source := by rw [ha]
  have hl : (source.items.take (demand source) ++ []).length ≤ source.items.length := by
    rw [List.append_nil]
    exact List.length_take_le' _ _
  have hp := @parseTokens_eq_of_spares source.items.length s (source.items.take (demand source))
    (left (run source)).source.items [] source.failure none hs (Nat.le_of_eq (congrArg _ ha)) hl
  rw [hsource, List.append_nil] at hp
  refine hp fun q c hq => ?_
  rw [← run_eq_of_plays hs (Nat.le_refl _)] at hn ⊢
  exact hq.spares_left hn

lemma take_demand_of_left (h : (left (run source)).source.items = []) :
    source.items.take (demand source) = source.items := by
  have ha := take_demand_append source
  rwa [h, List.append_nil] at ha

lemma left_of_ok {o : Option Expr} (h : parseTokens source = .ok o) :
    (left (run source)).source.items = [] := by
  obtain ⟨-, hr, -⟩ := run_of_parseTokens h
  rw [hr]
  rfl

lemma left_of_lexical {e : LexicalError} (h : parseTokens source = .error (.lexical e)) :
    (left (run source)).source.items = [] := by
  by_contra hn
  have hr := refuses_of_parseTokens ((parseTokens_take_demand hn).trans h)
  cases hr

lemma left_of_missing (h : parseTokens source = .error (.syntactic cause))
    (hc : cause.fault = .missingOperand) : (left (run source)).source.items = [] := by
  rw [parseTokens] at h
  cases hr : run source with
  | ok o b =>
    rw [hr] at h
    cases h
  | error f b =>
    rw [hr] at h
    cases h
    have hb : cause.blamed? = b.rest.head? := leavesBlamed_formula hr (by simp [hc])
    rw [blamed?_eq_none_iff.mpr hc] at hb
    exact (List.append_eq_nil_iff.mp (List.head?_eq_none_iff.mp hb.symm)).2

lemma mem_take_demand {t : Token} (h : parseTokens source = .error (.syntactic cause))
    (ht : cause.blamed? = some t) : t ∈ source.items.take (demand source) := by
  by_cases hn : (left (run source)).source.items = []
  · rw [take_demand_of_left hn]
    exact ((blames_of_parseTokens h).blamed ht).1
  · exact ((blames_of_parseTokens ((parseTokens_take_demand hn).trans h)).blamed ht).1

lemma demand_eq_length (h : (left (run source)).source.items = []) :
    demand source = source.items.length := by
  rw [demand, pulled, h, List.length_nil, Nat.sub_zero]

section Trace

variable {text : String} {markers : Bool}

def scanned (text : String) : List Record :=
  ((Token.scan text).items.take (demand (Token.scan text))).map .scanned

lemma trace_debug (markers : Bool) (text : String) : (trace .debug markers text).1 =
    scanned text ++ if markers then (refusal? text (parse text)).toList else [] := by
  have hl (r : Record) : decide (LogLevel.debug.severity ≤ r.level.severity) = true :=
    decide_eq_true (Nat.le_refl _)
  simp only [trace]
  rw [List.filter_eq_self.mpr fun r _ => hl r, taken_eq_take]
  rfl

lemma trace_silent {level : LogLevel} (h : level ≠ .debug) : (trace level markers text).1 = [] := by
  have hs : LogLevel.debug.severity < level.severity := by
    cases level with
    | debug => exact absurd rfl h
    | _ => decide
  simp only [trace]
  exact List.filter_eq_nil_iff.mpr fun _ _ hr => Nat.not_le.mpr hs (of_decide_eq_true hr)

lemma exists_diagnostic {f : Failure} (h : parse text = .error f) :
    ∃ d, f.diagnostic? (some text) = some d := by
  obtain ⟨e, rfl, -⟩ | ⟨cause, rfl⟩ := refusal_of_parse h <;> exact ⟨_, rfl⟩

end Trace

structure Traced (text : String) : Prop where
  outcome : ∀ level markers, (trace level markers text).2 = parse text
  silent : ∀ level markers, level ≠ .debug → (trace level markers text).1 = []
  unmarked : (trace .debug false text).1 = scanned text
  answered : ∀ o markers, parse text = .ok o → (trace .debug markers text).1 = scanned text
  marked : ∀ f, parse text = .error f → ∃ d, f.diagnostic? (some text) = some d ∧
    (trace .debug true text).1 = scanned text ++ [.refused d text]
  pulled : ∀ n, (Token.scan text).items.length ≤ n →
    (∃ s : Script (Option Expr), s.Plays n formula) ∧
    ∀ s : Script (Option Expr), s.Plays n formula →
      scanned text = (s.log (.ofSource (Token.scan text))).map .scanned
  whole : (∃ o, parse text = .ok o) ∨ (∃ e, parse text = .error (.lexical e)) ∨
      (∃ cause, parse text = .error (.syntactic cause) ∧ cause.fault = .missingOperand) →
    demand (Token.scan text) = (Token.scan text).items.length
  blamed : ∀ cause t, parse text = .error (.syntactic cause) → cause.blamed? = some t →
    t ∈ (Token.scan text).items.take (demand (Token.scan text))

theorem traced (text : String) : Traced text where
  outcome _ _ := rfl
  silent _ _ := trace_silent
  unmarked := (trace_debug false text).trans (List.append_nil _)
  answered o markers h := by
    rw [trace_debug, h]
    cases markers <;> exact List.append_nil _
  marked f h := by
    obtain ⟨d, hd⟩ := exists_diagnostic h
    refine ⟨d, hd, ?_⟩
    rw [trace_debug, h, if_pos rfl, refusal?, hd]
    rfl
  pulled n hl := ⟨exists_plays_formula n, fun s hs => by rw [log_eq_take hs hl, scanned]⟩
  whole h := by
    refine demand_eq_length ?_
    rcases h with ⟨o, h⟩ | ⟨e, h⟩ | ⟨cause, h, hc⟩
    · exact left_of_ok h
    · exact left_of_lexical h
    · exact left_of_missing h hc
  blamed cause t h := mem_take_demand h

end Formula

end CellFormula
