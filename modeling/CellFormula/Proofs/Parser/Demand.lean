import CellFormula.Proofs.Parser.Outcome
import CellFormula.Proofs.Parser.Parametric
import CellFormula.Proofs.Parser.Script

/-! The rules take a token from the source only when they have to see it. A refusal is raised before
anything behind the refused token is asked for, so no failure of the source behind it is found. -/

namespace CellFormula

namespace Parser

variable {α β : Type} {fin : Option LexicalError} {ts rest : List Token} {c : Call} {t : Token}

section Scripted

open Script

def Scripted (Q : Mark → α → α → Prop) (x : Parser α) : Prop :=
  (∃ s : Script α, s.run = x) ∧ ∀ b a b', x b = .ok a b' → ∃ n a', Q n a a'

lemma Scripted.bind {P : Mark → α → α → Prop} {Q : Mark → β → β → Prop} {x : Parser α}
    {f : α → Parser β} (hx : Scripted P x) (hf : ∀ n a a', P n a a' → Scripted Q (f a)) :
    Scripted Q (x >>= f) := by
  obtain ⟨⟨s, hs⟩, hp⟩ := hx
  -- Answers that never occur may go on with any script.
  have hk (a : α) : ∃ k : Script β, (∃ n a', P n a a') → k.run = f a := by
    by_cases ha : ∃ n a', P n a a'
    · obtain ⟨n, a', ha⟩ := ha
      obtain ⟨⟨k, hk⟩, -⟩ := hf n a a' ha
      exact ⟨k, fun _ => hk⟩
    · exact ⟨.fail .defect, fun h => (ha h).elim⟩
  choose k hk using hk
  refine ⟨⟨s.bind k, ?_⟩, fun b a b' h => ?_⟩
  · funext b
    rw [run_bind, hs]
    exact bind_apply_eq rfl fun a c h => by rw [hk a (hp b a c h)]
  · simp only [Bind.bind, EStateM.bind] at h
    cases hr : x b with
    | ok a₁ c =>
      rw [hr] at h
      obtain ⟨n, a', ha⟩ := hp b a₁ c hr
      exact (hf n a₁ a' ha).2 c a b' h
    | error e c =>
      rw [hr] at h
      cases h

lemma Scripted.ask {Q : Mark → Option Token → Option Token → Prop} (q : Query)
    (h : ∀ o, ∃ n, Q n o o) : Scripted Q q.read :=
  ⟨⟨.ask q .done, bind_pure _⟩, fun _ o _ _ => ⟨(h o).choose, o, (h o).choose_spec⟩⟩

lemma Scripted.fail {Q : Mark → α → α → Prop} (f : Failure) : Scripted Q (throw f) :=
  ⟨⟨.fail f, rfl⟩, fun _ _ _ h => by cases h⟩

lemma rel_self {R : Token → Token → Prop} (h : ∀ t, R t t) (o : Option Token) :
    Option.Rel R o o := by
  cases o with
  | none => exact .none
  | some t => exact .some (h t)

def scripted : Congruence where
  token _ := Eq
  leaf _ := Eq
  reader _ Q x _ := Scripted Q x
  kind h := congrArg Token.kind h
  speaks h _ := h
  pure {_ m _ a a'} h := by
    refine ⟨⟨.done a, rfl⟩, fun b _ _ hr => ?_⟩
    cases hr
    exact ⟨m, a', h⟩
  bind := .bind
  peek := .ask .peek fun o => ⟨_, rfl, rel_self (fun _ => rfl) o⟩
  peekSecond _ := .ask .peekSecond fun o => ⟨_, rfl, rel_self (fun _ => rfl) o⟩
  next {m} := .ask .next fun o =>
    ⟨o.elim m m.past, rel_self (fun _ => rfl) o, fun _ h => h ▸ rfl⟩
  skip _ := by
    refine ⟨⟨.ask .next fun _ => .done (), ?_⟩, fun _ _ _ _ => ⟨_, (), rfl⟩⟩
    exact (map_eq_pure_bind (fun _ => ()) next).symm
  refuse _ := .fail _
  spoilt _ _ := .fail _
  spoilt' h hd hs := by
    rw [← h, hd] at hs
    cases hs
  defect := .fail _

def Script.Plays (n : Nat) (s : Script α) (x : Parser α) : Prop :=
  ∀ b : State, b.unread ≤ n → s.run b = x b

lemma exists_plays_formula (n : Nat) : ∃ s : Script (Option Expr), s.Plays n formula := by
  obtain ⟨⟨s, hs⟩, -⟩ := scripted.relates_formula (depth n)
  refine ⟨s, fun b hb => ?_⟩
  rw [hs, formula_eq_within]
  rw [depth, depth]
  omega

end Scripted

section Left

lemma blamed?_lack (need : Need) (t : Token) (ts : List Token) :
    (ParseCause.lack need t ts).blamed? = ts.head? := by
  cases ts <;> rfl

lemma blamed?_ofStray {cause : ParseCause} (h : cause.blamed? = some t) :
    (ParseCause.ofStray t cause).blamed? = some t := by
  rw [ParseCause.ofStray]
  split
  · rfl
  · exact h

lemma blamed?_eq_none_iff {cause : ParseCause} :
    cause.blamed? = none ↔ cause.fault = .missingOperand := by
  cases cause <;> simp [ParseCause.blamed?, ParseCause.fault]

def LeavesBlamed (rest : List Token) : Failure → Prop
  | .lexical _ => rest = [] ∨ ∃ t, rest = [t] ∧ t.isSymbol .subtract
  | .syntactic cause => cause.fault ≠ .unbalancedBracket → cause.blamed? = rest.head?
  | .nonfinite _ | .defect => True

lemma leavesBlamed_of_fails {f : Failure} (h : Fails fin c ts f rest) : LeavesBlamed rest f := by
  induction h with
  | enter _ _ ih => exact ih
  | raise h =>
    cases h with
    | lexical => exact .inl rfl
    | lexicalBehind ht => exact .inr ⟨_, rfl, Token.isSymbol_iff.mpr ht⟩
    | strayInList => exact fun _ => blamed?_ofStray rfl
    | special | negativeSpecial => trivial
    | brackets | bracketed | unclosedList => exact fun h => (h rfl).elim
    | _ => exact fun _ => blamed?_lack _ _ _

lemma leavesBlamed_of_rejects {f : Failure} (h : Rejects fin ts f rest) : LeavesBlamed rest f := by
  cases h with
  | lexical => exact .inl rfl
  | fails h => exact leavesBlamed_of_fails h
  | leftover | stray => exact fun _ => blamed?_ofStray rfl

lemma leavesBlamed_formula {b b' : State} {f : Failure} (h : formula b = .error f b') :
    LeavesBlamed b'.rest f :=
  leavesBlamed_of_rejects (rejects_of_formula h)

end Left

end Parser

namespace Formula

open CellFormula.Parser

variable {source : Source Token LexicalError} {b : State} {n : Nat} {s : Script (Option Expr)}

def pulled (source : Source Token LexicalError) (b : State) : Nat :=
  source.items.length - b.source.items.length

def consumed (source : Source Token LexicalError) (b : State) : Nat :=
  source.items.length - b.unread

/-- The buffer holds what was pulled and not yet consumed: at most one token, or one behind a minus
sign. -/
structure Buffered (source : Source Token LexicalError) (b : State) : Prop where
  rest : b.rest = source.items.drop (consumed source b)
  bound : pulled source b ≤ consumed source b + 2
  minus : pulled source b = consumed source b + 2 →
    ∃ t, source.items[consumed source b]? = some t ∧ t.isSymbol .subtract

lemma buffered_of_narrow (hs : b.rest <:+ source.items) (hn : Script.Narrow b.ahead) :
    Buffered source b := by
  have hr : b.rest = source.items.drop (consumed source b) := by
    rw [consumed, ← Lookahead.length_rest]
    exact List.suffix_iff_eq_drop.mp hs
  have hl := hs.length_le
  rw [Lookahead.length_rest, Lookahead.unread] at hl
  have hp : pulled source b = consumed source b + b.ahead.length := by
    rw [pulled, consumed, Lookahead.unread]
    omega
  refine ⟨hr, ?_, fun h => ?_⟩
  · rcases hn with hn | ⟨t, u, hn, -⟩
    · omega
    · rw [hp, hn]
      exact Nat.le_refl _
  · rcases hn with hn | ⟨t, u, hn, ht⟩
    · omega
    · refine ⟨t, ?_, ht⟩
      rw [← Nat.add_zero (consumed source b), ← List.getElem?_drop, ← hr, Lookahead.rest, hn]
      rfl

structure DemandDriven (n : Nat) (s : Script (Option Expr)) : Prop where
  /-- A refusal for which nothing behind `xs` was asked for comes first, whatever is behind `xs`. -/
  early : ∀ xs ys zs f g cause, (xs ++ ys).length ≤ n → (xs ++ zs).length ≤ n →
    parseTokens ⟨xs ++ ys, f⟩ = .error (.syntactic cause) →
    (∀ q c, s.Asks (.ofSource ⟨xs ++ ys, f⟩) q c → q.Spares ys.length c) →
    parseTokens ⟨xs ++ zs, g⟩ = .error (.syntactic cause)
  buffered : ∀ source : Source Token LexicalError, source.items.length ≤ n →
    ∀ b, s.Passes (.ofSource source) b → Buffered source b
  blamed : ∀ source cause b, source.items.length ≤ n → run source = .error (.syntactic cause) b →
    cause.fault = .unexpectedToken → ∃ t, cause.blamed? = some t ∧
      source.items[consumed source b]? = some t ∧
      (pulled source b ≤ consumed source b + 1 ∨
        t.isSymbol .subtract ∧ pulled source b ≤ consumed source b + 2)

lemma run_eq_of_plays (hs : s.Plays n formula) (hl : source.items.length ≤ n) :
    s.run (.ofSource source) = run source := by
  refine hs _ ?_
  rw [Lookahead.ofSource, Lookahead.unread, List.length_nil, Nat.zero_add]
  exact hl

lemma parseTokens_eq_of_spares {xs ys zs : List Token} {f g : Option LexicalError}
    (hs : s.Plays n formula) (hy : (xs ++ ys).length ≤ n) (hz : (xs ++ zs).length ≤ n)
    (ha : ∀ q c, s.Asks (.ofSource ⟨xs ++ ys, f⟩) q c → q.Spares ys.length c) :
    parseTokens ⟨xs ++ zs, g⟩ = parseTokens ⟨xs ++ ys, f⟩ := by
  have hy : s.run (.ofSource ⟨xs ++ ys, f⟩) = run ⟨xs ++ ys, f⟩ := run_eq_of_plays hs hy
  have hz : s.run (.ofSource ⟨xs ++ zs, g⟩) = run ⟨xs ++ zs, g⟩ := run_eq_of_plays hs hz
  rw [parseTokens, parseTokens, ← hy, ← hz]
  exact Script.outcome_run_congr ha

lemma cautious_of_plays (hs : s.Plays n formula) (hl : source.items.length ≤ n) :
    s.Cautious (.ofSource source) := by
  -- A run that is failed by the source leaves what it has not taken: nothing, or a minus sign.
  refine .inr fun k e t h => ?_
  have hk : (⟨source.items.take k, some e⟩ : Source Token LexicalError).items.length ≤ n :=
    Nat.le_trans (List.length_take_le' k source.items) hl
  rcases leavesBlamed_formula ((run_eq_of_plays hs hk).symm.trans h) with ht | ⟨u, hu, ht⟩
  · cases ht
  · cases hu
    exact ht

lemma buffered_of_plays (hs : s.Plays n formula) (hl : source.items.length ≤ n)
    (hb : s.Passes (.ofSource source) b) : Buffered source b :=
  buffered_of_narrow hb.suffix (hb.narrow (cautious_of_plays hs hl) (.inl (Nat.zero_le 1)))

lemma blamed_of_plays (hs : s.Plays n formula) (hl : source.items.length ≤ n) {cause : ParseCause}
    (hr : run source = .error (.syntactic cause) b) (hc : cause.fault = .unexpectedToken) :
    ∃ t, cause.blamed? = some t ∧ source.items[consumed source b]? = some t ∧
      (pulled source b ≤ consumed source b + 1 ∨
        t.isSymbol .subtract ∧ pulled source b ≤ consumed source b + 2) := by
  have hb := buffered_of_plays hs hl (Script.passes_of_error ((run_eq_of_plays hs hl).trans hr))
  have hi : source.items[consumed source b]? = cause.blamed? := by
    have ht : cause.blamed? = b.rest.head? := leavesBlamed_formula hr (by simp [hc])
    rw [ht, hb.rest, List.head?_drop]
  obtain ⟨t, ht⟩ : ∃ t, cause.blamed? = some t :=
    Option.ne_none_iff_exists'.mp (blamed?_eq_none_iff.not.mpr (by simp [hc]))
  refine ⟨t, ht, hi.trans ht, ?_⟩
  by_cases hp : pulled source b = consumed source b + 2
  · obtain ⟨u, hu, hminus⟩ := hb.minus hp
    rw [hi, ht] at hu
    cases hu
    exact .inr ⟨hminus, Nat.le_of_eq hp⟩
  · have := hb.bound
    exact .inl (by omega)

theorem demandDriven (n : Nat) : (∃ s : Script (Option Expr), s.Plays n formula) ∧
    ∀ s : Script (Option Expr), s.Plays n formula → DemandDriven n s := by
  refine ⟨exists_plays_formula n, fun s hs => ⟨?_, ?_, ?_⟩⟩
  · intro xs ys zs f g cause hy hz hp ha
    rw [parseTokens_eq_of_spares hs hy hz ha, hp]
  · exact fun source hl b => buffered_of_plays hs hl
  · exact fun source cause b hl => blamed_of_plays hs hl

theorem parseTokens_append_of_refused {xs : List Token} {e : LexicalError} {cause : ParseCause}
    (h : parseTokens ⟨xs, some e⟩ = .error (.syntactic cause)) (zs : List Token)
    (g : Option LexicalError) : parseTokens ⟨xs ++ zs, g⟩ = .error (.syntactic cause) := by
  obtain ⟨s, hs⟩ := exists_plays_formula (xs ++ zs).length
  rw [← List.append_nil xs] at h
  have hl : (xs ++ []).length ≤ (xs ++ zs).length := by simp
  rw [← h]
  refine parseTokens_eq_of_spares hs hl (Nat.le_refl _) fun q c ha => ha.spares rfl fun d hd => ?_
  have hr : run ⟨xs ++ [], some e⟩ = .error (.lexical e) d := (run_eq_of_plays hs hl).symm.trans hd
  rw [parseTokens, hr] at h
  cases h

end Formula

end CellFormula
