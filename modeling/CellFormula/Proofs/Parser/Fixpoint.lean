import CellFormula.Proofs.Parser.Recursion

/-! The rules are the one solution of the plain recursion. The bound on the depth of calls decides
nothing but whether a rule gives up: a rule that does not is the same under every larger bound, and
in every solution. -/

namespace CellFormula.Parser

variable {α β : Type} {x y : Parser α} {b : State} {r s : Rules} {n m : Nat}

/-- From every state the second action does what the first does, unless the first gives up. -/
def Approximates (x y : Parser α) : Prop := ∀ b, y b = x b ∨ ∃ b', x b = .error .defect b'

def Settles (x : Parser α) (b : State) : Prop := Yields x b fun _ _ => True

lemma Yields.settles {Q : α → State → Prop} (h : Yields x b Q) : Settles x b :=
  h.mono fun _ _ _ => trivial

namespace Approximates

lemma refl : Approximates x x := fun _ => .inl rfl

lemma defect : Approximates (throw .defect) y := fun b => .inr ⟨b, rfl⟩

lemma bind {f g : α → Parser β} (h : Approximates x y) (hf : ∀ a, Approximates (f a) (g a)) :
    Approximates (x >>= f) (y >>= g) := by
  intro b
  simp only [Bind.bind, EStateM.bind]
  rcases h b with h | ⟨b', h⟩
  · rw [h]
    cases x b with
    | ok a b' => exact hf a b'
    | error e b' => exact .inl rfl
  · rw [h]
    exact .inr ⟨b', rfl⟩

lemma map {f : α → β} (h : Approximates x y) : Approximates (f <$> x) (f <$> y) := by
  rw [map_eq_pure_bind, map_eq_pure_bind]
  exact h.bind fun _ => refl

lemma eq_of_settles (h : Approximates x y) (hx : Settles x b) : y b = x b := by
  rcases h b with h | ⟨b', h⟩
  · exact h
  · simp only [Settles, Yields, h] at hx
    exact (hx rfl).elim

end Approximates

def Rules.Below (r s : Rules) : Prop := ∀ c, Approximates (r c) (s c)

section Step

variable (h : r.Below s)

include h

lemma compound_step : Approximates (r.step .compound) (s.step .compound) := by
  refine .bind (h .operand) fun e => ?_
  cases e with
  | none => exact .refl
  | some e =>
    refine .bind (h (.immediateJoins e)) fun e => .bind .refl fun t => ?_
    cases t with
    | none => exact .refl
    | some t =>
      dsimp only
      split
      · exact .bind .refl fun _ => .bind (h .compound) fun _ => .refl
      · exact .bind (h .compound) fun _ => .refl

lemma operand_step : Approximates (r.step .operand) (s.step .operand) := by
  refine .bind (h .value) fun e => ?_
  cases e with
  | some e => exact .refl
  | none =>
    refine .bind .refl fun t => ?_
    cases t with
    | none => exact .refl
    | some t =>
      dsimp only
      split
      · exact .bind .refl fun _ => .bind (h .operand) fun _ => .refl
      · exact .refl

lemma value_step : Approximates (r.step .value) (s.step .value) := by
  refine .bind .refl fun t => ?_
  cases t with
  | none => exact .refl
  | some t =>
    dsimp only
    split
    · exact .bind .refl fun _ => .map (h (.named _))
    · exact .refl
    · exact .refl
    · exact .refl
    · exact .refl
    · exact .refl
    · exact .bind .refl fun _ => .bind (h .compound) fun _ => .refl
    · exact .bind .refl fun _ => .bind (h (.items ..)) fun _ => .refl
    · exact .refl

lemma named_step (name : String) :
    Approximates (r.step (.named name)) (s.step (.named name)) := by
  refine .bind .refl fun t => ?_
  cases t with
  | none => exact .refl
  | some t =>
    dsimp only
    split
    · exact .bind .refl fun _ => .bind (h (.items ..)) fun _ => .refl
    · exact .refl
    · exact .bind .refl fun _ => .bind (h .value) fun _ => .refl
    · exact .bind (h .value) fun _ => .refl
    · exact .refl

lemma items_step (closer : Symbol) (opener : Token) (slot : Slot) :
    Approximates (r.step (.items closer opener slot)) (s.step (.items closer opener slot)) := by
  refine .bind .refl fun t => ?_
  cases t with
  | none => exact .refl
  | some t =>
    dsimp only
    split
    · exact .bind .refl fun _ => .bind (h (.items ..)) fun _ => .refl
    · split
      · exact .refl
      · refine .bind (h .compound) fun e => ?_
        cases e with
        | none => exact .refl
        | some e => exact .bind (h (.items ..)) fun _ => .refl

lemma immediateJoins_step (e : Expr) :
    Approximates (r.step (.immediateJoins e)) (s.step (.immediateJoins e)) := by
  refine .bind .refl fun t => ?_
  cases t with
  | none => exact .refl
  | some t =>
    dsimp only
    split
    · exact .bind (h (.join t e)) fun e => h (.immediateJoins e)
    · exact .refl

lemma tighterJoins_step (precedence : Nat) (e : Expr) :
    Approximates (r.step (.tighterJoins precedence e)) (s.step (.tighterJoins precedence e)) := by
  refine .bind .refl fun t => ?_
  cases t with
  | none => exact .refl
  | some t =>
    dsimp only
    split
    · exact .bind (h (.join t e)) fun e => h (.tighterJoins precedence e)
    · exact .refl

lemma join_step (t : Token) (e : Expr) :
    Approximates (r.step (.join t e)) (s.step (.join t e)) := by
  simp only [Rules.step]
  split
  · exact .bind .refl fun _ => .bind (h .value) fun _ => .refl
  · exact .refl
  · exact .bind .refl fun _ => .bind (h .compound) fun _ => .refl
  · split
    · exact .bind .refl fun _ => .bind (h (.chainSteps ..)) fun _ => .refl
    · refine .bind .refl fun _ => .bind (h .operand) fun _ => .bind .refl fun e => ?_
      exact .bind (h (.tighterJoins _ e)) fun _ => .refl
    · exact .refl
  · exact .refl

lemma chainSteps_step (precedence : Nat) (step : Step) (t : Token) :
    Approximates (r.step (.chainSteps precedence step t))
      (s.step (.chainSteps precedence step t)) := by
  refine .bind (h .operand) fun _ => .bind .refl fun e => ?_
  refine .bind (h (.tighterJoins precedence e)) fun _ => .bind .refl fun t => ?_
  cases t with
  | none => exact .refl
  | some t =>
    dsimp only
    split
    · exact .refl
    · exact .bind .refl fun _ => .bind (h (.chainSteps ..)) fun _ => .refl

theorem step_mono : r.step.Below s.step := by
  intro c
  cases c with
  | compound => exact compound_step h
  | operand => exact operand_step h
  | value => exact value_step h
  | named name => exact named_step h name
  | items closer opener slot => exact items_step h closer opener slot
  | immediateJoins e => exact immediateJoins_step h e
  | tighterJoins precedence e => exact tighterJoins_step h precedence e
  | join t e => exact join_step h t e
  | chainSteps precedence step t => exact chainSteps_step h precedence step t

end Step

lemma bounded_zero_below (r : Rules) : (bounded 0).Below r := by
  intro c
  cases c <;> exact .defect

lemma bounded_below (h : n ≤ m) : (bounded n).Below (bounded m) := by
  induction n generalizing m with
  | zero => exact bounded_zero_below _
  | succ n ih =>
    cases m with
    | zero => cases h
    | succ m =>
      rw [bounded_succ, bounded_succ]
      exact step_mono (ih (Nat.le_of_succ_le_succ h))

lemma settles_join (h : 4 * b.unread + 4 ≤ n + 1) (t : Token) (e : Expr) (s : Rules) :
    Settles (join (n + 1) t e) b ∨ join (n + 1) t e = s.step (.join t e) := by
  have ih := progress n
  simp only [join, Rules.step]
  split
  · refine .inl (.bind yields_skip fun _ b₁ h₁ => .bind (ih.value b₁ (by omega)) fun _ _ _ => ?_)
    exact .bind yields_expect fun _ _ _ => .pure trivial
  · exact .inl (.bind yields_skip fun _ _ _ => .pure trivial)
  · refine .inl (.bind yields_skip fun _ b₁ h₁ => ?_)
    refine .bind (ih.compound [] b₁ (by omega)) fun _ _ _ => ?_
    exact .bind yields_expect fun _ _ _ => .pure trivial
  · split
    · refine .inl (.bind yields_skip fun _ b₁ h₁ => ?_)
      exact .bind (ih.chainSteps _ _ _ b₁ (by omega)) fun _ _ _ => .pure trivial
    · refine .inl (.bind yields_skip fun _ b₁ h₁ => .bind (ih.operand b₁ (by omega)) ?_)
      rintro e b₂ ⟨h₂, -⟩
      refine .bind yields_expect fun e b₃ h₃ => ?_
      obtain ⟨rfl, -⟩ := h₃
      exact .bind (ih.tighterJoins _ _ _ (by omega)) fun _ _ _ => .pure trivial
    · right
      simp only [*]
  · right
    simp only [*]

def Call.Ready : Call → State → Prop
  | join t _, b => b.rest.head? = some t ∧ t.symbol?.any Symbol.joins
  | _, _ => True

lemma settles_of_ready {c : Call} (hc : c.Ready b) : Settles (bounded (depth b.unread) c) b := by
  have hp := progress (depth b.unread)
  have le {k : Nat} (h : k ≤ 4) : 4 * b.unread + k ≤ depth b.unread := by
    rw [depth]
    omega
  cases c with
  | compound => exact (hp.compound [] b (le (by decide))).settles
  | operand => exact (hp.operand b (le (by decide))).settles
  | value => exact (hp.value b (le (by decide))).settles
  | named name => exact (hp.named name b (le (by decide))).settles
  | items closer opener slot =>
    exact (hp.items closer opener slot b (le (by decide))).settles
  | immediateJoins e => exact (hp.immediateJoins e b (le (by decide))).settles
  | tighterJoins precedence e =>
    exact (hp.tighterJoins precedence e b (le (by decide))).settles
  | join t e =>
    obtain ⟨ht, hj⟩ := hc
    have hb : 0 < b.unread := by
      rw [Lookahead.unread, ← List.length_append]
      exact List.length_pos_of_mem (List.mem_of_mem_head? ht)
    exact (hp.join t e b (le (by decide)) hb hj).settles
  | chainSteps precedence step t =>
    exact (hp.chainSteps precedence step t b (le (by decide))).settles

lemma settles_bounded (b : State) (c : Call) (s : Rules) :
    Settles (bounded (depth b.unread) c) b ∨ bounded (depth b.unread) c = s.step c := by
  cases c with
  | join t e => exact settles_join (Nat.le_refl (4 * b.unread + 4)) t e s
  | _ => exact .inl (settles_of_ready trivial)

def rules : Rules
  | .compound => expression
  | c => fun b => bounded (depth b.unread) c b

lemma rules_apply (c : Call) (b : State) : rules c b = bounded (depth b.unread) c b := by
  cases c <;> rfl

lemma bounded_below_rules (n : Nat) : (bounded n).Below rules := by
  intro c b
  rw [rules_apply]
  rcases Nat.le_total n (depth b.unread) with h | h
  · exact bounded_below h c b
  · cases n with
    | zero => exact bounded_zero_below _ c b
    | succ n =>
      rcases settles_bounded b c (bounded n) with hs | hs
      · exact .inl ((bounded_below h c).eq_of_settles hs).symm
      · rw [bounded_succ, hs]
        exact .inl rfl

lemma step_eq_rules (h : ∀ n, (bounded n).Below r) : r.step = rules := by
  funext c b
  rw [rules_apply]
  rcases settles_bounded b c r with hs | hs
  · have hc := step_mono (h (4 * b.unread + 3)) c
    rw [← bounded_succ] at hc
    exact hc.eq_of_settles hs
  · rw [hs]

theorem eq_step_iff {r : Rules} : r = r.step ↔ r = rules := by
  constructor
  · intro h
    have hb (n : Nat) : (bounded n).Below r := by
      induction n with
      | zero => exact bounded_zero_below r
      | succ n ih =>
        rw [bounded_succ, h]
        exact step_mono ih
    rw [h, step_eq_rules hb]
  · rintro rfl
    exact (step_eq_rules bounded_below_rules).symm

end CellFormula.Parser
