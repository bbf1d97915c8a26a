import CellFormula.Parser.Rules

namespace CellFormula.Parser

abbrev State := Lookahead Token LexicalError

/-- The answer and the state that is left satisfy `Q`, or the failure is no defect. -/
def Yields {α : Type} (x : Parser α) (b : State) (Q : α → State → Prop) : Prop :=
  match x b with
  | .ok a b' => Q a b'
  | .error f _ => f ≠ .defect

variable {α β : Type} {b : State} {n : Nat}

theorem Yields.bind {x : Parser α} {f : α → Parser β} {P : α → State → Prop}
    {Q : β → State → Prop} (hx : Yields x b P) (hf : ∀ a b', P a b' → Yields (f a) b' Q) :
    Yields (x >>= f) b Q := by
  unfold Yields at *
  simp only [Bind.bind, EStateM.bind]
  cases h : x b with
  | ok a b' => rw [h] at hx; exact hf a b' hx
  | error e b' => rw [h] at hx; exact hx

theorem Yields.pure {a : α} {Q : α → State → Prop} (h : Q a b) : Yields (pure a) b Q := h

theorem Yields.mono {x : Parser α} {P Q : α → State → Prop} (hx : Yields x b P)
    (h : ∀ a b', P a b' → Q a b') : Yields x b Q := by
  unfold Yields at *
  split <;> simp_all

theorem Yields.map {x : Parser α} {f : α → β} {Q : β → State → Prop}
    (hx : Yields x b fun a b' => Q (f a) b') : Yields (f <$> x) b Q := by
  unfold Yields at *
  simp only [Functor.map, EStateM.map]
  cases h : x b <;> simp_all

theorem yields_refuse {c : ParseCause} {Q : α → State → Prop} : Yields (refuse c) b Q := by
  simp [Yields, refuse_apply]

theorem yields_refuseSpecial {s : Decimal.Special} {Q : α → State → Prop} :
    Yields (refuseSpecial s) b Q := by
  simp [Yields, refuseSpecial_apply]

theorem yields_peek : Yields peek b fun t b' =>
    b'.unread = b.unread ∧ (t.isSome → 0 < b.unread) := by
  obtain ⟨ahead, ⟨items, failure⟩⟩ := b
  simp only [Yields, peek, lift, Lookahead.peek_apply, Lookahead.fill]
  cases ahead <;> cases items <;> cases failure <;>
    simp [Lookahead.pull, Lookahead.unread, Pure.pure, EStateM.pure, Source.empty,
      Source.ofList] <;> omega

theorem yields_peekSecond : Yields peekSecond b fun t b' =>
    b'.unread = b.unread ∧ (t.isSome → 1 < b.unread) := by
  obtain ⟨ahead, ⟨items, failure⟩⟩ := b
  simp only [Yields, peekSecond, lift, Lookahead.peekSecond_apply, Lookahead.fill]
  rcases ahead with _ | ⟨t, _ | ⟨u, ahead⟩⟩ <;> rcases items with _ | ⟨t, _ | ⟨u, items⟩⟩ <;>
    cases failure <;>
    simp [Lookahead.pull, Lookahead.unread, Pure.pure, EStateM.pure, Source.empty,
      Source.ofList] <;> omega

theorem yields_next : Yields next b fun _ b' => b'.unread = b.unread - 1 := by
  obtain ⟨ahead, ⟨items, failure⟩⟩ := b
  simp only [Yields, next, lift, Lookahead.next_apply, Lookahead.fill]
  cases ahead <;> cases items <;> cases failure <;>
    simp [Lookahead.pull, Lookahead.unread, Pure.pure, EStateM.pure, Source.empty,
      Source.ofList] <;> omega

theorem yields_skip : Yields skip b fun _ b' => b'.unread = b.unread - 1 := Yields.map yields_next

theorem yields_expect {need : Need} {after : Token} {e : Option Expr} :
    Yields (expect need after e) b fun _ b' => b' = b ∧ e.isSome := by
  cases e with
  | some e => exact .pure ⟨rfl, rfl⟩
  | none =>
    refine .bind yields_peek fun t b' _ => ?_
    cases t <;> exact yields_refuse

def Keeps (b : State) (_ : α) (b' : State) : Prop := b'.unread ≤ b.unread

def Shrinks (b : State) (e : Option Expr) (b' : State) : Prop :=
  b'.unread ≤ b.unread ∧ (e.isSome → b'.unread < b.unread)

structure Progress (n : Nat) : Prop where
  compound : ∀ pending b, 4 * b.unread + 3 ≤ n → Yields (compound n pending) b fun e b' =>
    b'.unread ≤ b.unread ∧ (pending = [] → e.isSome → b'.unread < b.unread)
  operand : ∀ b, 4 * b.unread + 2 ≤ n → Yields (operand n) b (Shrinks b)
  value : ∀ b, 4 * b.unread + 1 ≤ n → Yields (value n) b (Shrinks b)
  named : ∀ name b, 4 * b.unread + 2 ≤ n → Yields (named n name) b (Keeps b)
  items : ∀ closer opener slot b, 4 * b.unread + 4 ≤ n →
    Yields (items n closer opener slot) b (Keeps b)
  immediateJoins : ∀ e b, 4 * b.unread + 2 ≤ n → Yields (immediateJoins n e) b (Keeps b)
  tighterJoins : ∀ precedence e b, 4 * b.unread + 2 ≤ n →
    Yields (tighterJoins n precedence e) b (Keeps b)
  join : ∀ t e b, 4 * b.unread + 1 ≤ n → 0 < b.unread → t.symbol?.any Symbol.joins →
    Yields (join n t e) b fun _ b' => b'.unread < b.unread
  chainSteps : ∀ precedence step t b, 4 * b.unread + 3 ≤ n →
    Yields (chainSteps n precedence step t) b (Keeps b)

theorem yields_compound (ih : Progress n) (pending : List Pending) (b : State)
    (hn : 4 * b.unread + 3 ≤ n + 1) : Yields (compound (n + 1) pending) b fun e b' =>
      b'.unread ≤ b.unread ∧ (pending = [] → e.isSome → b'.unread < b.unread) := by
  simp only [compound]
  refine .bind (ih.operand b (by omega)) fun e b₁ h₁ => ?_
  obtain ⟨hle, hlt⟩ := h₁
  cases e with
  | none =>
    match pending with
    | [] => exact .pure ⟨hle, by simp⟩
    | .textJoin _ _ :: _ => exact .map (.mono yields_expect (by simp))
    | .intersection _ :: _ => exact .pure ⟨hle, by simp⟩
  | some e =>
    have hlt := hlt rfl
    refine .bind (ih.immediateJoins e b₁ (by omega)) fun e b₂ h₂ => ?_
    refine .bind yields_peek fun t b₃ h₃ => ?_
    simp only [Keeps] at h₂
    cases t with
    | none => exact .pure ⟨by omega, by intros; omega⟩
    | some t =>
      dsimp only
      split
      · refine .bind yields_skip fun _ b₄ h₄ => .mono (ih.compound _ b₄ (by omega)) ?_
        exact fun _ _ h => ⟨by omega, by intros; omega⟩
      · refine .mono (ih.compound _ b₃ (by omega)) ?_
        exact fun _ _ h => ⟨by omega, by intros; omega⟩

theorem yields_operand (ih : Progress n) (b : State) (hn : 4 * b.unread + 2 ≤ n + 1) :
    Yields (operand (n + 1)) b (Shrinks b) := by
  simp only [operand]
  refine .bind (ih.value b (by omega)) fun e b₁ h₁ => ?_
  cases e with
  | some e => exact .pure h₁
  | none =>
    obtain ⟨h₁, -⟩ := h₁
    refine .bind yields_peek fun t b₂ h₂ => ?_
    cases t with
    | none => exact .pure ⟨by omega, by simp⟩
    | some t =>
      simp only [Option.isSome_some, true_imp_iff] at h₂
      dsimp only
      split
      · refine .bind yields_skip fun _ b₃ h₃ => ?_
        refine .bind (ih.operand b₃ (by omega)) fun e b₄ h₄ => ?_
        refine .bind yields_expect fun e' b₅ h₅ => ?_
        obtain ⟨rfl, -⟩ := h₅
        obtain ⟨h₄, -⟩ := h₄
        exact .pure ⟨by omega, fun _ => by omega⟩
      · exact .pure ⟨by omega, by simp⟩

theorem yields_value (ih : Progress n) (b : State) (hn : 4 * b.unread + 1 ≤ n + 1) :
    Yields (value (n + 1)) b (Shrinks b) := by
  simp only [value]
  refine .bind yields_peek fun t b₁ h₁ => ?_
  cases t with
  | none => exact .pure ⟨by omega, by simp⟩
  | some t =>
    simp only [Option.isSome_some, true_imp_iff] at h₁
    dsimp only
    split
    · refine .bind yields_skip fun _ b₂ h₂ => .map (.mono (ih.named _ b₂ (by omega)) ?_)
      intro _ b' h
      simp only [Keeps] at h
      exact ⟨by omega, fun _ => by omega⟩
    · exact .bind yields_skip fun _ b₂ h₂ => .pure ⟨by omega, fun _ => by omega⟩
    · exact .bind yields_skip fun _ b₂ h₂ => .pure ⟨by omega, fun _ => by omega⟩
    · exact .bind yields_skip fun _ b₂ h₂ => .pure ⟨by omega, fun _ => by omega⟩
    · exact .bind yields_skip fun _ _ _ => yields_refuseSpecial
    · refine .bind yields_peekSecond fun u b₂ h₂ => ?_
      split
      · exact .bind yields_skip fun _ b₃ h₃ => .bind yields_skip fun _ b₄ h₄ =>
          .pure ⟨by omega, fun _ => by omega⟩
      · exact .bind yields_skip fun _ _ _ => .bind yields_skip fun _ _ _ => yields_refuseSpecial
      · exact .pure ⟨by omega, by simp⟩
    · refine .bind yields_skip fun _ b₂ h₂ => ?_
      refine .bind (ih.compound [] b₂ (by omega)) fun e b₃ h₃ => ?_
      refine .bind yields_next fun c b₄ h₄ => ?_
      cases c with
      | none => exact yields_refuse
      | some c =>
        dsimp only
        split
        · exact .pure ⟨by omega, fun _ => by omega⟩
        · exact yields_refuse
    · refine .bind yields_skip fun _ b₂ h₂ => ?_
      refine .bind (ih.items _ _ _ b₂ (by omega)) fun e b₃ h₃ => ?_
      simp only [Keeps] at h₃
      exact .pure ⟨by omega, fun _ => by omega⟩
    · exact .pure ⟨by omega, by simp⟩

theorem yields_named (ih : Progress n) (name : String) (b : State)
    (hn : 4 * b.unread + 2 ≤ n + 1) : Yields (named (n + 1) name) b (Keeps b) := by
  simp only [named]
  refine .bind yields_peek fun t b₁ h₁ => ?_
  cases t with
  | none => exact .pure (by simp only [Keeps]; omega)
  | some t =>
    simp only [Option.isSome_some, true_imp_iff] at h₁
    dsimp only
    split
    · refine .bind yields_skip fun _ b₂ h₂ => ?_
      refine .bind (ih.items _ _ _ b₂ (by omega)) fun e b₃ h₃ => ?_
      simp only [Keeps] at h₃
      exact .pure (by simp only [Keeps]; omega)
    · exact .pure (by simp only [Keeps]; omega)
    · refine .bind yields_skip fun _ b₂ h₂ => .bind (ih.value b₂ (by omega)) fun e b₃ h₃ => ?_
      refine .bind yields_expect fun e' b₄ h₄ => ?_
      obtain ⟨rfl, -⟩ := h₄
      obtain ⟨h₃, -⟩ := h₃
      exact .pure (by simp only [Keeps]; omega)
    · refine .bind (ih.value b₁ (by omega)) fun e b₂ h₂ => .bind yields_expect fun e' b₃ h₃ => ?_
      obtain ⟨rfl, -⟩ := h₃
      obtain ⟨h₂, -⟩ := h₂
      exact .pure (by simp only [Keeps]; omega)
    · exact .pure (by simp only [Keeps]; omega)

theorem yields_items (ih : Progress n) (closer : Symbol) (opener : Token) (slot : Slot) (b : State)
    (hn : 4 * b.unread + 4 ≤ n + 1) : Yields (items (n + 1) closer opener slot) b (Keeps b) := by
  simp only [items]
  refine .bind yields_peek fun t b₁ h₁ => ?_
  cases t with
  | none => exact yields_refuse
  | some t =>
    simp only [Option.isSome_some, true_imp_iff] at h₁
    dsimp only
    split
    · refine .bind yields_skip fun _ b₂ h₂ => ?_
      refine .bind (ih.items _ _ _ b₂ (by omega)) fun e b₃ h₃ => ?_
      simp only [Keeps] at h₃
      exact .pure (by simp only [Keeps]; omega)
    · split
      · exact .bind yields_skip fun _ b₂ h₂ => .pure (by simp only [Keeps]; omega)
      · refine .bind (ih.compound [] b₁ (by omega)) fun e b₂ h₂ => ?_
        cases e with
        | none => exact yields_refuse
        | some e =>
          have hlt := h₂.2 rfl rfl
          refine .bind (ih.items _ _ _ b₂ (by omega)) fun e b₃ h₃ => ?_
          simp only [Keeps] at h₃
          exact .pure (by simp only [Keeps]; omega)

theorem joins_of_joinsAtOnce {t : Token} (h : t.joinsAtOnce) : t.symbol?.any Symbol.joins := by
  simp only [Token.joinsAtOnce] at h
  cases hs : t.symbol? <;> simp_all [Symbol.joins]

theorem joins_of_bindsTighter {precedence : Nat} {t : Token} (h : t.bindsTighter precedence) :
    t.symbol?.any Symbol.joins := by
  simp only [Token.bindsTighter] at h
  cases hs : t.symbol? <;> simp_all

theorem yields_immediateJoins (ih : Progress n) (e : Expr) (b : State)
    (hn : 4 * b.unread + 2 ≤ n + 1) : Yields (immediateJoins (n + 1) e) b (Keeps b) := by
  simp only [immediateJoins]
  refine .bind yields_peek fun t b₁ h₁ => ?_
  cases t with
  | none => exact .pure (by simp only [Keeps]; omega)
  | some t =>
    simp only [Option.isSome_some, true_imp_iff] at h₁
    dsimp only
    split
    · rename_i he
      have hj := joins_of_joinsAtOnce he
      refine .bind (ih.join t e b₁ (by omega) (by omega) hj) fun e b₂ h₂ => ?_
      refine .mono (ih.immediateJoins e b₂ (by omega)) fun _ _ h => ?_
      simp only [Keeps] at h ⊢
      omega
    · exact .pure (by simp only [Keeps]; omega)

theorem yields_tighterJoins (ih : Progress n) (precedence : Nat) (e : Expr) (b : State)
    (hn : 4 * b.unread + 2 ≤ n + 1) : Yields (tighterJoins (n + 1) precedence e) b (Keeps b) := by
  simp only [tighterJoins]
  refine .bind yields_peek fun t b₁ h₁ => ?_
  cases t with
  | none => exact .pure (by simp only [Keeps]; omega)
  | some t =>
    simp only [Option.isSome_some, true_imp_iff] at h₁
    dsimp only
    split
    · rename_i he
      have hj := joins_of_bindsTighter he
      refine .bind (ih.join t e b₁ (by omega) (by omega) hj) fun e b₂ h₂ => ?_
      refine .mono (ih.tighterJoins precedence e b₂ (by omega)) fun _ _ h => ?_
      simp only [Keeps] at h ⊢
      omega
    · exact .pure (by simp only [Keeps]; omega)

theorem yields_join (ih : Progress n) (t : Token) (e : Expr) (b : State)
    (hn : 4 * b.unread + 1 ≤ n + 1) (hb : 0 < b.unread) (hj : t.symbol?.any Symbol.joins) :
    Yields (join (n + 1) t e) b fun _ b' => b'.unread < b.unread := by
  simp only [join]
  split
  · refine .bind yields_skip fun _ b₁ h₁ => .bind (ih.value b₁ (by omega)) fun e b₂ h₂ => ?_
    refine .bind yields_expect fun e' b₃ h₃ => ?_
    obtain ⟨rfl, -⟩ := h₃
    obtain ⟨h₂, -⟩ := h₂
    exact .pure (by omega)
  · exact .bind yields_skip fun _ b₁ h₁ => .pure (by omega)
  · refine .bind yields_skip fun _ b₁ h₁ => .bind (ih.compound [] b₁ (by omega)) fun e b₂ h₂ => ?_
    refine .bind yields_expect fun e' b₃ h₃ => ?_
    obtain ⟨rfl, -⟩ := h₃
    obtain ⟨h₂, -⟩ := h₂
    exact .pure (by omega)
  · rename_i s hcolon hpercent hampersand hs
    split
    · refine .bind yields_skip fun _ b₁ h₁ => ?_
      refine .bind (ih.chainSteps _ _ _ b₁ (by omega)) fun e b₂ h₂ => ?_
      simp only [Keeps] at h₂
      exact .pure (by omega)
    · refine .bind yields_skip fun _ b₁ h₁ => .bind (ih.operand b₁ (by omega)) fun e b₂ h₂ => ?_
      refine .bind yields_expect fun e' b₃ h₃ => ?_
      obtain ⟨rfl, -⟩ := h₃
      obtain ⟨h₂, -⟩ := h₂
      refine .bind (ih.tighterJoins _ _ _ (by omega)) fun e b₄ h₄ => ?_
      simp only [Keeps] at h₄
      exact .pure (by omega)
    · rename_i hstep hcomparator
      have hm := Step.isSome_ofSymbol? s
      have hc := Comparator.isSome_ofSymbol? s
      rw [hstep, Option.isSome_none] at hm
      rw [hcomparator, Option.isSome_none] at hc
      simp only [hs, Option.any_some, Symbol.joins, Symbol.joinsAtOnce, ← hm, ← hc, Bool.false_or,
        Bool.or_eq_true, beq_iff_eq] at hj
      rcases hj with (rfl | rfl) | rfl <;> contradiction
  · rename_i hs
    simp [hs] at hj

theorem yields_chainSteps (ih : Progress n) (precedence : Nat) (step : Step) (t : Token)
    (b : State) (hn : 4 * b.unread + 3 ≤ n + 1) :
    Yields (chainSteps (n + 1) precedence step t) b (Keeps b) := by
  simp only [chainSteps]
  refine .bind (ih.operand b (by omega)) fun e b₁ h₁ => .bind yields_expect fun e b₂ h₂ => ?_
  obtain ⟨rfl, he⟩ := h₂
  have hlt := h₁.2 he
  refine .bind (ih.tighterJoins _ _ _ (by omega)) fun e b₃ h₃ => .bind yields_peek fun t b₄ h₄ => ?_
  simp only [Keeps] at h₃
  cases t with
  | none => exact .pure (by simp only [Keeps]; omega)
  | some t =>
    dsimp only
    split
    · exact .pure (by simp only [Keeps]; omega)
    · refine .bind yields_skip fun _ b₅ h₅ => ?_
      refine .bind (ih.chainSteps _ _ _ b₅ (by omega)) fun e b₆ h₆ => ?_
      simp only [Keeps] at h₆
      exact .pure (by simp only [Keeps]; omega)

theorem progress (n : Nat) : Progress n := by
  induction n with
  | zero => constructor <;> intros <;> omega
  | succ n ih =>
    exact ⟨yields_compound ih, yields_operand ih, yields_value ih, yields_named ih, yields_items ih,
      yields_immediateJoins ih, yields_tighterJoins ih, yields_join ih, yields_chainSteps ih⟩

theorem yields_expression (b : State) : Yields expression b (Shrinks b) := by
  have h := (progress (depth b.unread)).compound [] b (by simp only [depth]; omega)
  unfold Yields at h ⊢
  unfold expression
  generalize compound (depth b.unread) [] b = r at h ⊢
  cases r with
  | ok e b' => exact ⟨h.1, h.2 rfl⟩
  | error f b' => exact h

theorem yields_formula (b : State) : Yields formula b (Keeps b) := by
  simp only [formula]
  refine .bind yields_peek fun t b₁ h₁ => ?_
  cases t with
  | none => exact .pure (by simp only [Keeps]; omega)
  | some t =>
    refine .bind (yields_expression b₁) fun e b₂ h₂ => .bind yields_peek fun t b₃ h₃ => ?_
    obtain ⟨h₂, -⟩ := h₂
    cases t with
    | none => exact .pure (by simp only [Keeps]; omega)
    | some t => exact yields_refuse

end CellFormula.Parser
