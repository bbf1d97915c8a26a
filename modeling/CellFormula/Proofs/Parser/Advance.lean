import CellFormula.Proofs.Parser.Completeness
import CellFormula.Proofs.Parser.Fixpoint
import CellFormula.Proofs.Parser.Granted
import CellFormula.Proofs.Parser.Script

/-! Why reading ends. What a rule calls stands behind a token that was taken, or has a lower rank
and the same tokens left. The next pass of a loop has the rank of the pass before it, so each pass
takes a token or is the last. -/

namespace CellFormula.Parser

variable {α β : Type} {b c d : State} {n : Nat}

def Takes (b c : State) : Prop := ∃ ts, ts ≠ [] ∧ ts ++ c.rest = b.rest

namespace Takes

lemma of_length_lt (hs : c.rest <:+ b.rest) (hl : c.rest.length < b.rest.length) : Takes b c := by
  obtain ⟨ts, hts⟩ := hs
  refine ⟨ts, ?_, hts⟩
  rintro rfl
  rw [← hts] at hl
  exact Nat.lt_irrefl _ hl

lemma suffix (h : Takes b c) : c.rest <:+ b.rest := by
  obtain ⟨ts, -, hts⟩ := h
  exact ⟨ts, hts⟩

lemma unread_lt (h : Takes b c) : c.unread < b.unread := by
  obtain ⟨ts, hn, hts⟩ := h
  rw [← Lookahead.length_rest, ← Lookahead.length_rest, ← hts, List.length_append]
  exact Nat.lt_add_of_pos_left (List.length_pos_of_ne_nil hn)

lemma before (h : Takes b c) (hs : d.rest <:+ c.rest) : Takes b d := by
  obtain ⟨ts, hn, hts⟩ := h
  obtain ⟨us, hus⟩ := hs
  exact ⟨ts ++ us, by simp [hn], by rw [List.append_assoc, hus, hts]⟩

lemma behind (hs : c.rest <:+ b.rest) (h : Takes c d) : Takes b d := by
  obtain ⟨ts, hts⟩ := hs
  obtain ⟨us, hn, hus⟩ := h
  exact ⟨ts ++ us, by simp [hn], by rw [List.append_assoc, hus, hts]⟩

end Takes

def Call.rank : Call → Nat
  | value | join .. => 1
  | operand | named .. | immediateJoins .. | tighterJoins .. => 2
  | compound | chainSteps .. => 3
  | items .. => 4

/-- A call stands nearer to the end than another if a token was taken in between, or if it has the
lower rank and the same tokens left. -/
def Nearer (p q : Call × State) : Prop :=
  Takes q.2 p.2 ∨ p.2.rest = q.2.rest ∧ p.1.rank < q.1.rank

namespace Nearer

variable {p q : Call × State}

lemma measure_lt (h : Nearer p q) :
    4 * p.2.unread + p.1.rank < 4 * q.2.unread + q.1.rank := by
  have hp : p.1.rank ≤ 4 := by cases p.1 <;> simp [Call.rank]
  have hq : 0 < q.1.rank := by cases q.1 <;> simp [Call.rank]
  rcases h with h | ⟨h, hr⟩
  · have := h.unread_lt
    omega
  · rw [← Lookahead.length_rest, ← Lookahead.length_rest, h]
    exact Nat.add_lt_add_left hr _

lemma takes (h : Nearer p q) (hr : p.1.rank = q.1.rank) : Takes q.2 p.2 :=
  h.resolve_right fun h => Nat.lt_irrefl _ (hr ▸ h.2)

theorem wellFounded : WellFounded Nearer :=
  Subrelation.wf measure_lt (measure fun p : Call × State => 4 * p.2.unread + p.1.rank).wf

end Nearer

section Answers

def Call.Found : (x : Call) → x.Result → Prop
  | compound, o | operand, o | value, o => o.isSome
  | _, _ => True

lemma Runs.of_ok {x : Parser α} {a : α} {Q : α → List Token → Prop}
    {E : Failure → List Token → Prop} (h : Runs b.source.failure x b.rest Q E)
    (hr : x b = .ok a c) : c.source.failure = b.source.failure ∧ Q a c.rest := by
  have h := h b rfl rfl
  rw [hr] at h
  exact h

variable {x : Call}

lemma Reads.left {a : Answer} (h : Reads b.source.failure x b.rest a c.rest) :
    c.rest <:+ b.rest ∧ (x.takes → Takes b c) :=
  ⟨h.suffix, fun hx => .of_length_lt h.suffix (h.length_lt hx)⟩

lemma Answers.left {o : Option Expr} {Absent : Prop}
    (h : Answers b.source.failure x b.rest Absent o c.rest) :
    c.rest <:+ b.rest ∧ (x.takes → o.isSome → Takes b c) := by
  cases o with
  | none => exact ⟨h.1 ▸ List.suffix_rfl, fun _ h => by cases h⟩
  | some e => exact ⟨(Reads.left h).1, fun hx _ => (Reads.left h).2 hx⟩

lemma left_of_ok {a : x.Result} (hx : x.Ready b) (hr : bounded n x b = .ok a c) :
    c.rest <:+ b.rest ∧ (x.takes → x.Found a → Takes b c) := by
  have hd := derived b.source.failure n
  cases x with
  | compound => exact ((derived_whole hd b.rest).of_ok hr).2.left
  | operand => exact ((hd.operand b.rest).of_ok hr).2.left
  | value => exact ((hd.value b.rest).of_ok hr).2.left
  | named name => exact ⟨((hd.named name b.rest).of_ok hr).2.suffix, fun h => by cases h⟩
  | items closer opener slot =>
    exact ⟨((hd.items closer opener slot b.rest).of_ok hr).2.suffix, fun h => by cases h⟩
  | immediateJoins e =>
    exact ⟨((hd.immediateJoins e b.rest).of_ok hr).2.suffix, fun h => by cases h⟩
  | tighterJoins precedence e =>
    exact ⟨((hd.tighterJoins precedence e b.rest).of_ok hr).2.suffix, fun h => by cases h⟩
  | join t e =>
    obtain ⟨ts, hts⟩ := List.head?_eq_some_iff.mp hx.1
    have hj := hd.join t e ts
    rw [← hts] at hj
    have hl := (hj.of_ok hr).2.left
    exact ⟨hl.1, fun h _ => hl.2 h⟩
  | chainSteps precedence step t =>
    exact ⟨((hd.chainSteps precedence step t b.rest).of_ok hr).2.suffix, fun h => by cases h⟩

end Answers

section Congr

lemma peek_congr {f g : Option Token → Parser β} (hn : f none = g none)
    (hs : ∀ t c, c.rest = b.rest → c.rest.head? = some t → f (some t) c = g (some t) c) :
    (peek >>= f) b = (peek >>= g) b := by
  refine bind_apply_eq rfl fun o c hc => ?_
  cases o with
  | none => rw [hn]
  | some t =>
    obtain ⟨ts, hts⟩ := List.head?_eq_some_iff.mp (head_of_peek hc)
    exact hs t c (Query.rest_of_read (q := .peek) hc) (by rw [Lookahead.rest, hts]; rfl)

lemma rest_of_skip {u : Unit} (h : skip b = .ok u c) : c.rest = b.rest.tail := by
  change ((fun _ => ()) <$> next) b = _ at h
  simp only [Functor.map, EStateM.map] at h
  cases hn : next b with
  | ok o d =>
    rw [hn] at h
    cases h
    exact Query.rest_of_read (q := .next) hn
  | error f d =>
    rw [hn] at h
    cases h

lemma skip_congr {f g : Unit → Parser β} {t : Token} (hb : b.rest.head? = some t)
    (h : ∀ c, Takes b c → f () c = g () c) : (skip >>= f) b = (skip >>= g) b := by
  obtain ⟨ts, hts⟩ := List.head?_eq_some_iff.mp hb
  refine bind_apply_eq rfl fun _ c hc => h c ⟨[t], by simp, ?_⟩
  rw [rest_of_skip hc, hts]
  rfl

lemma expect_congr {need : Need} {t : Token} {o : Option Expr} {f g : Expr → Parser β}
    (h : ∀ e, o = some e → f e b = g e b) :
    (expect need t o >>= f) b = (expect need t o >>= g) b := by
  cases o with
  | none => rw [expect_none_bind]
  | some e => exact h e rfl

end Congr

def Rules.AgreeNear (r s : Rules) (x : Call) (b : State) : Prop :=
  ∀ y c, y.Ready c → Nearer (y, c) (x, b) → r y c = s y c

section Step

variable {r : Rules} {x : Call}

lemma Rules.AgreeNear.call (h : r.AgreeNear (bounded n) x b) (y : Call) (hy : y.Ready c)
    (hn : Nearer (y, c) (x, b)) {f g : y.Result → Parser β}
    (hf : ∀ a d, d.rest <:+ c.rest → (y.takes → y.Found a → Takes c d) → f a d = g a d) :
    (r y >>= f) c = (bounded n y >>= g) c :=
  bind_apply_eq (h y c hy hn) fun a d hd => hf a d (left_of_ok hy hd).1 (left_of_ok hy hd).2

lemma Rules.AgreeNear.joins (h : r.AgreeNear (bounded n) .compound b) (hc : Takes b c) (e : Expr)
    {f g : Expr → Option Token → Parser β} (hn : ∀ e, f e none = g e none)
    (hs : ∀ e t d, Takes b d → d.rest.head? = some t → f e (some t) d = g e (some t) d) :
    (r (.immediateJoins e) >>= fun e => peek >>= f e) c =
      (bounded n (.immediateJoins e) >>= fun e => peek >>= g e) c := by
  refine h.call (.immediateJoins e) trivial (.inl hc) fun e b₁ hs₁ _ => ?_
  exact peek_congr (hn e) fun t d hd ht => hs e t d (hc.before (hd ▸ hs₁)) ht

lemma compound_near (h : r.AgreeNear (bounded n) .compound b) :
    r.step .compound b = (bounded n).step .compound b := by
  refine h.call .operand trivial (.inr ⟨rfl, Nat.lt_add_one _⟩) fun e b₁ _ h₁ => ?_
  cases e with
  | none => rfl
  | some e =>
    refine h.joins (h₁ rfl rfl) e (fun _ => rfl) fun e t b₂ h₂ ht => ?_
    dsimp only
    split
    · refine skip_congr ht fun b₃ h₃ => ?_
      exact h.call .compound trivial (.inl (.behind h₂.suffix h₃)) fun _ _ _ _ => rfl
    · exact h.call .compound trivial (.inl h₂) fun _ _ _ _ => rfl

def compoundPass (r : Rules) (again : List Pending → Parser (Option Expr))
    (pending : List Pending) : Parser (Option Expr) := do
  match ← r .operand with
  | none => finish pending none
  | some e =>
    let e ← r (.immediateJoins e)
    match ← peek with
    | none => finish pending (some e)
    | some t =>
      if t.isSymbol .ampersand then do
        skip
        again (.textJoin e t :: pending)
      else again (.intersection e :: pending)

lemma compound_eq_compoundPass (n : Nat) (pending : List Pending) :
    compound (n + 1) pending = compoundPass (bounded n) (compound n) pending := by
  simp only [compound, compoundPass]
  refine bind_congr fun e => ?_
  cases e with
  | none => rcases pending with _ | ⟨⟨left, ampersand⟩ | left, pending⟩ <;> rfl
  | some e => rfl

lemma compoundPass_near {again : List Pending → Parser (Option Expr)} {pending : List Pending}
    (h : r.AgreeNear (bounded n) .compound b)
    (ha : ∀ waiting c, Takes b c → again waiting c = compound n waiting c) :
    compoundPass r again pending b = compound (n + 1) pending b := by
  rw [compound_eq_compoundPass]
  refine h.call .operand trivial (.inr ⟨rfl, Nat.lt_add_one _⟩) fun e b₁ _ h₁ => ?_
  cases e with
  | none => rfl
  | some e =>
    refine h.joins (h₁ rfl rfl) e (fun _ => rfl) fun e t b₂ h₂ ht => ?_
    dsimp only
    split
    · exact skip_congr ht fun b₃ h₃ => ha _ b₃ (.behind h₂.suffix h₃)
    -- An intersection takes nothing itself, but its left side did.
    · exact ha _ b₂ h₂

lemma operand_near (h : r.AgreeNear (bounded n) .operand b) :
    r.step .operand b = (bounded n).step .operand b := by
  refine h.call .value trivial (.inr ⟨rfl, Nat.lt_add_one _⟩) fun e b₁ hs₁ _ => ?_
  cases e with
  | some e => rfl
  | none =>
    refine peek_congr rfl fun t b₂ hr₂ ht => ?_
    dsimp only
    split
    · refine skip_congr ht fun b₃ h₃ => ?_
      exact h.call .operand trivial (.inl (.behind (hr₂ ▸ hs₁) h₃)) fun _ _ _ _ => rfl
    · rfl

lemma value_near (h : r.AgreeNear (bounded n) .value b) :
    r.step .value b = (bounded n).step .value b := by
  refine peek_congr rfl fun t b₁ hr₁ ht => ?_
  have hs₁ : b₁.rest <:+ b.rest := hr₁ ▸ List.suffix_rfl
  dsimp only
  cases t.lexeme with
  | literal name =>
    refine skip_congr ht fun b₂ h₂ => ?_
    rw [map_eq_pure_bind, map_eq_pure_bind]
    exact h.call (.named name) trivial (.inl (.behind hs₁ h₂)) fun _ _ _ _ => rfl
  | symbol s =>
    cases s with
    | openBracket =>
      refine skip_congr ht fun b₂ h₂ => ?_
      exact h.call .compound trivial (.inl (.behind hs₁ h₂)) fun _ _ _ _ => rfl
    | openSquare =>
      refine skip_congr ht fun b₂ h₂ => ?_
      exact h.call (.items ..) trivial (.inl (.behind hs₁ h₂)) fun _ _ _ _ => rfl
    | _ => rfl
  | _ => rfl

lemma named_near {name : String} (h : r.AgreeNear (bounded n) (.named name) b) :
    r.step (.named name) b = (bounded n).step (.named name) b := by
  refine peek_congr rfl fun t b₁ hr₁ ht => ?_
  have hs₁ : b₁.rest <:+ b.rest := hr₁ ▸ List.suffix_rfl
  dsimp only
  cases t.symbol? with
  | none => cases truthValue? name <;> rfl
  | some s =>
    cases s with
    | openBracket =>
      refine skip_congr ht fun b₂ h₂ => ?_
      exact h.call (.items ..) trivial (.inl (.behind hs₁ h₂)) fun _ _ _ _ => rfl
    | bang =>
      cases truthValue? name with
      | none =>
        refine skip_congr ht fun b₂ h₂ => ?_
        exact h.call .value trivial (.inl (.behind hs₁ h₂)) fun _ _ _ _ => rfl
      | some truth => rfl
    | openSquare =>
      cases truthValue? name with
      | none => exact h.call .value trivial (.inr ⟨hr₁, Nat.lt_add_one _⟩) fun _ _ _ _ => rfl
      | some truth => rfl
    | _ => cases truthValue? name <;> rfl

lemma items_near {closer : Symbol} {opener : Token} {slot : Slot}
    (h : r.AgreeNear (bounded n) (.items closer opener slot) b) :
    r.step (.items closer opener slot) b = (bounded n).step (.items closer opener slot) b := by
  refine peek_congr rfl fun t b₁ hr₁ ht => ?_
  have hs₁ : b₁.rest <:+ b.rest := hr₁ ▸ List.suffix_rfl
  dsimp only
  split
  · refine skip_congr ht fun b₂ h₂ => ?_
    exact h.call (.items ..) trivial (.inl (.behind hs₁ h₂)) fun _ _ _ _ => rfl
  · split
    · rfl
    · refine h.call .compound trivial (.inr ⟨hr₁, Nat.lt_add_one _⟩) fun e b₂ _ ht₂ => ?_
      cases e with
      | none => rfl
      | some e =>
        have h₂ : Takes b b₂ := .behind hs₁ (ht₂ rfl rfl)
        exact h.call (.items ..) trivial (.inl h₂) fun _ _ _ _ => rfl

lemma immediateJoins_near {left : Expr} (h : r.AgreeNear (bounded n) (.immediateJoins left) b) :
    r.step (.immediateJoins left) b = (bounded n).step (.immediateJoins left) b := by
  refine peek_congr rfl fun t b₁ hr₁ ht => ?_
  dsimp only
  split
  · rename_i hj
    refine h.call (.join t left) ⟨ht, joins_of_joinsAtOnce hj⟩ (.inr ⟨hr₁, Nat.lt_add_one _⟩) ?_
    intro e b₂ _ ht₂
    have h₂ : Takes b b₂ := .behind (hr₁ ▸ List.suffix_rfl) (ht₂ rfl trivial)
    exact h (.immediateJoins e) b₂ trivial (.inl h₂)
  · rfl

lemma tighterJoins_near {precedence : Nat} {left : Expr}
    (h : r.AgreeNear (bounded n) (.tighterJoins precedence left) b) :
    r.step (.tighterJoins precedence left) b =
      (bounded n).step (.tighterJoins precedence left) b := by
  refine peek_congr rfl fun t b₁ hr₁ ht => ?_
  dsimp only
  split
  · rename_i hj
    refine h.call (.join t left) ⟨ht, joins_of_bindsTighter hj⟩ (.inr ⟨hr₁, Nat.lt_add_one _⟩) ?_
    intro e b₂ _ ht₂
    have h₂ : Takes b b₂ := .behind (hr₁ ▸ List.suffix_rfl) (ht₂ rfl trivial)
    exact h (.tighterJoins precedence e) b₂ trivial (.inl h₂)
  · rfl

lemma join_near {t : Token} {left : Expr} (ht : b.rest.head? = some t)
    (h : r.AgreeNear (bounded n) (.join t left) b) :
    r.step (.join t left) b = (bounded n).step (.join t left) b := by
  simp only [Rules.step]
  cases t.symbol? with
  | none => rfl
  | some s =>
    cases s with
    | colon =>
      refine skip_congr ht fun b₁ h₁ => ?_
      exact h.call .value trivial (.inl h₁) fun _ _ _ _ => rfl
    | ampersand =>
      refine skip_congr ht fun b₁ h₁ => ?_
      exact h.call .compound trivial (.inl h₁) fun _ _ _ _ => rfl
    | add | subtract | multiply | divide | power =>
      refine skip_congr ht fun b₁ h₁ => ?_
      exact h.call (.chainSteps ..) trivial (.inl h₁) fun _ _ _ _ => rfl
    | equal | notEqual | less | greater | lessOrEqual | greaterOrEqual =>
      refine skip_congr ht fun b₁ h₁ => h.call .operand trivial (.inl h₁) fun o b₂ hs₂ _ => ?_
      refine expect_congr fun e _ => ?_
      exact h.call (.tighterJoins _ e) trivial (.inl (h₁.before hs₂)) fun _ _ _ _ => rfl
    | _ => rfl

lemma chainSteps_near {precedence : Nat} {step : Step} {t : Token}
    (h : r.AgreeNear (bounded n) (.chainSteps precedence step t) b) :
    r.step (.chainSteps precedence step t) b =
      (bounded n).step (.chainSteps precedence step t) b := by
  refine h.call .operand trivial (.inr ⟨rfl, Nat.lt_add_one _⟩) fun o b₁ _ ht₁ => ?_
  refine expect_congr fun e he => ?_
  have h₁ : Takes b b₁ := ht₁ rfl (he ▸ rfl)
  refine h.call (.tighterJoins precedence e) trivial (.inl h₁) fun e b₂ hs₂ _ => ?_
  refine peek_congr rfl fun t b₃ hr₃ ht => ?_
  dsimp only
  cases t.chainStep? precedence with
  | none => rfl
  | some next =>
    refine skip_congr ht fun b₄ h₄ => ?_
    have h₄ : Takes b b₄ := .behind (h₁.before (hr₃ ▸ hs₂)).suffix h₄
    exact h.call (.chainSteps ..) trivial (.inl h₄) fun _ _ _ _ => rfl

theorem step_near (hx : x.Ready b) (h : r.AgreeNear (bounded n) x b) :
    r.step x b = bounded (n + 1) x b := by
  rw [bounded_succ]
  cases x with
  | compound => exact compound_near h
  | operand => exact operand_near h
  | value => exact value_near h
  | named name => exact named_near h
  | items closer opener slot => exact items_near h
  | immediateJoins e => exact immediateJoins_near h
  | tighterJoins precedence e => exact tighterJoins_near h
  | join t e => exact join_near hx.1 h
  | chainSteps precedence step t => exact chainSteps_near h

end Step

section Delimiters

variable {fin : Option LexicalError} {ts rest : List Token} {a : Answer}

def delimiters : List Symbol := [.closeBracket, .closeSquare, .comma, .bang]

lemma delimiter_of_not_continues {t : Token} (hj : t.joinsAtOnce = false)
    (hc : t.continues = false) : ∃ s ∈ delimiters, t.lexeme = .symbol s := by
  obtain ⟨ha, ho⟩ := Bool.or_eq_false_iff.mp hc
  obtain ⟨s, hs, hminus, hround, hsquare⟩ := symbol_of_startsOperand ho
  rw [Token.joinsAtOnce_of_symbol hs] at hj
  rw [Token.isSymbol_of_symbol hs] at ha
  refine ⟨s, ?_, hs⟩
  cases s with
  | closeBracket | closeSquare | comma | bang => decide
  | _ => contradiction

lemma Reads.delimited (h : Reads fin .compound ts a rest) {t : Token} (ht : rest.head? = some t) :
    ∃ s ∈ delimiters, t.lexeme = .symbol s := by
  obtain ⟨us, rfl⟩ := List.head?_eq_some_iff.mp ht
  exact delimiter_of_not_continues h.stops_compound.1 h.stops_compound.2

lemma Reads.stops_bindsTighter (h : Reads fin .compound ts a rest) (precedence : Nat) :
    Stops fin (Token.bindsTighter precedence) rest := by
  cases rest with
  | nil => exact h.stops_compound.1
  | cons t us =>
    obtain ⟨s, hs, ht⟩ := h.delimited rfl
    have hj : s.joins = false := by
      revert hs
      cases s <;> decide
    change t.bindsTighter precedence = false
    rw [Token.bindsTighter_of_symbol ht, hj, Bool.false_and]

end Delimiters

structure Advances (x : Parser (Option Expr)) (b : State) : Prop where
  absent : ∀ c, x b = .ok none c → c.rest = b.rest ∧ c.source.failure = b.source.failure
  found : ∀ e c, x b = .ok (some e) c → Takes b c

structure Delimited (b : State) : Prop where
  next : ∀ t, b.rest.head? = some t → ∃ s ∈ delimiters, t.lexeme = .symbol s
  operand : ∃ c, rules .operand b = .ok none c
  immediateJoins : ∀ left, ∃ c, rules (.immediateJoins left) b = .ok left c
  tighterJoins : ∀ precedence left, ∃ c, rules (.tighterJoins precedence left) b = .ok left c

lemma advances_of_answers {x : Parser (Option Expr)} {y : Call} {Absent : Prop}
    {E : Failure → List Token → Prop} (hy : y.takes)
    (h : Runs b.source.failure x b.rest (Answers b.source.failure y b.rest Absent) E) :
    Advances x b where
  absent _ hx := ⟨(h.of_ok hx).2.1, (h.of_ok hx).1⟩
  found _ _ hx := (h.of_ok hx).2.left.2 hy rfl

lemma delimited_of_compound {e : Expr} (h : rules .compound b = .ok (some e) c) : Delimited c := by
  obtain ⟨hf, hr⟩ := (derived_whole (derived _ _) b.rest).of_ok h
  have hr : Reads b.source.failure .compound b.rest (.expr e) c.rest := hr
  rw [← hf] at hr
  refine ⟨fun t ht => hr.delimited ht, ?_, fun left => ?_, fun precedence left => ?_⟩
  · have hx := settles_of_ready (b := c) (c := .operand) trivial
    exact (gives_operand_none hr.stops_startsOperand _).exists_ok rfl rfl hx
  · have hx := settles_of_ready (b := c) (c := .immediateJoins left) trivial
    exact (given_of_reads (.immediateStop hr.stops_compound.1) _).exists_ok rfl rfl hx
  · have hx := settles_of_ready (b := c) (c := .tighterJoins precedence left) trivial
    have hs := hr.stops_bindsTighter precedence
    exact (given_of_reads (.tighterStop hs) _).exists_ok rfl rfl hx

lemma bounded_of_le {x : Call} (hx : x.Ready b) (h : depth b.unread ≤ n) :
    bounded n x b = rules x b := by
  rw [rules_apply]
  exact (bounded_below h x).eq_of_settles (settles_of_ready hx)

structure ReadingEnds (b : State) : Prop where
  settles : ∀ x : Call, x.Ready b →
    Settles (rules x) b ∧ ∀ n, depth b.unread ≤ n → bounded n x b = rules x b
  waiting : ∀ pending n, depth b.unread ≤ n → Settles (compound n pending) b ∧
    compound n pending b = (rules .compound >>= finish pending) b
  compound : Advances (rules .compound) b
  operand : Advances (rules .operand) b
  value : Advances (rules .value) b
  delimited : ∀ e c, rules .compound b = .ok (some e) c → Delimited c
  step : ∀ n (r : Rules) (x : Call), x.Ready b → r.AgreeNear (bounded n) x b →
    r.step x b = bounded (n + 1) x b
  pass : ∀ n pending again,
    (∀ waiting c, Takes b c → again waiting c = Parser.compound n waiting c) →
    compoundPass (bounded n) again pending b = Parser.compound (n + 1) pending b
  again : ∀ n (r : Rules) (x : Call), x.Ready b →
    (∀ y c, y.Ready c → (y.rank = x.rank → Takes b c) → r y c = bounded n y c) →
    r.step x b = bounded (n + 1) x b
  founded : WellFounded Nearer

theorem readingEnds (b : State) : ReadingEnds b where
  settles x hx := by
    have hs := settles_of_ready hx
    exact ⟨by rwa [Settles, Yields, ← rules_apply] at hs, fun n => bounded_of_le hx⟩
  waiting pending n hn := by
    refine ⟨((progress n).compound pending b ?_).settles, ?_⟩
    · rw [depth] at hn
      omega
    · rw [compound_eq_bind]
      exact bind_apply_eq (bounded_of_le (x := .compound) trivial hn) fun _ _ _ => rfl
  compound := advances_of_answers rfl (runs_expression b.rest)
  operand := advances_of_answers rfl fun c => (derived _ (depth c.unread)).operand b.rest c
  value := advances_of_answers rfl fun c => (derived _ (depth c.unread)).value b.rest c
  delimited e c h := delimited_of_compound h
  step n r x hx h := step_near hx h
  pass n pending again h := compoundPass_near (fun _ _ _ _ => rfl) h
  again n r x hx h := step_near hx fun y c hy hn => h y c hy hn.takes
  founded := Nearer.wellFounded

end CellFormula.Parser
