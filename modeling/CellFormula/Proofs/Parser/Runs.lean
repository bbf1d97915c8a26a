import CellFormula.Parser.Progress
import Mathlib.Tactic.Lemma

namespace CellFormula

namespace Lookahead

variable {α ε : Type}

def rest (b : Lookahead α ε) : List α := b.ahead ++ b.source.items

lemma fill_of_le {n : Nat} {b : Lookahead α ε} (h : n ≤ b.ahead.length) : fill n b = .ok () b := by
  rw [fill, Nat.sub_eq_zero_of_le h]
  rfl

end Lookahead

namespace Parser

variable {α β : Type} {fin : Option LexicalError} {x : Parser α} {t u : Token} {ts : List Token}
  {Q : β → List Token → Prop} {E : Failure → List Token → Prop}

/-- From every state with the tokens `ts` left, and `fin` behind the last of them, the action
answers as `Q` says, fails as `E` says, or gives up. -/
def Runs (fin : Option LexicalError) (x : Parser α) (ts : List Token)
    (Q : α → List Token → Prop) (E : Failure → List Token → Prop) : Prop :=
  ∀ b : State, b.rest = ts → b.source.failure = fin →
    match x b with
    | .ok a b' => b'.source.failure = fin ∧ Q a b'.rest
    | .error f b' => f = .defect ∨ E f b'.rest

lemma Runs.pure {a : α} {Q : α → List Token → Prop} (h : Q a ts) : Runs fin (pure a) ts Q E := by
  intro b hb hf
  exact ⟨hf, hb ▸ h⟩

lemma Runs.bind {f : α → Parser β} {P : α → List Token → Prop} (hx : Runs fin x ts P E)
    (hf : ∀ a ts', P a ts' → Runs fin (f a) ts' Q E) : Runs fin (x >>= f) ts Q E := by
  intro b hb hfin
  have h := hx b hb hfin
  simp only [Bind.bind, EStateM.bind]
  cases hr : x b with
  | ok a b' =>
    rw [hr] at h
    exact hf a _ h.2 b' rfl h.1
  | error f b' =>
    rw [hr] at h
    exact h

lemma Runs.mono {P Q : α → List Token → Prop} {D : Failure → List Token → Prop}
    (hx : Runs fin x ts P D) (hQ : ∀ a rest, P a rest → Q a rest)
    (hE : ∀ f rest, D f rest → E f rest) : Runs fin x ts Q E := by
  intro b hb hfin
  have h := hx b hb hfin
  cases hr : x b with
  | ok a b' =>
    rw [hr] at h
    exact ⟨h.1, hQ _ _ h.2⟩
  | error f b' =>
    rw [hr] at h
    exact h.imp_right (hE _ _)

lemma Runs.map {f : α → β} (hx : Runs fin x ts (fun a => Q (f a)) E) :
    Runs fin (f <$> x) ts Q E := by
  rw [map_eq_pure_bind]
  exact hx.bind fun _ _ h => .pure h

lemma runs_refuse {c : ParseCause} {Q : α → List Token → Prop} (h : E (.syntactic c) ts) :
    Runs fin (refuse c) ts Q E := by
  intro b hb _
  exact .inr (hb ▸ h)

lemma runs_refuseSpecial {s : Decimal.Special} {Q : α → List Token → Prop}
    (h : E (.nonfinite s) ts) : Runs fin (refuseSpecial s) ts Q E := by
  intro b hb _
  exact .inr (hb ▸ h)

lemma runs_defect {Q : α → List Token → Prop} : Runs fin (throw .defect) ts Q E := by
  intro b _ _
  exact .inl rfl

lemma runs_peek_cons : Runs fin peek (t :: ts) (fun o rest => o = some t ∧ rest = t :: ts) E := by
  rintro ⟨ahead, ⟨items, failure⟩⟩ hb hf
  simp only [Lookahead.rest] at hb
  cases ahead with
  | nil =>
    rw [List.nil_append] at hb
    subst hb
    exact ⟨hf, rfl, rfl⟩
  | cons a ahead =>
    rw [List.cons_append, List.cons.injEq] at hb
    obtain ⟨rfl, rfl⟩ := hb
    simp only [peek, lift, Lookahead.peek_apply]
    rw [Lookahead.fill_of_le (by simp)]
    exact ⟨hf, rfl, rfl⟩

lemma runs_peek_nil (he : ∀ e, fin = some e → E (.lexical e) []) :
    Runs fin peek [] (fun o rest => o = none ∧ rest = [] ∧ fin = none) E := by
  rintro ⟨ahead, ⟨items, failure⟩⟩ hb hf
  obtain ⟨rfl, rfl⟩ := List.append_eq_nil_iff.mp hb
  cases failure with
  | none => exact ⟨hf, rfl, rfl, hf.symm⟩
  | some e => exact .inr (he e hf.symm)

lemma runs_next_cons : Runs fin next (t :: ts) (fun o rest => o = some t ∧ rest = ts) E := by
  rintro ⟨ahead, ⟨items, failure⟩⟩ hb hf
  simp only [Lookahead.rest] at hb
  cases ahead with
  | nil =>
    rw [List.nil_append] at hb
    subst hb
    exact ⟨hf, rfl, rfl⟩
  | cons a ahead =>
    rw [List.cons_append, List.cons.injEq] at hb
    obtain ⟨rfl, rfl⟩ := hb
    simp only [next, lift, Lookahead.next_apply]
    rw [Lookahead.fill_of_le (by simp)]
    exact ⟨hf, rfl, rfl⟩

lemma runs_next_nil (he : ∀ e, fin = some e → E (.lexical e) []) :
    Runs fin next [] (fun o rest => o = none ∧ rest = [] ∧ fin = none) E := by
  rintro ⟨ahead, ⟨items, failure⟩⟩ hb hf
  obtain ⟨rfl, rfl⟩ := List.append_eq_nil_iff.mp hb
  cases failure with
  | none => exact ⟨hf, rfl, rfl, hf.symm⟩
  | some e => exact .inr (he e hf.symm)

lemma runs_peekSecond_cons :
    Runs fin peekSecond (t :: u :: ts) (fun o rest => o = some u ∧ rest = t :: u :: ts) E := by
  rintro ⟨ahead, ⟨items, failure⟩⟩ hb hf
  simp only [Lookahead.rest] at hb
  rcases ahead with _ | ⟨a, _ | ⟨c, ahead⟩⟩
  · rw [List.nil_append] at hb
    subst hb
    exact ⟨hf, rfl, rfl⟩
  · rw [List.cons_append, List.nil_append, List.cons.injEq] at hb
    obtain ⟨rfl, rfl⟩ := hb
    exact ⟨hf, rfl, rfl⟩
  · simp only [List.cons_append, List.cons.injEq] at hb
    obtain ⟨rfl, rfl, rfl⟩ := hb
    simp only [peekSecond, lift, Lookahead.peekSecond_apply]
    rw [Lookahead.fill_of_le (by simp)]
    exact ⟨hf, rfl, rfl⟩

lemma runs_peekSecond_last (he : ∀ e, fin = some e → E (.lexical e) [t]) :
    Runs fin peekSecond [t] (fun o rest => o = none ∧ rest = [t] ∧ fin = none) E := by
  rintro ⟨ahead, ⟨items, failure⟩⟩ hb hf
  simp only [Lookahead.rest] at hb
  rcases ahead with _ | ⟨a, ahead⟩
  · rw [List.nil_append] at hb
    subst hb
    cases failure with
    | none => exact ⟨hf, rfl, rfl, hf.symm⟩
    | some e => exact .inr (he e hf.symm)
  · simp only [List.cons_append, List.cons.injEq, List.append_eq_nil_iff] at hb
    obtain ⟨rfl, rfl, rfl⟩ := hb
    cases failure with
    | none => exact ⟨hf, rfl, rfl, hf.symm⟩
    | some e => exact .inr (he e hf.symm)

section Steps

variable {f : Option Token → Parser β}

lemma Runs.peek_cons (h : Runs fin (f (some t)) (t :: ts) Q E) :
    Runs fin (peek >>= f) (t :: ts) Q E := by
  refine runs_peek_cons.bind ?_
  rintro _ _ ⟨rfl, rfl⟩
  exact h

lemma Runs.peek_nil (he : ∀ e, fin = some e → E (.lexical e) [])
    (h : fin = none → Runs fin (f none) [] Q E) : Runs fin (peek >>= f) [] Q E := by
  refine (runs_peek_nil he).bind ?_
  rintro _ _ ⟨rfl, rfl, hf⟩
  exact h hf

lemma Runs.next_cons (h : Runs fin (f (some t)) ts Q E) :
    Runs fin (next >>= f) (t :: ts) Q E := by
  refine runs_next_cons.bind ?_
  rintro _ _ ⟨rfl, rfl⟩
  exact h

lemma Runs.next_nil (he : ∀ e, fin = some e → E (.lexical e) [])
    (h : fin = none → Runs fin (f none) [] Q E) : Runs fin (next >>= f) [] Q E := by
  refine (runs_next_nil he).bind ?_
  rintro _ _ ⟨rfl, rfl, hf⟩
  exact h hf

lemma Runs.skip_cons {f : Unit → Parser β} (h : Runs fin (f ()) ts Q E) :
    Runs fin (skip >>= f) (t :: ts) Q E := by
  refine Runs.bind (P := fun _ rest => rest = ts) (.map (runs_next_cons.mono ?_ fun _ _ h => h)) ?_
  · exact fun _ _ h => h.2
  · rintro _ _ rfl
    exact h

lemma Runs.peekSecond_cons (h : Runs fin (f (some u)) (t :: u :: ts) Q E) :
    Runs fin (peekSecond >>= f) (t :: u :: ts) Q E := by
  refine runs_peekSecond_cons.bind ?_
  rintro _ _ ⟨rfl, rfl⟩
  exact h

lemma Runs.peekSecond_last (he : ∀ e, fin = some e → E (.lexical e) [t])
    (h : fin = none → Runs fin (f none) [t] Q E) : Runs fin (peekSecond >>= f) [t] Q E := by
  refine (runs_peekSecond_last he).bind ?_
  rintro _ _ ⟨rfl, rfl, hf⟩
  exact h hf

end Steps

end Parser

end CellFormula
