import CellFormula.Formula
import CellFormula.Proofs.Parser.Query
import Mathlib.Data.List.Basic

/-! Readers as dialogues with the lookahead. A script that was not answered with anything behind
some tokens says the same whatever stands there. And what it asks the source for shows in what it
does: cut off in front of a token that it asks for, the source fails it there. -/

namespace CellFormula.Parser

variable {α β : Type}

namespace Query

variable {q : Query} {b c : State} {o : Option Token}

def filled (q : Query) (b : State) : State :=
  match Lookahead.fill q.reach b with
  | .ok _ c | .error _ c => c

lemma ahead_filled (q : Query) (b : State) : (q.filled b).ahead = q.seen b := by
  rw [filled]
  by_cases h : q.reach ≤ b.unread
  · rw [Lookahead.fill_of_le_unread h]
    rfl
  · rw [Nat.not_le] at h
    rw [Lookahead.fill_of_unread_lt h, seen_of_lt h]
    cases b.source.failure <;> rfl

lemma rest_filled (q : Query) (b : State) : (q.filled b).rest = b.rest := by
  by_cases h : q.reach ≤ b.unread
  · rw [← seen_append q b, filled, Lookahead.fill_of_le_unread h]
    rfl
  · rw [Nat.not_le] at h
    rw [filled, Lookahead.fill_of_unread_lt h]
    cases b.source.failure <;> exact List.append_nil _

lemma filled_of_error {f : Failure} (h : q.read b = .error f c) : q.filled b = c := by
  rw [read_apply] at h
  rw [filled]
  cases hf : Lookahead.fill q.reach b <;> rw [hf] at h <;> cases h
  rfl

lemma ahead_of_read (h : q.read b = .ok o c) : c.ahead = q.leave (q.seen b) := by
  by_cases hq : q.reach ≤ b.unread
  · rw [read_of_le hq] at h
    cases h
    rfl
  · rw [read_of_lt (Nat.lt_of_not_le hq)] at h
    cases hf : b.source.failure <;> rw [hf] at h <;> cases h
    rfl

lemma rest_of_read (h : q.read b = .ok o c) : c.rest = q.leave b.rest := by
  by_cases hq : q.reach ≤ b.unread ∨ b.source.failure = none
  · obtain ⟨c', hc, hr, -⟩ := read_ok hq
    rw [h] at hc
    cases hc
    exact hr
  · obtain ⟨hq, hn⟩ := not_or.mp hq
    obtain ⟨e, he⟩ := Option.ne_none_iff_exists'.mp hn
    rw [read_error (Nat.lt_of_not_le hq) he] at h
    cases h

lemma read_of_take {items : List Token} {f : Option LexicalError} (hl : q.asked b ≤ items.length)
    (ht : items.take (q.asked b) = b.source.items.take (q.asked b)) :
    q.read ⟨b.ahead, ⟨items, f⟩⟩ = .ok (q.seen b)[q.reach - 1]?
      ⟨q.leave (q.seen b), ⟨items.drop (q.asked b), f⟩⟩ := by
  have hq : q.reach ≤ (⟨b.ahead, ⟨items, f⟩⟩ : State).unread := by
    rw [asked] at hl
    rw [Lookahead.unread]
    dsimp only
    omega
  have hs : q.seen ⟨b.ahead, ⟨items, f⟩⟩ = q.seen b := congrArg (b.ahead ++ ·) ht
  rw [read_of_le hq, hs]
  rfl

/-- The last `n` tokens of the source are left alone by a query, and so is what is behind them. -/
def Spares (n : Nat) (q : Query) (b : State) : Prop := q.asked b + n ≤ b.source.items.length

end Query

inductive Script (α : Type) where
  | done (a : α)
  | fail (f : Failure)
  | ask (q : Query) (k : Option Token → Script α)

namespace Script

def run : Script α → Parser α
  | done a => pure a
  | fail f => throw f
  | ask q k => q.read >>= fun o => (k o).run

def bind (f : α → Script β) : Script α → Script β
  | done a => f a
  | fail e => fail e
  | ask q k => ask q fun o => (k o).bind f

inductive Asks : Script α → State → Query → State → Prop
  | now {q k b} : Asks (ask q k) b q b
  | later {q q' k b o c d} : q.read b = .ok o c → Asks (k o) c q' d → Asks (ask q k) b q' d

inductive Passes : Script α → State → State → Prop
  | here {s b} : Passes s b b
  | filled {q k b} : Passes (ask q k) b (q.filled b)
  | later {q k b o c d} : q.read b = .ok o c → Passes (k o) c d → Passes (ask q k) b d

variable {s : Script α} {q : Query} {b c : State} {o : Option Token} {k : Option Token → Script α}

lemma run_bind (f : α → Script β) (s : Script α) :
    (s.bind f).run = s.run >>= fun a => (f a).run := by
  induction s with
  | done a => rfl
  | fail e => rfl
  | ask q k ih => simp only [bind, run, bind_assoc, ih]

lemma run_ask (h : q.read b = .ok o c) : (ask q k).run b = (k o).run c := by
  simp only [run, Bind.bind, EStateM.bind, h]

lemma run_ask_error {f : Failure} (h : q.read b = .error f c) : (ask q k).run b = .error f c := by
  simp only [run, Bind.bind, EStateM.bind, h]

lemma passes_of_error {f : Failure} (h : s.run b = .error f c) : s.Passes b c := by
  induction s generalizing b with
  | done a => cases h
  | fail e =>
    cases h
    exact .here
  | ask q k ih =>
    cases hr : q.read b with
    | ok o d => exact .later hr (ih o (run_ask hr ▸ h))
    | error e d =>
      have hd := run_ask_error (k := k) hr
      rw [h] at hd
      cases hd
      exact Query.filled_of_error hr ▸ .filled

lemma Passes.suffix (h : s.Passes b c) : c.rest <:+ b.rest := by
  induction h with
  | here => exact List.suffix_rfl
  | @filled q _ b => exact Query.rest_filled q b ▸ List.suffix_rfl
  | later hr _ ih => exact (Query.rest_of_read hr ▸ ih).trans (Query.leave_suffix _ _)

theorem outcome_run_congr {xs ys zs ahead : List Token} {f g : Option LexicalError}
    (h : ∀ (q : Query) c, s.Asks ⟨ahead, ⟨xs ++ ys, f⟩⟩ q c → q.Spares ys.length c) :
    Formula.outcome (s.run ⟨ahead, ⟨xs ++ zs, g⟩⟩) =
      Formula.outcome (s.run ⟨ahead, ⟨xs ++ ys, f⟩⟩) := by
  induction s generalizing ahead xs with
  | done a => rfl
  | fail e => rfl
  | ask q k ih =>
    have hl : q.asked ⟨ahead, ⟨xs, none⟩⟩ ≤ xs.length := by
      have hs := h q _ .now
      rw [Query.Spares, List.length_append] at hs
      exact Nat.le_of_add_le_add_right hs
    have hr (us : List Token) (e : Option LexicalError) : q.read ⟨ahead, ⟨xs ++ us, e⟩⟩ =
        .ok (q.seen ⟨ahead, ⟨xs, none⟩⟩)[q.reach - 1]? ⟨q.leave (q.seen ⟨ahead, ⟨xs, none⟩⟩),
          ⟨xs.drop (q.asked ⟨ahead, ⟨xs, none⟩⟩) ++ us, e⟩⟩ := by
      rw [← List.drop_append_of_le_length hl]
      refine Query.read_of_take ?_ (List.take_append_of_le_length hl)
      rw [List.length_append]
      exact Nat.le_add_right_of_le hl
    rw [run_ask (hr zs g), run_ask (hr ys f)]
    exact ih _ fun q' c hc => h q' c (.later (hr ys f) hc)

lemma Asks.spares {e : LexicalError} (h : s.Asks b q c) (he : b.source.failure = some e)
    (hr : ∀ c, s.run b ≠ .error (.lexical e) c) : q.Spares 0 c := by
  induction h with
  | @now q k b =>
    by_cases hq : q.reach ≤ b.unread
    · rw [Lookahead.unread] at hq
      rw [Query.Spares, Query.asked]
      omega
    · exact (hr _ (run_ask_error (Query.read_error (Nat.lt_of_not_le hq) he))).elim
  | @later q q' k b o c d hread _ ih =>
    by_cases hq : q.reach ≤ b.unread
    · refine ih ?_ fun c' => run_ask hread ▸ hr c'
      rw [Query.read_of_le hq] at hread
      cases hread
      exact he
    · rw [Query.read_error (Nat.lt_of_not_le hq) he] at hread
      cases hread

def Cautious (s : Script α) (b : State) : Prop :=
  b.source = .empty ∨ ∀ n e t, s.run ⟨b.ahead, ⟨b.source.items.take n, some e⟩⟩ =
    .error (.lexical e) ⟨[t], .empty⟩ → t.isSymbol .subtract

def Narrow (ts : List Token) : Prop :=
  ts.length ≤ 1 ∨ ∃ t u, ts = [t, u] ∧ t.isSymbol .subtract

lemma Narrow.leave {ts : List Token} (h : Narrow ts) (q : Query) : Narrow (q.leave ts) := by
  rw [Query.leave]
  split
  · rcases h with h | ⟨t, u, rfl, -⟩
    · refine .inl (Nat.le_trans ?_ h)
      rw [List.length_tail]
      exact Nat.sub_le _ _
    · exact .inl (Nat.le_refl 1)
  · exact h

lemma Cautious.later (h : (ask q k).Cautious b) (hr : q.read b = .ok o c) :
    (k o).Cautious c := by
  by_cases hq : q.reach ≤ b.unread
  · rw [Query.read_of_le hq] at hr
    cases hr
    rcases h with h | h
    · exact .inl (by simp [h, Source.empty, Source.ofList])
    · refine .inr fun n e t ht => h (q.asked b + n) e t ?_
      have hd : (b.source.items.take (q.asked b + n)).drop (q.asked b) =
          (b.source.items.drop (q.asked b)).take n := by
        rw [List.drop_take, Nat.add_sub_cancel_left]
      rw [run_ask (Query.read_of_take ?_ ?_), hd]
      · exact ht
      · rw [Lookahead.unread] at hq
        rw [List.length_take, Query.asked]
        omega
      · rw [List.take_take, Nat.min_eq_left (Nat.le_add_right _ _)]
  · rw [Query.read_of_lt (Nat.lt_of_not_le hq)] at hr
    cases hf : b.source.failure <;> rw [hf] at hr <;> cases hr
    exact .inl rfl

lemma Cautious.narrow_seen (h : (ask q k).Cautious b) (hb : Narrow b.ahead) :
    Narrow (q.seen b) := by
  have hreach := q.reach_le_two
  have hlen : (q.seen b).length = b.ahead.length + min (q.asked b) b.source.items.length := by
    rw [Query.seen, List.length_append, List.length_take]
  have hasked : q.asked b = q.reach - b.ahead.length := rfl
  rcases Nat.lt_or_ge 1 (q.seen b).length with hs | hs
  · by_cases ha : q.asked b = 0 ∨ b.source.items = []
    · have he : q.seen b = b.ahead := by
        rcases ha with ha | ha <;> simp [Query.seen, ha]
      exact he ▸ hb
    · obtain ⟨ha, hi⟩ := not_or.mp ha
      have hi := List.length_pos_iff.mpr hi
      obtain ⟨t, u, htu⟩ := List.length_eq_two.mp (by omega : (q.seen b).length = 2)
      have h := h.resolve_left (by rintro h; rw [h] at hi; cases hi)
      let e : LexicalError := ⟨.loneEscape, 0, 0, ""⟩
      have hlt : (⟨b.ahead, ⟨b.source.items.take (1 - b.ahead.length), some e⟩⟩ : State).unread <
          q.reach := by
        rw [Lookahead.unread, List.length_take]
        dsimp only
        omega
      have ht : b.ahead ++ b.source.items.take (1 - b.ahead.length) = [t] := by
        have h1 := congrArg (List.take 1) htu
        rw [Query.seen, List.take_append, List.take_of_length_le (by omega), List.take_take,
          Nat.min_eq_left (by omega)] at h1
        exact h1
      refine .inr ⟨t, u, htu, h (1 - b.ahead.length) e t (run_ask_error ?_)⟩
      rw [Query.read_error hlt rfl, Query.seen_of_lt hlt, Lookahead.rest, ht]
  · exact .inl hs

theorem Passes.narrow (h : s.Passes b c) (hs : s.Cautious b) (hb : Narrow b.ahead) :
    Narrow c.ahead := by
  induction h with
  | here => exact hb
  | @filled q _ b => exact Query.ahead_filled q b ▸ hs.narrow_seen hb
  | later hr _ ih =>
    refine ih (hs.later hr) ?_
    rw [Query.ahead_of_read hr]
    exact (hs.narrow_seen hb).leave _

end Script

end CellFormula.Parser
