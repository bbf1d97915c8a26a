import CellFormula.Proofs.Parser.Runs

namespace CellFormula

namespace Lookahead

variable {α ε : Type} {n : Nat} {b : Lookahead α ε}

lemma length_rest (b : Lookahead α ε) : b.rest.length = b.unread := List.length_append

lemma fill_of_le_unread (h : n ≤ b.unread) : fill n b = .ok ()
    ⟨b.ahead ++ b.source.items.take (n - b.ahead.length),
      ⟨b.source.items.drop (n - b.ahead.length), b.source.failure⟩⟩ :=
  pull_of_le (Nat.sub_le_iff_le_add'.mpr h)

lemma fill_of_unread_lt (h : b.unread < n) : fill n b = match b.source.failure with
    | none => .ok () ⟨b.rest, .empty⟩
    | some e => .error e ⟨b.rest, .empty⟩ :=
  pull_of_lt (Nat.lt_sub_iff_add_lt'.mpr h)

end Lookahead

namespace Parser

lemma bind_apply_eq {α β : Type} {x y : Parser α} {f g : α → Parser β} {b : State}
    (h : x b = y b) (hf : ∀ a c, y b = .ok a c → f a c = g a c) : (x >>= f) b = (y >>= g) b := by
  simp only [Bind.bind, EStateM.bind, h]
  cases hr : y b with
  | ok a c => exact hf a c hr
  | error f c => rfl

inductive Query where
  | peek | peekSecond | next

namespace Query

variable {q : Query} {b : State}

def read : Query → Parser (Option Token)
  | peek => Parser.peek
  | peekSecond => Parser.peekSecond
  | next => Parser.next

def reach : Query → Nat
  | peekSecond => 2
  | peek | next => 1

def takes : Query → Bool
  | next => true
  | peek | peekSecond => false

lemma reach_pos (q : Query) : 0 < q.reach := by cases q <;> decide

lemma reach_le_two (q : Query) : q.reach ≤ 2 := by cases q <;> decide

def asked (q : Query) (b : State) : Nat := q.reach - b.ahead.length

def seen (q : Query) (b : State) : List Token := b.ahead ++ b.source.items.take (q.asked b)

def leave (q : Query) (ts : List Token) : List Token := if q.takes then ts.tail else ts

lemma leave_suffix (q : Query) (ts : List Token) : q.leave ts <:+ ts := by
  rw [leave]
  split
  · exact List.tail_suffix ts
  · exact List.suffix_rfl

lemma read_apply (q : Query) (b : State) : q.read b = match Lookahead.fill q.reach b with
    | .ok _ c => .ok c.ahead[q.reach - 1]? { c with ahead := q.leave c.ahead }
    | .error e c => .error (.lexical e) c := by
  cases q with
  | peek =>
    simp only [read, Parser.peek, lift, Lookahead.peek_apply, reach]
    cases Lookahead.fill 1 b with
    | ok _ c => simp only [List.head?_eq_getElem?, leave, takes, Nat.sub_self]; rfl
    | error e c => rfl
  | peekSecond =>
    simp only [read, Parser.peekSecond, lift, Lookahead.peekSecond_apply, reach]
    cases Lookahead.fill 2 b <;> rfl
  | next =>
    simp only [read, Parser.next, lift, Lookahead.next_apply, reach]
    cases Lookahead.fill 1 b with
    | ok _ c => simp only [List.head?_eq_getElem?, leave, takes, Nat.sub_self]; rfl
    | error e c => rfl

lemma read_of_le (h : q.reach ≤ b.unread) : q.read b = .ok (q.seen b)[q.reach - 1]?
    ⟨q.leave (q.seen b), ⟨b.source.items.drop (q.asked b), b.source.failure⟩⟩ := by
  rw [read_apply, Lookahead.fill_of_le_unread h]
  rfl

lemma seen_of_lt (h : b.unread < q.reach) : q.seen b = b.rest := by
  rw [seen, List.take_of_length_le]
  · rfl
  · rw [asked]
    rw [Lookahead.unread] at h
    omega

lemma read_of_lt (h : b.unread < q.reach) : q.read b = match b.source.failure with
    | none => .ok (q.seen b)[q.reach - 1]? ⟨q.leave (q.seen b), .empty⟩
    | some e => .error (.lexical e) ⟨q.seen b, .empty⟩ := by
  rw [read_apply, Lookahead.fill_of_unread_lt h, seen_of_lt h]
  cases b.source.failure <;> rfl

lemma seen_append (q : Query) (b : State) :
    q.seen b ++ b.source.items.drop (q.asked b) = b.rest := by
  rw [seen, List.append_assoc, List.take_append_drop]
  rfl

lemma reach_le_length_seen (h : q.reach ≤ b.unread) : q.reach ≤ (q.seen b).length := by
  rw [Lookahead.unread] at h
  rw [seen, asked, List.length_append, List.length_take]
  omega

lemma read_ok (h : q.reach ≤ b.unread ∨ b.source.failure = none) : ∃ c,
    q.read b = .ok b.rest[q.reach - 1]? c ∧ c.rest = q.leave b.rest ∧
      c.source.failure = b.source.failure := by
  by_cases hq : q.reach ≤ b.unread
  · have hl := reach_le_length_seen hq
    have hs : q.seen b ≠ [] := List.ne_nil_of_length_pos (Nat.lt_of_lt_of_le q.reach_pos hl)
    have hg : b.rest[q.reach - 1]? = (q.seen b)[q.reach - 1]? := by
      rw [← seen_append q b, List.getElem?_append_left (Nat.sub_one_lt_of_le q.reach_pos hl)]
    rw [read_of_le hq, hg]
    refine ⟨_, rfl, ?_, rfl⟩
    rw [← seen_append q b, Lookahead.rest, leave, leave]
    split
    · exact (List.tail_append_of_ne_nil hs).symm
    · rfl
  · have hf := h.resolve_left hq
    rw [read_of_lt (Nat.lt_of_not_le hq), hf, seen_of_lt (Nat.lt_of_not_le hq)]
    exact ⟨_, rfl, List.append_nil _, rfl⟩

lemma read_error {e : LexicalError} (h : b.unread < q.reach) (he : b.source.failure = some e) :
    q.read b = .error (.lexical e) ⟨q.seen b, .empty⟩ := by
  rw [read_of_lt h, he]

end Query

end Parser

end CellFormula
