import CellFormula.Proofs.Parser.Blame
import CellFormula.Proofs.Parser.Copies
import CellFormula.Proofs.Parser.Parametric
import CellFormula.Proofs.Parser.Whole

/-! How tokens are grouped depends on their kinds alone. Two streams of the same kinds are read side
by side: both readers stand at one mark and see tokens of one kind there, so they do the same. -/

namespace CellFormula

structure SameKinds (source source' : Source Token LexicalError) : Prop where
  kinds : source.items.map Token.kind = source'.items.map Token.kind
  failure : source.failure.isSome = source'.failure.isSome

def spoken (ts : List Token) : List Token := ts.filter fun t => t.symbol?.isNone

/-- Tokens that are, in the order of their streams, the ones with the same number to give a name or
a value. -/
def Paired (source source' : Source Token LexicalError) (n : Nat) (t t' : Token) : Prop :=
  (spoken source.items)[n]? = some t ∧ (spoken source'.items)[n]? = some t'

def Mark.Fits (m : Mark) (ts : List Token) : Prop := m.said = (spoken (ts.take m.index)).length

def Abreast (source source' : Source Token LexicalError) (m : Mark) (t t' : Token) : Prop :=
  m.Fits source.items ∧ source.items[m.index]? = some t ∧ source'.items[m.index]? = some t'

variable {source source' : Source Token LexicalError}

lemma isNone_symbol?_eq (t : Token) : t.symbol?.isNone = t.kind.speaks := by
  rw [Token.symbol?, Token.kind]
  cases t.lexeme <;> rfl

lemma length_spoken_eq {ts ts' : List Token} (h : ts.map Token.kind = ts'.map Token.kind) :
    (spoken ts).length = (spoken ts').length := by
  have hk (ts : List Token) :
      (spoken ts).length = ((ts.map Token.kind).filter Kind.speaks).length := by
    rw [List.filter_map, List.length_map, spoken]
    exact congrArg _ (List.filter_congr fun t _ => isNone_symbol?_eq t)
  rw [hk, hk, h]

lemma getElem?_spoken {ts : List Token} {i : Nat} {t : Token} (h : ts[i]? = some t)
    (ht : t.symbol? = none) : (spoken ts)[(spoken (ts.take i)).length]? = some t := by
  obtain ⟨hi, rfl⟩ := List.getElem?_eq_some_iff.mp h
  have hn : ts[i].symbol?.isNone := by rw [ht, Option.isNone_none]
  have hs := calc spoken ts
    _ = spoken (ts.take i ++ ts[i] :: ts.drop (i + 1)) := by
      rw [← List.drop_eq_getElem_cons hi, List.take_append_drop]
    _ = spoken (ts.take i) ++ ts[i] :: spoken (ts.drop (i + 1)) := by
      rw [spoken, List.filter_append, List.filter_cons, if_pos hn]
      rfl
  rw [hs, List.getElem?_append_right (Nat.le_refl _), Nat.sub_self, List.getElem?_cons_zero]

namespace Mark.Fits

variable {m : Mark} {ts : List Token} {t : Token}

lemma start (ts : List Token) : Mark.start.Fits ts := rfl

lemma past (h : m.Fits ts) (ht : ts[m.index]? = some t) : (m.past t).Fits ts := by
  rw [Mark.Fits, Mark.past, List.take_add_one, ht, Option.toList_some, spoken, List.filter_append,
    List.length_append, ← spoken, ← h]
  cases hs : t.symbol? with
  | none => simp [hs]
  | some s => simp [hs]

end Mark.Fits

namespace SameKinds

variable {t t' : Token} {m : Mark}

lemma length_eq (h : SameKinds source source') : source.items.length = source'.items.length := by
  rw [← List.length_map Token.kind, h.kinds, List.length_map]

lemma kind_eq (h : SameKinds source source') (ht : Abreast source source' m t t') :
    t.kind = t'.kind := by
  obtain ⟨-, hi, hi'⟩ := ht
  have hk := congrArg (·[m.index]?) h.kinds
  simp only [List.getElem?_map, hi, hi', Option.map_some] at hk
  exact Option.some.inj hk

lemma fits (h : SameKinds source source') (hm : m.Fits source.items) : m.Fits source'.items := by
  refine hm.trans (length_spoken_eq ?_)
  rw [List.map_take, List.map_take, h.kinds]

lemma paired (h : SameKinds source source') (ht : Abreast source source' m t t')
    (hs : t.symbol? = none) : Paired source source' m.said t t' := by
  obtain ⟨hm, hi, hi'⟩ := ht
  have hs' : t'.symbol? = none := by
    rw [← Option.isNone_iff_eq_none, isNone_symbol?_eq, ← h.kind_eq ⟨hm, hi, hi'⟩,
      ← isNone_symbol?_eq, hs, Option.isNone_none]
  refine ⟨?_, ?_⟩
  · rw [hm]
    exact getElem?_spoken hi hs
  · rw [h.fits hm]
    exact getElem?_spoken hi' hs'

lemma rel_getElem? (h : SameKinds source source') (hm : m.Fits source.items) :
    Option.Rel (Abreast source source' m) source.items[m.index]? source'.items[m.index]? := by
  by_cases hi : m.index < source.items.length
  · have hi' := h.length_eq ▸ hi
    rw [List.getElem?_eq_getElem hi, List.getElem?_eq_getElem hi']
    exact .some ⟨hm, List.getElem?_eq_getElem hi, List.getElem?_eq_getElem hi'⟩
  · rw [List.getElem?_eq_none (Nat.le_of_not_lt hi),
      List.getElem?_eq_none (h.length_eq ▸ Nat.le_of_not_lt hi)]
    exact .none

end SameKinds

namespace Parser

variable {α β : Type} {b b' : State} {m : Mark}

structure Level (source source' : Source Token LexicalError) (m : Mark) (b b' : State) : Prop where
  fits : m.Fits source.items
  rest : b.rest = source.items.drop m.index
  rest' : b'.rest = source'.items.drop m.index
  failure : b.source.failure = source.failure
  failure' : b'.source.failure = source'.failure

inductive FailuresCorrespond (source source' : Source Token LexicalError) :
    Failure → Failure → Prop
  | lexical {e e'} : source.failure = some e → source'.failure = some e' →
      FailuresCorrespond source source' (.lexical e) (.lexical e')
  | syntactic {c c'} :
      ParseCause.Corresponds (fun t t' => ∃ m, Abreast source source' m t t') c c' →
      FailuresCorrespond source source' (.syntactic c) (.syntactic c')
  | defect : FailuresCorrespond source source' .defect .defect

inductive EndsLevel (source source' : Source Token LexicalError) (Q : Mark → α → α → Prop) :
    EStateM.Result Failure State α → EStateM.Result Failure State α → Prop
  | ok {m a a' b b'} : Level source source' m b b' → Q m a a' →
      EndsLevel source source' Q (.ok a b) (.ok a' b')
  | error {f f' b b'} : FailuresCorrespond source source' f f' →
      EndsLevel source source' Q (.error f b) (.error f' b')
  | left {s b r} : EndsLevel source source' Q (.error (.nonfinite s) b) r
  | right {s b r} : EndsLevel source source' Q r (.error (.nonfinite s) b)

def SideBySide (source source' : Source Token LexicalError) (m : Mark) (Q : Mark → α → α → Prop)
    (x x' : Parser α) : Prop :=
  ∀ b b', Level source source' m b b' → EndsLevel source source' Q (x b) (x' b')

lemma Level.unread_eq (hb : Level source source' m b b') (h : SameKinds source source') :
    b.unread = b'.unread := by
  rw [← Lookahead.length_rest, ← Lookahead.length_rest, hb.rest, hb.rest', List.length_drop,
    List.length_drop, h.length_eq]

namespace SideBySide

variable {t t' : Token}

lemma bind {P : Mark → α → α → Prop} {Q : Mark → β → β → Prop} {x x' : Parser α}
    {f f' : α → Parser β} (hx : SideBySide source source' m P x x')
    (hf : ∀ n a a', P n a a' → SideBySide source source' n Q (f a) (f' a')) :
    SideBySide source source' m Q (x >>= f) (x' >>= f') := by
  intro b b' hb
  have h := hx b b' hb
  simp only [Bind.bind, EStateM.bind]
  generalize x b = r, x' b' = r' at h
  cases h with
  | ok hc ha => exact hf _ _ _ ha _ _ hc
  | error h => exact .error h
  | left => exact .left
  | right => exact .right

lemma ask (h : SameKinds source source') (q : Query) {Q : Mark → Option Token → Option Token → Prop}
    (hQ : ∀ c c', c.rest = q.leave (source.items.drop m.index) →
      c'.rest = q.leave (source'.items.drop m.index) → m.Fits source.items →
      c.source.failure = source.failure → c'.source.failure = source'.failure →
      EndsLevel source source' Q (.ok source.items[m.index + (q.reach - 1)]? c)
        (.ok source'.items[m.index + (q.reach - 1)]? c')) :
    SideBySide source source' m Q q.read q.read := by
  intro b b' hb
  have hu := hb.unread_eq h
  obtain ⟨hm, hr, hr', hf, hf'⟩ := hb
  by_cases hq : q.reach ≤ b.unread ∨ b.source.failure = none
  · have hq' : q.reach ≤ b'.unread ∨ b'.source.failure = none := by
      refine hq.imp (hu ▸ ·) fun hn => ?_
      rw [hf', ← Option.isNone_iff_eq_none, ← Option.not_isSome, ← h.failure, ← hf, hn]
      rfl
    obtain ⟨c, hc, hcr, hcf⟩ := Query.read_ok hq
    obtain ⟨c', hc', hcr', hcf'⟩ := Query.read_ok hq'
    rw [hc, hc', hr, hr', List.getElem?_drop, List.getElem?_drop]
    exact hQ c c' (hr ▸ hcr) (hr' ▸ hcr') hm (hcf.trans hf) (hcf'.trans hf')
  · obtain ⟨hq, hn⟩ := not_or.mp hq
    obtain ⟨e, he⟩ := Option.ne_none_iff_exists'.mp hn
    have hs : source'.failure.isSome := by rw [← h.failure, ← hf, he, Option.isSome_some]
    obtain ⟨e', he'⟩ := Option.isSome_iff_exists.mp hs
    rw [Nat.not_le] at hq
    rw [Query.read_error hq he, Query.read_error (hu ▸ hq) (hf'.trans he')]
    exact .error (.lexical (hf ▸ he) he')

lemma peek (h : SameKinds source source') : SideBySide source source' m
    (fun n o o' => n = m ∧ Option.Rel (Abreast source source' m) o o') Parser.peek Parser.peek :=
  ask h .peek fun _ _ hc hc' hm hf hf' => .ok ⟨hm, hc, hc', hf, hf'⟩ ⟨rfl, h.rel_getElem? hm⟩

lemma peekSecond (h : SameKinds source source') (ht : Abreast source source' m t t') :
    SideBySide source source' m
      (fun n o o' => n = m ∧ Option.Rel (Abreast source source' (m.past t)) o o')
      Parser.peekSecond Parser.peekSecond :=
  ask h .peekSecond fun _ _ hc hc' hm hf hf' =>
    .ok ⟨hm, hc, hc', hf, hf'⟩ ⟨rfl, h.rel_getElem? (hm.past ht.2.1)⟩

lemma level_past (ht : Abreast source source' m t t') {c c' : State}
    (hc : c.rest = Query.next.leave (source.items.drop m.index))
    (hc' : c'.rest = Query.next.leave (source'.items.drop m.index))
    (hf : c.source.failure = source.failure) (hf' : c'.source.failure = source'.failure) :
    Level source source' (m.past t) c c' where
  fits := ht.1.past ht.2.1
  rest := hc.trans List.tail_drop
  rest' := hc'.trans List.tail_drop
  failure := hf
  failure' := hf'

lemma next (h : SameKinds source source') : SideBySide source source' m
    (fun n o o' => Option.Rel (Abreast source source' m) o o' ∧ ∀ t, o = some t → n = m.past t)
    Parser.next Parser.next := by
  refine ask h .next fun c c' hc hc' hm hf hf' => ?_
  have hr := h.rel_getElem? hm
  simp only [Query.reach, Nat.sub_self, Nat.add_zero]
  generalize ho : source.items[m.index]? = o, ho' : source'.items[m.index]? = o' at hr
  cases hr with
  | some ht => exact .ok (level_past ht hc hc' hf hf') ⟨.some ht, fun _ h => by cases h; rfl⟩
  | none =>
    have hd := List.drop_eq_nil_of_le (List.getElem?_eq_none_iff.mp ho)
    have hd' := List.drop_eq_nil_of_le (List.getElem?_eq_none_iff.mp ho')
    have hl : Level source source' m c c' :=
      ⟨hm, by rw [hc, hd]; rfl, by rw [hc', hd']; rfl, hf, hf'⟩
    exact .ok hl ⟨.none, fun _ h => by cases h⟩

lemma skip (h : SameKinds source source') (ht : Abreast source source' m t t') :
    SideBySide source source' m (fun n _ _ => n = m.past t) Parser.skip Parser.skip := by
  refine bind (P := fun n _ _ => n = m.past t) ?_ fun n _ _ hn _ _ hb => .ok hb hn
  exact ask h .next fun c c' hc hc' _ hf hf' => .ok (level_past ht hc hc' hf hf') rfl

def congruence (h : SameKinds source source') : Congruence where
  token := Abreast source source'
  leaf := Paired source source'
  reader := SideBySide source source'
  kind := h.kind_eq
  speaks := h.paired
  pure ha := fun _ _ hb => .ok hb ha
  bind := .bind
  peek := .peek h
  peekSecond := .peekSecond h
  next := .next h
  skip := .skip h
  refuse hc := fun _ _ _ => .error (.syntactic hc)
  spoilt _ _ := fun _ _ _ => .left
  spoilt' _ _ _ := fun _ _ _ => .right
  defect := fun _ _ _ => .error .defect

end SideBySide

lemma sideBySide_formula (h : SameKinds source source') :
    SideBySide source source' .start
      (fun m => Expr.MayCorrespond (Paired source source') 0 m.said) formula formula := by
  intro b b' hb
  have hu := congrArg depth (hb.unread_eq h)
  rw [formula_eq_within (Nat.le_refl _), formula_eq_within (Nat.le_of_eq hu.symm)]
  exact (SideBySide.congruence h).relates_formula _ b b' hb

end Parser

def ParseCause.BlamesAt (ts : List Token) (i : Nat) : ParseCause → Prop
  | missing _ after => i = ts.length ∧ ts.getLast? = some after
  | misplaced _ t | strayInList t _ | leftover t | unclosed t | unclosedList t | unmatched t =>
    ts[i]? = some t

lemma ParseCause.Corresponds.fault_eq {R : Token → Token → Prop} {c c' : ParseCause}
    (h : Corresponds R c c') : c.fault = c'.fault := by
  cases h <;> rfl

namespace Formula

open CellFormula.Parser

inductive OutcomesCorrespond (source source' : Source Token LexicalError) :
    Except Failure (Option Expr) → Except Failure (Option Expr) → Prop
  | absent : OutcomesCorrespond source source' (.ok none) (.ok none)
  | tree {e e'} : Expr.Corresponds (Paired source source') 0 (spoken source.items).length e e' →
      OutcomesCorrespond source source' (.ok (some e)) (.ok (some e'))
  | lexical {e e'} : source.failure = some e → source'.failure = some e' →
      OutcomesCorrespond source source' (.error (.lexical e)) (.error (.lexical e'))
  | syntactic {c c' i} : c.fault = c'.fault → c.BlamesAt source.items i →
      c'.BlamesAt source'.items i →
      OutcomesCorrespond source source' (.error (.syntactic c)) (.error (.syntactic c'))

def MeetsNonfinite (source : Source Token LexicalError) : Prop :=
  ∃ s, parseTokens source = .error (.nonfinite s)

structure ReadAlike (source source' : Source Token LexicalError) : Prop where
  outcomes : OutcomesCorrespond source source' (parseTokens source) (parseTokens source') ↔
    ¬ MeetsNonfinite source ∧ ¬ MeetsNonfinite source'
  finite : (∀ t ∈ source.items ++ source'.items, ∀ s, t.lexeme ≠ .special s) →
    OutcomesCorrespond source source' (parseTokens source) (parseTokens source')
  offsets : source.items.map Token.lexeme = source'.items.map Token.lexeme →
    ∀ o, parseTokens source = .ok o → parseTokens source' = .ok o

lemma blamesAt_of_corresponds (h : SameKinds source source') {c c' : ParseCause}
    (hc : ParseCause.Corresponds (fun t t' => ∃ m, Abreast source source' m t t') c c')
    (hp : parseTokens source = .error (.syntactic c))
    (hp' : parseTokens source' = .error (.syntactic c')) :
    ∃ i, c.BlamesAt source.items i ∧ c'.BlamesAt source'.items i := by
  cases hc with
  | missing =>
    refine ⟨source.items.length, ⟨rfl, ?_⟩, h.length_eq, ?_⟩
    · exact (blames_of_parseTokens hp).2
    · exact (blames_of_parseTokens hp').2
  | misplaced _ ht | strayInList ht | leftover ht | unclosed ht | unclosedList ht | unmatched ht =>
    obtain ⟨m, -, hi, hi'⟩ := ht
    exact ⟨m.index, hi, hi'⟩

lemma OutcomesCorrespond.ne_nonfinite {r r' : Except Failure (Option Expr)}
    (h : OutcomesCorrespond source source' r r') (s : Decimal.Special) :
    r ≠ .error (.nonfinite s) ∧ r' ≠ .error (.nonfinite s) := by
  cases h <;> constructor <;> intro hs <;> cases hs

lemma not_meetsNonfinite (h : ∀ t ∈ source.items, ∀ s, t.lexeme ≠ .special s) :
    ¬ MeetsNonfinite source := by
  rintro ⟨s, hs⟩
  obtain ⟨e, he, -⟩ | ⟨cause, hc⟩ := refusal_of_parseTokens h hs
  · cases he
  · cases hc

lemma outcomesCorrespond (h : SameKinds source source') (hn : ¬ MeetsNonfinite source)
    (hn' : ¬ MeetsNonfinite source') :
    OutcomesCorrespond source source' (parseTokens source) (parseTokens source') := by
  have hs := sideBySide_formula h (.ofSource source) (.ofSource source')
    ⟨.start _, rfl, rfl, rfl, rfl⟩
  have hp : parseTokens source = outcome (formula (.ofSource source)) := rfl
  have hp' : parseTokens source' = outcome (formula (.ofSource source')) := rfl
  have hrun {o : Option Expr} (ho : parseTokens source = .ok o) :
      formula (.ofSource source) = .ok o (.ofSource .empty) := (run_of_parseTokens ho).2.1
  generalize formula (.ofSource source) = r, formula (.ofSource source') = r' at hs hp hp' hrun
  cases hs with
  | @ok m _ _ b _ hl ho =>
    rw [hp, hp']
    cases ho with
    | some he =>
      -- Nothing is left, so the mark behind the tree is the end.
      obtain ⟨-, rfl⟩ := EStateM.Result.ok.inj (hrun hp)
      have hall := List.take_of_length_le (List.drop_eq_nil_iff.mp hl.rest.symm)
      have hsaid := hl.fits
      rw [Mark.Fits, hall] at hsaid
      exact .tree (hsaid ▸ he)
    | none => exact .absent
  | error hf =>
    rw [hp, hp']
    cases hf with
    | lexical he he' => exact .lexical he he'
    | syntactic hc =>
      obtain ⟨i, hi, hi'⟩ := blamesAt_of_corresponds h hc hp hp'
      exact .syntactic hc.fault_eq hi hi'
    | defect => exact (refuses_of_parseTokens hp).elim
  | left => exact (hn ⟨_, hp⟩).elim
  | right => exact (hn' ⟨_, hp'⟩).elim

theorem readAlike (h : SameKinds source source') : ReadAlike source source' where
  outcomes := by
    refine ⟨fun ho => ⟨fun ⟨s, hs⟩ => ?_, fun ⟨s, hs⟩ => ?_⟩, fun ⟨hn, hn'⟩ => ?_⟩
    · exact (ho.ne_nonfinite s).1 hs
    · exact (ho.ne_nonfinite s).2 hs
    · exact outcomesCorrespond h hn hn'
  finite hf := by
    obtain ⟨hf, hf'⟩ := List.forall_mem_append.mp hf
    exact outcomesCorrespond h (not_meetsNonfinite hf) (not_meetsNonfinite hf')
  offsets hl o ho := by
    have hf := (run_of_parseTokens ho).1
    refine parseTokens_copy ?_ hl.symm ho
    rw [← Option.isNone_iff_eq_none, ← Option.not_isSome, ← h.failure, hf]
    rfl

theorem readAlike_shifted :
    SameKinds (.ofList [⟨.literal "A", 0, 1⟩, ⟨.symbol .add, 1, 2⟩, ⟨.string "x", 2, 3⟩])
        (.ofList [⟨.literal "B", 7, 3⟩, ⟨.symbol .add, -1, 0⟩, ⟨.string "", 0, 9⟩]) ∧
      ReadAlike (.ofList [⟨.literal "A", 0, 1⟩, ⟨.symbol .add, 1, 2⟩, ⟨.string "x", 2, 3⟩])
        (.ofList [⟨.literal "B", 7, 3⟩, ⟨.symbol .add, -1, 0⟩, ⟨.string "", 0, 9⟩]) := by
  have h : SameKinds (.ofList [⟨.literal "A", 0, 1⟩, ⟨.symbol .add, 1, 2⟩, ⟨.string "x", 2, 3⟩])
      (.ofList [⟨.literal "B", 7, 3⟩, ⟨.symbol .add, -1, 0⟩, ⟨.string "", 0, 9⟩]) :=
    ⟨rfl, rfl⟩
  exact ⟨h, readAlike h⟩

theorem not_alike_nan :
    SameKinds (.ofList [⟨.special (.nan false false 0), 0, 1⟩])
        (.ofList [⟨.number ⟨false, 1, 0⟩, 0, 1⟩]) ∧
      ¬ OutcomesCorrespond (.ofList [⟨.special (.nan false false 0), 0, 1⟩])
        (.ofList [⟨.number ⟨false, 1, 0⟩, 0, 1⟩])
        (parseTokens (.ofList [⟨.special (.nan false false 0), 0, 1⟩]))
        (parseTokens (.ofList [⟨.number ⟨false, 1, 0⟩, 0, 1⟩])) :=
  ⟨⟨rfl, rfl⟩, fun h => (h.ne_nonfinite (.nan false false 0)).1 rfl⟩

end Formula

end CellFormula
