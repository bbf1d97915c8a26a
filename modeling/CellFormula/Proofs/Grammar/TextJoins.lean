import CellFormula.Proofs.Grammar.ReadBack
import CellFormula.Proofs.Grammar.RightSides

/-! What a text join takes. On its left stands a chain and never a comparison, as the table of
precedences has it; on its right stands everything that follows, a comparison too. -/

namespace CellFormula

lemma Shape.left_of_textJoin {level : Level} {e a b : Expr} (h : Shape level e)
    (he : e = .textJoin a b) : Shape (.chain .sum) a := by
  induction h with
  | plain _ ih | operand _ ih | single _ ih | sum _ ih | compared _ ih => exact ih he
  | textJoin ha =>
    cases he
    exact ha
  | _ => cases he

lemma Shape.ne_comparison_of_chain {level : Level} {e : Expr} (h : Shape level e)
    (hl : level ≠ .comparison ∧ level ≠ .compound) (op : Comparator) (l r : Expr) :
    e ≠ .comparison op l r := by
  induction h with
  | plain _ ih | operand _ ih => exact ih (by simp)
  | @single tier _ _ ih => exact ih (by cases tier <;> simp [Tier.operands])
  | sum | comparison => exact (hl.1 rfl).elim
  | compared | comparedJoin | textJoin | intersection => exact (hl.2 rfl).elim
  | _ => simp

namespace Parser

variable {fin : Option LexicalError} {ts us rest : List Token} {t : Token} {left e : Expr}

def Uncompared (ts : List Token) : Prop :=
  ∀ t ∈ ts, ∀ op : Comparator, t.lexeme ≠ .symbol op.symbol

lemma ne_comparison_of_join (h : Reads fin (.join t left) us (.expr e) rest)
    (hu : ∀ op : Comparator, t.lexeme ≠ .symbol op.symbol) (op : Comparator) (l r : Expr) :
    e ≠ .comparison op l r := by
  cases h with
  | comparison ht => exact (hu _ ht).elim
  | _ => simp

lemma ne_comparison_of_immediateJoins (h : Reads fin (.immediateJoins left) ts (.expr e) rest)
    (hu : Uncompared ts) (hl : ∀ op l r, left ≠ .comparison op l r) (op : Comparator)
    (l r : Expr) : e ≠ .comparison op l r := by
  generalize hc : Call.immediateJoins left = c at h
  generalize ha : Answer.expr e = a at h
  induction h generalizing left with
  | immediateStop =>
    cases hc
    cases ha
    exact hl op l r
  | immediateStep _ hj _ _ ih =>
    cases hc
    have ht := hu _ List.mem_cons_self
    exact ih (fun u hm => hu u (hj.suffix.subset hm)) (ne_comparison_of_join hj ht) rfl ha
  | _ => cases hc

lemma ne_comparison_of_uncompared (h : Reads fin .compound ts (.expr e) rest)
    (hu : Uncompared ts) (op : Comparator) (l r : Expr) : e ≠ .comparison op l r := by
  cases h with
  | last ho hj =>
    have he : Shape .operand _ := fits_of_reads ho
    have hu := fun t hm => hu t (ho.suffix.subset hm)
    exact ne_comparison_of_immediateJoins hj hu (he.ne_comparison_of_chain (by simp)) op l r
  | textJoin | intersection => simp

lemma reads_of_front? (h : front? ts = some e) :
    ∃ rest, Reads none .compound ts (.expr e) rest := by
  have hr : Runs none expression ts _ _ := runs_expression ts
  have hr := hr (.ofSource (.ofList ts)) rfl rfl
  unfold front? at h
  cases ho : expression (.ofSource (.ofList ts)) with
  | ok o b =>
    rw [ho] at h hr
    cases h
    exact ⟨b.rest, hr.2⟩
  | error f b =>
    rw [ho] at h
    cases h

lemma ne_comparison_of_behindAmpersands (hs : ts.Pairwise fun t u =>
      t.lexeme = .symbol .ampersand → ∀ op : Comparator, u.lexeme ≠ .symbol op.symbol)
    (h : e ∈ behindAmpersands ts) (op : Comparator) (l r : Expr) : e ≠ .comparison op l r := by
  induction ts with
  | nil => cases h
  | cons t ts ih =>
    obtain ⟨ht, hs⟩ := List.pairwise_cons.mp hs
    rw [behindAmpersands] at h
    split at h
    · rename_i hsym
      rcases List.mem_append.mp h with h | h
      · obtain ⟨rest, hr⟩ := reads_of_front? (Option.mem_toList.mp h)
        have hu : Uncompared ts := fun u hm => ht u hm (Token.isSymbol_iff.mp hsym)
        exact ne_comparison_of_uncompared hr hu op l r
      · exact ih hs h
    · exact ih hs h

end Parser

def Expr.ComparesLoosest (e : Expr) : Prop :=
  ∀ a b, (textJoin a b).Within e → ∀ op l r, a ≠ comparison op l r ∧ b ≠ comparison op l r

namespace Formula

variable {ts : List Token} {a b c e : Expr} {source : Source Token LexicalError}

lemma left_ne_comparison (h : parseTokens source = .ok (some e)) (hw : (Expr.textJoin a b).Within e)
    (op : Comparator) (l r : Expr) : a ≠ .comparison op l r := by
  obtain ⟨-, hr⟩ := reads_of_parseTokens h
  have he : Shape .compound e := Parser.fits_of_reads hr
  cases (Part.shaped he).within hw with
  | shaped h => exact (h.left_of_textJoin rfl).ne_comparison_of_chain (by simp) op l r

lemma comparesLoosest_iff_rightSides (h : parseTokens source = .ok (some e)) :
    e.ComparesLoosest ↔ ∀ b ∈ e.rightSides, ∀ op l r, b ≠ .comparison op l r := by
  constructor
  · intro he b hb op l r
    obtain ⟨a, hw⟩ := Expr.mem_rightSides_iff.mp hb
    exact (he a b hw op l r).2
  · intro he a b hw op l r
    exact ⟨left_ne_comparison h hw op l r, he b (Expr.mem_rightSides_iff.mpr ⟨a, hw⟩) op l r⟩

structure ComparesLoosestWhen (source : Source Token LexicalError) (e : Expr) : Prop where
  exactly : e.ComparesLoosest ↔
    ∀ b ∈ Parser.behindAmpersands source.items, ∀ op l r, b ≠ .comparison op l r
  uncompared : (source.items.Pairwise fun t u => t.lexeme = .symbol .ampersand →
    ∀ op : Comparator, u.lexeme ≠ .symbol op.symbol) → e.ComparesLoosest

theorem comparesLoosest_of_parseTokens (h : parseTokens source = .ok (some e)) :
    ComparesLoosestWhen source e := by
  have he := rightSides_of_parseTokens h ▸ comparesLoosest_iff_rightSides h
  exact ⟨he, fun hs => he.mpr fun b => Parser.ne_comparison_of_behindAmpersands hs⟩

-- `C=A&B`
def comparedThenJoined : Source Token LexicalError :=
  .ofList [⟨.literal "C", 0, 1⟩, ⟨.symbol .equal, 1, 2⟩, ⟨.literal "A", 2, 3⟩,
    ⟨.symbol .ampersand, 3, 4⟩, ⟨.literal "B", 4, 5⟩]

theorem comparesLoosest_comparedThenJoined :
    parseTokens comparedThenJoined =
        .ok (some (.comparison .equal (.cell "C") (.textJoin (.cell "A") (.cell "B")))) ∧
      (Expr.comparison .equal (.cell "C") (.textJoin (.cell "A") (.cell "B"))).ComparesLoosest := by
  have h : parseTokens comparedThenJoined =
      .ok (some (.comparison .equal (.cell "C") (.textJoin (.cell "A") (.cell "B")))) := rfl
  have hb : Parser.behindAmpersands comparedThenJoined.items = [.cell "B"] := rfl
  exact ⟨h, (comparesLoosest_of_parseTokens h).exactly.mpr (by simp [hb])⟩

-- `A&B=C`
def joinedThenCompared : Source Token LexicalError :=
  .ofList [⟨.literal "A", 0, 1⟩, ⟨.symbol .ampersand, 1, 2⟩, ⟨.literal "B", 2, 3⟩,
    ⟨.symbol .equal, 3, 4⟩, ⟨.literal "C", 4, 5⟩]

theorem comparison_below_textJoin :
    ¬ ∀ source e, parseTokens source = .ok (some e) → e.ComparesLoosest := by
  intro h
  have hp : parseTokens joinedThenCompared =
      .ok (some (.textJoin (.cell "A") (.comparison .equal (.cell "B") (.cell "C")))) := rfl
  exact (h _ _ hp _ _ .self .equal (.cell "B") (.cell "C")).2 rfl

structure LegibleChain (e : Expr) : Prop where
  shape : Shape (.chain .sum) e
  legible : ∀ s : Expr, s.Within e → Legible s

lemma parseTokens_textJoin (ha : LegibleChain a) (hb : Shape .compound b)
    (hl : ∀ s : Expr, s.Within b → Legible s)
    (ht : ts.map Token.lexeme = a.written ++ .symbol .ampersand :: b.written) :
    parseTokens (.ofList ts) = .ok (some (.textJoin a b)) := by
  have hb : Parser.ReadsBack none .compound (.textJoin a b) :=
    Parser.readsBack_textJoin (Parser.readsBack_of_shape ha.shape ha.legible)
      (Parser.readsBack_of_shape hb hl)
  have hr : Parser.Reads none .compound (ts ++ []) (.expr (.textJoin a b)) [] :=
    hb ts [] ht (.of_stops rfl) ⟨rfl, rfl⟩
  rw [List.append_nil] at hr
  exact parseTokens_eq_some_iff.mpr hr

theorem parseTokens_textJoin_comparison (op : Comparator) (ha : LegibleChain a)
    (hb : LegibleChain b) (hc : LegibleChain c) (ht : ts.map Token.lexeme = a.written ++
      .symbol .ampersand :: (b.written ++ .symbol op.symbol :: c.written)) :
    parseTokens (.ofList ts) = .ok (some (.textJoin a (.comparison op b c))) := by
  have hl : Legible (.comparison op b c) := by constructor <;> simp
  refine parseTokens_textJoin ha (.compared (.comparison (.sum hb.shape) hc.shape)) ?_ ht
  exact hl.within (forall_mem_pair hb.legible hc.legible)

end Formula

end CellFormula
