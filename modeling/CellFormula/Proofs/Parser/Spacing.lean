import CellFormula.Proofs.Parser.Copies
import CellFormula.Proofs.Token.Seams

namespace CellFormula

def Text.insertAt (w : Char) (p : Nat) (text : String) : String :=
  String.ofList (text.toList.take p ++ w :: text.toList.drop p)

namespace Token

variable {p last : Nat} {t : Token} {ts : List Token}

def pushed (p : Nat) (t : Token) : Token := if p ≤ t.start then t.moved 1 else t

lemma lexeme_pushed (p : Nat) (t : Token) : (t.pushed p).lexeme = t.lexeme := by
  rw [pushed]
  split <;> rfl

lemma map_pushed_before (h : ∀ t ∈ ts, Lies 0 p t) : ts.map (pushed p) = ts := by
  refine (List.map_congr_left fun t ht => ?_).trans (List.map_id ts)
  obtain ⟨-, h₁, h₂⟩ := h t ht
  exact if_neg (Int.not_le.mpr (Int.lt_of_lt_of_le h₁ h₂))

lemma map_pushed_behind (h : ∀ t ∈ ts, Lies p last t) : ts.map (pushed p) = ts.map (moved 1) :=
  List.map_congr_left fun t ht => if_pos (h t ht).1

lemma scanFrom_insert (text text' : String) {u v : List Char} {w : Char} {items : List Token}
    {final : Region} (hw : Text.isBlank w) (h : Cuts v .outside 0 u items final) :
    scanFrom text' .outside 0 (u ++ w :: v) =
      ⟨(scanFrom text .outside 0 (u ++ v)).items.map (pushed u.length),
        (scanFrom text .outside 0 (u ++ v)).failure.map fun e =>
          ⟨e.cause, e.start + 1, e.stop + 1, text'⟩⟩ := by
  have hb : ∀ t ∈ items, Lies 0 u.length t := by simpa using h.lies
  have hv (t : Token) (ht : t ∈ (scanFrom text final (0 + u.length) v).items) :
      Lies u.length (u.length + v.length : Nat) t := by
    simpa using lies_of_mem_scanFrom ht
  rw [(h.exchange (.blank hw)).scanFrom_append, h.scanFrom_append text, scanFrom_blank hw,
    scanFrom_moved text]
  simp only [Source.prepend, List.map_append, map_pushed_before hb, map_pushed_behind hv]
  rfl

end Token

namespace Formula

/-- What is read from `text'` is what is read from `text`, with all that stands behind `p` moved
by one. -/
structure Spaced (p : Nat) (text text' : String) : Prop where
  items : (Token.scan text').items = (Token.scan text).items.map (Token.pushed p)
  failure : (Token.scan text').failure = (Token.scan text).failure.map fun e =>
    ⟨e.cause, e.start + 1, e.stop + 1, text'⟩
  parse : ∀ o, parse text' = .ok o ↔ parse text = .ok o

lemma parse_congr {text text' : String} (hl : (Token.scan text').items.map Token.lexeme =
      (Token.scan text).items.map Token.lexeme)
    (hf : (Token.scan text').failure = none ↔ (Token.scan text).failure = none)
    (o : Option Expr) : parse text' = .ok o ↔ parse text = .ok o := by
  constructor
  · exact fun h => parseTokens_copy (hf.mp (run_of_parseTokens h).1) hl.symm h
  · exact fun h => parseTokens_copy (hf.mpr (run_of_parseTokens h).1) hl h

lemma parse_eq_ok_iff {text text' : String} {p : Nat}
    (hi : (Token.scan text').items = (Token.scan text).items.map (Token.pushed p))
    (hf : (Token.scan text').failure = none ↔ (Token.scan text).failure = none)
    (o : Option Expr) : parse text' = .ok o ↔ parse text = .ok o := by
  refine parse_congr ?_ hf o
  rw [hi, List.map_map]
  exact List.map_congr_left fun t _ => Token.lexeme_pushed p t

theorem spaced_insertAt {text : String} {p : Nat} {w : Char} (hw : Text.isBlank w)
    (hp : p ≤ text.length) (ht : ∀ t ∈ (Token.scan text).items, ¬ (t.start < p ∧ p < t.stop))
    (hf : ∀ q, Token.FailsAt .outside 0 text.toList q → p ≤ q) :
    Spaced p text (Text.insertAt w p text) := by
  obtain ⟨u, v, huv, rfl⟩ : ∃ u v, text.toList = u ++ v ∧ p = u.length :=
    ⟨text.toList.take p, text.toList.drop p, (List.take_append_drop _ _).symm, by
      rw [List.length_take, String.length_toList, Nat.min_eq_left hp]⟩
  rw [Token.scan, huv] at ht
  rw [huv] at hf
  obtain ⟨items, final, h⟩ := Token.cuts_of_seam (Nat.zero_add u.length) ht hf
  have hs := Token.scanFrom_insert text (Text.insertAt w u.length text) hw h
  have hi : (Text.insertAt w u.length text).toList = u ++ w :: v := by
    rw [Text.insertAt, String.toList_ofList, huv, List.take_left, List.drop_left]
  rw [← hi, ← huv] at hs
  have hitems := congrArg Source.items hs
  have hfailure := congrArg Source.failure hs
  refine ⟨hitems, hfailure, parse_eq_ok_iff hitems ?_⟩
  rw [Token.scan, hfailure, Option.map_eq_none_iff]
  rfl

-- A space behind the name of a column goes on with the name, unless nothing of a name follows it.
theorem spaced_column : Spaced 2 "[A~" "[A ~" := by
  have hopen : Region.outside.cut '[' ['A', '~'] = .ok ⟨.symbol .openSquare, 1, Nat.one_pos⟩ := rfl
  have hname : Region.inside.cut 'A' ['~'] = .ok ⟨.literal "A", 1, Nat.one_pos⟩ := rfl
  have hstray : Region.inside.cut '~' [] = .error ⟨.strayInSquare '~', 0, 1⟩ := rfl
  have hs : (Token.scan "[A~").items = [⟨.symbol .openSquare, 0, 1⟩, ⟨.literal "A", 1, 2⟩] := by
    calc (Token.scan "[A~").items
      _ = (Token.scanFrom "[A~" .outside 0 ['[', 'A', '~']).items := rfl
      _ = ⟨.symbol .openSquare, 0, 1⟩ :: (Token.scanFrom "[A~" .inside 1 ['A', '~']).items :=
        congrArg Source.items (Token.scanFrom_cut rfl hopen)
      _ = ⟨.symbol .openSquare, 0, 1⟩ :: ⟨.literal "A", 1, 2⟩ ::
          (Token.scanFrom "[A~" .inside 2 ['~']).items :=
        congrArg (_ :: Source.items ·) (Token.scanFrom_cut rfl hname)
      _ = [⟨.symbol .openSquare, 0, 1⟩, ⟨.literal "A", 1, 2⟩] := by
        rw [Token.scanFrom_miscut rfl hstray]
        rfl
  refine @spaced_insertAt "[A~" 2 ' ' rfl (by decide) ?_ ?_
  · rw [hs]
    decide
  · intro q hq
    have hm : ⟨.literal "A", 1, 2⟩ ∈ (Token.scan "[A~").items := by
      rw [hs]
      exact List.mem_cons_of_mem _ List.mem_cons_self
    have hb : (2 : Int) ≤ q := (hq.bounds "[A~").2 _ hm
    exact_mod_cast hb

end Formula

end CellFormula
