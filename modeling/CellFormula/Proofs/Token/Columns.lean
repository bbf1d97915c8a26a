import CellFormula.Proofs.Token.Seams

namespace CellFormula

open Token

namespace Column

def escape (name : List Char) : List Char := name.flatMap fun c => ['\'', c]

def units : List Char → List (List Char)
  | [] => []
  | '\'' :: c :: rest => ['\'', c] :: units rest
  | c :: rest => [c] :: units rest

/-- A closing bracket behind this text is the first one that no apostrophe escapes. -/
def Sealed (name : List Char) : Prop :=
  [']'] ∉ units name ∧ (units name).getLast? ≠ some ['\'']

instance (name : List Char) : Decidable (Sealed name) :=
  inferInstanceAs (Decidable (_ ∧ _))

variable {c : Char} {name rest : List Char}

lemma readPlain_escape (name rest : List Char) :
    readPlain (escape name ++ ']' :: rest) = .ok (name, (escape name).length) := by
  induction name with
  | nil => rfl
  | cons c name ih =>
    change readPlain ('\'' :: c :: (escape name ++ ']' :: rest)) = _
    rw [readPlain, ih]
    rfl

lemma units_plain (hc : c ≠ '\'') : units (c :: name) = [c] :: units name :=
  units.eq_3 c name fun _ _ h => (hc h).elim

lemma sealed_cons {unit : List Char} (hu : units (c :: rest) = unit :: units name)
    (hb : unit ≠ [']']) (hl : unit ≠ ['\'']) : Sealed (c :: rest) ↔ Sealed name := by
  rw [Sealed, Sealed, hu, List.mem_cons, not_or, List.getLast?_cons]
  cases (units name).getLast? with
  | none => simp [hb.symm, hl]
  | some last => simp [hb.symm]

lemma bracketed?_append_iff (name rest : List Char) :
    bracketed? (name ++ ']' :: rest) = some name.length ↔ Sealed name := by
  induction name using escape_induction with
  | nil => simp [bracketed?, Sealed, units]
  | lone =>
    refine iff_of_false ?_ fun h => h.2 rfl
    rw [List.cons_append, List.nil_append, bracketed?]
    cases bracketed? rest <;> simp
  | escaped c name ih =>
    have hu : units ('\'' :: c :: name) = ['\'', c] :: units name := rfl
    rw [sealed_cons hu (by simp) (by simp), ← ih, List.cons_append, List.cons_append, bracketed?]
    cases bracketed? (name ++ ']' :: rest) <;> simp
  | plain c name hc ih =>
    rw [List.cons_append, bracketed?_plain hc]
    by_cases hb : c = ']'
    · subst hb
      exact iff_of_false (by simp) fun h => h.1 (by simp [units])
    · rw [sealed_cons (units_plain hc) (by simp [hb]) (by simp [hc]), ← ih, if_neg hb]
      cases bracketed? (name ++ ']' :: rest) <;> simp

end Column

namespace Token

variable {formula : String} {region : Region} {offset : Nat} {name rest : List Char}

lemma scanFrom_escape (hn : name ≠ []) :
    scanFrom formula .inside offset (Column.escape name ++ ']' :: rest) =
      .cons ⟨.literal (String.ofList name), offset, offset + (Column.escape name).length⟩
        (scanFrom formula .inside (offset + (Column.escape name).length) (']' :: rest)) := by
  cases name with
  | nil => exact absurd rfl hn
  | cons c name =>
    have hc : Region.inside.cut '\'' ((c :: Column.escape name) ++ ']' :: rest) =
        .ok ⟨.literal (String.ofList (c :: name)), (Column.escape name).length + 2, by omega⟩ := by
      change Cut.plainColumn c 2 (by omega) (Column.escape name ++ ']' :: rest) = _
      rw [Cut.plainColumn, Column.readPlain_escape]
    exact scanFrom_cut_append rfl hc rfl

lemma scanFrom_bracketed (hn : Column.Sealed name) :
    scanFrom formula .inside offset ('[' :: (name ++ [']']) ++ rest) =
      .cons ⟨.literal (String.ofList name), offset, offset + (name.length + 2 : Nat)⟩
        (scanFrom formula .inside (offset + (name.length + 2)) rest) := by
  have hc : Region.inside.cut '[' ((name ++ [']']) ++ rest) =
      .ok ⟨.literal (String.ofList name), name.length + 2, by omega⟩ := by
    change Cut.bracketedColumn _ = _
    rw [Cut.bracketedColumn, List.append_assoc, List.singleton_append,
      (Column.bracketed?_append_iff name rest).mpr hn]
    simp only [List.take_left]
  have hl : ('[' :: (name ++ [']'])).length = name.length + 2 := by simp
  rw [scanFrom_cut_append rfl hc hl.symm, hl]
  rfl

lemma sealed_of_scanFrom {t : Token} {items : List Token}
    (h : (scanFrom formula .inside offset ('[' :: (name ++ [']']) ++ rest)).items = t :: items)
    (ht : t.lexeme = .literal (String.ofList name)) : Column.Sealed name := by
  rw [List.cons_append, List.append_assoc, List.singleton_append] at h
  refine (Column.bracketed?_append_iff name rest).mp ?_
  cases hb : Column.bracketed? (name ++ ']' :: rest) with
  | none =>
    have hc : Region.inside.cut '[' (name ++ ']' :: rest) =
        .error ⟨.unclosedColumn, 0, (name ++ ']' :: rest).length + 1⟩ := by
      change Cut.bracketedColumn _ = _
      rw [Cut.bracketedColumn, hb]
    rw [scanFrom_miscut rfl hc] at h
    cases h
  | some n =>
    have hc : Region.inside.cut '[' (name ++ ']' :: rest) =
        .ok ⟨.literal (String.ofList ((name ++ ']' :: rest).take n)), n + 2, by omega⟩ := by
      change Cut.bracketedColumn _ = _
      rw [Cut.bracketedColumn, hb]
    rw [scanFrom_cut rfl hc] at h
    obtain ⟨rfl, -⟩ := List.cons.inj h
    have hn : (name ++ ']' :: rest).take n = name :=
      String.ofList_injective (Lexeme.literal.inj ht)
    have hl := congrArg List.length hn
    rw [List.length_take, Nat.min_eq_left (Nat.le_of_lt (Column.bracketed?_lt_length hb))] at hl
    rw [hl]

lemma scanFrom_closeSquare : scanFrom formula region offset (']' :: rest) =
    .cons ⟨.symbol .closeSquare, offset, offset + 1⟩
      (scanFrom formula .outside (offset + 1) rest) := by
  have hc : region.cut ']' ([] ++ rest) = .ok ⟨.symbol .closeSquare, 1, Nat.one_pos⟩ := by
    cases region <;> cases rest <;> rfl
  exact scanFrom_cut_append rfl hc rfl

def Says (text : String) (ws : List Lexeme) : Prop :=
  (scan text).items.map lexeme = ws ∧ (scan text).failure = none

def columnOfT (name : String) : List Lexeme :=
  [.literal "T", .symbol .openSquare, .literal name, .symbol .closeSquare]

lemma scan_columnOfT (text : String) (cs : List Char) (h : text.toList = 'T' :: '[' :: cs) :
    scan text = .cons ⟨.literal "T", 0, 1⟩
      (.cons ⟨.symbol .openSquare, 1, 2⟩ (scanFrom text .inside 2 cs)) := by
  have hc : Region.outside.cut 'T' ('[' :: cs) = .ok ⟨.literal "T", 1, Nat.one_pos⟩ := rfl
  have ho : Region.outside.cut '[' cs = .ok ⟨.symbol .openSquare, 1, Nat.one_pos⟩ := by
    cases cs <;> rfl
  calc scan text
    _ = scanFrom text .outside 0 ('T' :: '[' :: cs) := by rw [scan, h]
    _ = .cons ⟨.literal "T", 0, 1⟩ (scanFrom text .outside 1 ('[' :: cs)) := scanFrom_cut rfl hc
    _ = _ := congrArg (Source.cons _) (scanFrom_cut rfl ho)

lemma says_escaped {name : List Char} (hn : name ≠ []) :
    Says ("T[" ++ String.ofList (Column.escape name) ++ "]") (columnOfT (String.ofList name)) := by
  have h := scan_columnOfT ("T[" ++ String.ofList (Column.escape name) ++ "]")
    (Column.escape name ++ [']']) (by simp)
  rw [scanFrom_escape hn, scanFrom_closeSquare, scanFrom_nil] at h
  rw [Says, h]
  exact ⟨rfl, rfl⟩

lemma says_bracketed {name : List Char} :
    Says ("T[[" ++ String.ofList name ++ "]]") (columnOfT (String.ofList name)) ↔
      Column.Sealed name := by
  have h := scan_columnOfT ("T[[" ++ String.ofList name ++ "]]")
    ('[' :: (name ++ [']']) ++ [']']) (by simp)
  constructor
  · rintro ⟨hs, -⟩
    rw [h] at hs
    obtain ⟨t, items, hi, ht, -⟩ := List.map_eq_cons_iff.mp (List.cons.inj (List.cons.inj hs).2).2
    exact sealed_of_scanFrom hi ht
  · intro hn
    rw [scanFrom_bracketed hn, scanFrom_closeSquare, scanFrom_nil] at h
    rw [Says, h]
    exact ⟨rfl, rfl⟩

theorem says_columns (name : String) :
    (name ≠ "" →
      Says ("T[" ++ String.ofList (Column.escape name.toList) ++ "]") (columnOfT name)) ∧
    (Says ("T[[" ++ name ++ "]]") (columnOfT name) ↔ Column.Sealed name.toList) := by
  have he := @says_escaped name.toList
  have hb := @says_bracketed name.toList
  rw [String.ofList_toList] at he hb
  refine ⟨fun hn => he ?_, hb⟩
  rwa [ne_eq, String.toList_eq_nil_iff]

theorem says_columns_spaced : Says "T[' '[']' ]" (columnOfT " [] ") ∧
    Says "T[[a']'']]" (columnOfT "a']''") ∧ ¬ Says "T[[a]]]" (columnOfT "a]") :=
  ⟨(says_columns " [] ").1 (by decide), (says_columns "a']''").2.mpr (by decide),
    fun h => absurd ((says_columns "a]").2.mp h) (by decide)⟩

end Token

end CellFormula
