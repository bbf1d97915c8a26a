import CellFormula.Proofs.Parser.Completeness
import CellFormula.Proofs.Token.Quotes

namespace CellFormula

open CellFormula.Parser

def quotedSheet (name : String) : String :=
  String.ofList (Quote.name.enclose name.toList) ++ "!A1"

def sheetTokens (name : String) (width : Nat) : List Token :=
  [⟨.literal name, 0, width⟩, ⟨.symbol .bang, width, width + 1⟩,
    ⟨.literal "A1", width + 1, width + 3⟩]

lemma Token.scan_quotedSheet (name : String) : scan (quotedSheet name) =
    .ofList (sheetTokens name (Quote.name.enclose name.toList).length) := by
  have ht : (quotedSheet name).toList = Quote.name.enclose name.toList ++ ['!', 'A', '1'] := by
    rw [quotedSheet, String.toList_append, String.toList_ofList]
    rfl
  have hb : Region.outside.cut '!' ['A', '1'] = .ok ⟨.symbol .bang, 1, Nat.one_pos⟩ := rfl
  have ha : Region.outside.cut 'A' ['1'] = .ok ⟨.literal "A1", 2, Nat.two_pos⟩ := rfl
  have he : (['!', 'A', '1'] : List Char).head? ≠ some Quote.name.mark := by decide
  rw [scan, ht, Quote.name.scanFrom_enclose _ _ _ he, scanFrom_cut rfl hb, Nat.zero_add]
  change Source.cons _ (.cons _ (scanFrom _ .outside _ ['A', '1'])) = _
  rw [scanFrom_cut rfl ha]
  change Source.cons _ (.cons _ (.cons _ (scanFrom _ .outside _ []))) = _
  rw [scanFrom_nil, String.ofList_toList, Int.natCast_zero, Int.zero_add]
  rfl

namespace Formula

variable {name : String} {width : Nat}

lemma parseTokens_sheet (ht : name ≠ "TRUE") (hf : name ≠ "FALSE") :
    parseTokens (.ofList (sheetTokens name width)) =
      .ok (some (.sheet (.cell name) (.cell "A1"))) := by
  have hn : truthValue? name = none := truthValue?_eq_none_iff.mpr ⟨ht, hf⟩
  have ha : Reads none .value [⟨.literal "A1", width + 1, width + 3⟩] (.expr (.cell "A1")) [] :=
    .literal rfl (.cell rfl rfl)
  have hs : Reads none .value (sheetTokens name width)
      (.expr (.sheet (.cell name) (.cell "A1"))) [] := .literal rfl (.sheet hn rfl ha)
  exact parseTokens_eq_some_iff.mpr (.last (.plain hs) (.immediateStop rfl) rfl)

lemma parseTokens_truth (h : name = "TRUE" ∨ name = "FALSE") :
    parseTokens (.ofList (sheetTokens name width)) =
      .error (.syntactic (.leftover ⟨.symbol .bang, width, width + 1⟩)) := by
  rcases h with rfl | rfl <;> rfl

theorem parse_quotedSheet (name : String) : parse (quotedSheet name) =
    if name = "TRUE" ∨ name = "FALSE" then
      let width := (Quote.name.enclose name.toList).length
      .error (.syntactic (.leftover ⟨.symbol .bang, width, width + 1⟩))
    else .ok (some (.sheet (.cell name) (.cell "A1"))) := by
  rw [parse, Token.scan_quotedSheet]
  split
  · exact parseTokens_truth ‹_›
  · rename_i hn
    rw [not_or] at hn
    exact parseTokens_sheet hn.1 hn.2

theorem quotedSheet_refused :
    ¬ ∀ name, parse (quotedSheet name) = .ok (some (.sheet (.cell name) (.cell "A1"))) := by
  intro h
  have ht := h "TRUE"
  rw [parse, Token.scan_quotedSheet, parseTokens_truth (.inl rfl)] at ht
  cases ht

end Formula

end CellFormula
