import CellFormula.Proofs.Grammar.Lists
import CellFormula.Proofs.Grammar.Squares
import CellFormula.Proofs.Parser.Whole
import CellFormula.Proofs.Token.Seams

namespace CellFormula

namespace Text

def isIdentifier : List Char → Bool
  | [] => false
  | c :: cs => startsName c && cs.all continuesName

end Text

namespace Token

/-- Outside square brackets the text `u` says `ws`, where `v` stands behind it. -/
def Lexes (v u : List Char) (ws : List Lexeme) : Prop :=
  ∀ offset, ∃ items, items.map lexeme = ws ∧ Cuts v .outside offset u items .outside

namespace Lexes

variable {v u u' : List Char} {ws ws' : List Lexeme} {s : Symbol} {c : Char}

lemma append (h : Lexes (u' ++ v) u ws) (h' : Lexes v u' ws') : Lexes v (u ++ u') (ws ++ ws') := by
  intro offset
  obtain ⟨items, hi, hc⟩ := h offset
  obtain ⟨items', hi', hc'⟩ := h' (offset + u.length)
  exact ⟨items ++ items', by rw [List.map_append, hi, hi'], hc.append hc'⟩

lemma of_cut {cut : Cut} {cs : List Char} (hb : Text.isBlank c = false)
    (hc : Cut.outside c (cs ++ v) = .ok cut) (hw : cut.width = cs.length + 1)
    (hr : Region.outside.next cut.lexeme = .outside) : Lexes v (c :: cs) [cut.lexeme] := by
  intro offset
  refine ⟨[⟨cut.lexeme, offset, offset + cut.width⟩], rfl, ?_⟩
  have hc : Region.outside.cut c (cs ++ [] ++ v) = .ok cut := by rwa [List.append_nil]
  have hn : Cuts v (Region.outside.next cut.lexeme) (offset + cut.width) [] [] .outside := by
    rw [hr]
    exact .nil
  have h := Cuts.cut hb hc hw hn
  rwa [List.append_nil] at h

lemma symbol (hs : s = .openBracket ∨ s = .closeBracket ∨ s = .comma) :
    Lexes v s.chars [.symbol s] := by
  rcases hs with rfl | rfl | rfl
  · have hc : Cut.outside '(' ([] ++ v) = .ok ⟨.symbol .openBracket, 1, Nat.one_pos⟩ := by
      cases v <;> rfl
    exact of_cut rfl hc rfl rfl
  · have hc : Cut.outside ')' ([] ++ v) = .ok ⟨.symbol .closeBracket, 1, Nat.one_pos⟩ := by
      cases v <;> rfl
    exact of_cut rfl hc rfl rfl
  · have hc : Cut.outside ',' ([] ++ v) = .ok ⟨.symbol .comma, 1, Nat.one_pos⟩ := by
      cases v <;> rfl
    exact of_cut rfl hc rfl rfl

lemma name (h : Text.isIdentifier u) (hv : ∀ d ∈ v.head?, Text.breaks d) :
    Lexes v u [.literal (String.ofList u)] := by
  cases u with
  | nil => cases h
  | cons c cs =>
    simp only [Text.isIdentifier, Bool.and_eq_true] at h
    obtain ⟨hc, hcs⟩ := h
    have hcut : Cut.outside c (cs ++ v) = .ok (Cut.name c (cs ++ v)) := Cut.outside_of_startsName hc
    rw [Cut.name_of_all hcs fun d hd => Text.continuesName_eq_false_of_breaks (hv d hd)] at hcut
    exact of_cut (Text.isBlank_of_startsName hc) hcut rfl rfl

lemma intercalate {us : List (List Char)} {runs : List (List Lexeme)} (hv : Exchange [] v)
    (h : List.Forall₂ (fun u ws => ∀ v, Exchange [] v → Lexes v u ws) us runs) :
    Lexes v ([','].intercalate us) ([.symbol .comma].intercalate runs) := by
  induction h with
  | nil => exact fun _ => ⟨[], rfl, .nil⟩
  | @cons u ws us runs hu h ih =>
    cases h with
    | nil => simpa using hu v hv
    | cons =>
      rw [List.intercalate_cons_cons, List.intercalate_cons_cons]
      have hc {rest : List Char} : Exchange [] (',' :: rest) := .of_breaks (by decide) (by decide)
      exact append (append (hu _ hc) (symbol (.inr (.inr rfl)))) ih

end Lexes

lemma scan_of_lexes {text : String} {ws : List Lexeme} (h : Lexes [] text.toList ws) :
    ∃ items, scan text = .ofList items ∧ items.map lexeme = ws := by
  obtain ⟨items, hi, hc⟩ := h 0
  exact ⟨items, scan_of_cuts hc, hi⟩

end Token

def Expr.ofColumnItems : List (Option Expr) → Expr
  | [o] => o.getD .empty
  | os => .union (os.map (·.getD .empty))

lemma Expr.ofColumns_ofItems {os : List (Option Expr)} (h : os ≠ []) :
    ofColumns (ofItems os) = .structured (ofColumnItems os) := by
  rcases os with _ | ⟨_ | e, _ | ⟨o, os⟩⟩ <;> first | rfl | exact (h rfl).elim

namespace Formula

open CellFormula.Parser

variable {text : String} {o : Option Expr} {e : Expr} {v : List Char}

def StandsFor (text : String) : Option Expr → Prop
  | none => ∀ c ∈ text.toList, Text.isBlank c
  | some e => parse text = .ok (some e)

def RunStandsFor (run : List Token) : Option Expr → Prop
  | none => run = []
  | some e => parseTokens (.ofList run) = .ok (some e)

lemma standsFor_iff : StandsFor text o ↔ parse text = .ok o := by
  cases o with
  | none => exact (parseTokens_eq_none_iff.trans Token.scanFrom_eq_empty_iff).symm
  | some e => exact Iff.rfl

def lexemesOf (text : String) : List Lexeme := (Token.scan text).items.map Token.lexeme

lemma lexes_of_parse (h : parse text = .ok o) (hx : Exchange [] v) :
    Token.Lexes v text.toList (lexemesOf text) := by
  obtain ⟨hf, -, hr⟩ := run_of_parseTokens h
  obtain ⟨final, hc⟩ := Token.cuts_of_scan hf
  obtain rfl : final = .outside := by
    have ht := hc.through
    cases o with
    | none =>
      have hr : (Token.scan text).items = [] := hr
      rw [hr] at ht
      exact (Option.some.inj ht).symm
    | some e => exact (Option.some.inj (stays_of_reads hr .outside final ht).1).symm
  intro offset
  refine ⟨(Token.scan text).items.map (Token.moved offset), by rw [List.map_map]; rfl, ?_⟩
  have hm := (hc.moved offset).exchange hx
  rwa [Nat.zero_add] at hm

lemma fills_of_parse (h : parse text = .ok o) : Fills none (lexemesOf text) o := by
  obtain ⟨hf, -, hr⟩ := run_of_parseTokens h
  cases o with
  | none => exact List.map_eq_nil_iff.mpr hr
  | some e => exact fills_of_reads hr

lemma parseTokens_of_value {items : List Token} (h : Reads none .value items (.expr e) []) :
    parseTokens (.ofList items) = .ok (some e) :=
  parseTokens_eq_some_iff.mpr (.last (.plain h) (.immediateStop rfl) rfl)

lemma parse_brackets (h : parse text = .ok o) :
    parse ("(" ++ text ++ ")") = .ok (some (.bracketed (o.getD .empty))) := by
  have hx : Exchange [] ([')'] ++ []) := .of_breaks (by decide) (by decide)
  have hs : Token.Lexes [] ("(" ++ text ++ ")").toList
      (.symbol .openBracket :: lexemesOf text ++ [.symbol .closeBracket]) := by
    rw [String.toList_append, String.toList_append]
    have ho {v : List Char} : Token.Lexes v ['('] [.symbol .openBracket] := .symbol (.inl rfl)
    exact (ho.append (lexes_of_parse h hx)).append (.symbol (.inr (.inl rfl)))
  obtain ⟨items, hi, hw⟩ := Token.scan_of_lexes hs
  obtain ⟨t, us, c, rfl, ht, hu, hc⟩ := enclosed_of_lexemes hw
  rw [parse, hi]
  apply parseTokens_of_value
  have hf := fills_of_parse h
  cases o with
  | none =>
    obtain rfl := List.map_eq_nil_iff.mp (hu.trans hf)
    exact .brackets ht hc
  | some e => exact .bracketed ht (hf us [c] hu (separated_of_symbol hc rfl)) hc

section Lists

variable {texts : List String} {os : List (Option Expr)}

lemma forall₂_lexes (h : List.Forall₂ StandsFor texts os) :
    List.Forall₂ (fun u ws => ∀ v, Exchange [] v → Token.Lexes v u ws)
      (texts.map String.toList) (texts.map lexemesOf) := by
  induction h with
  | nil => exact .nil
  | cons hf _ ih => exact .cons (fun v hx => lexes_of_parse (standsFor_iff.mp hf) hx) ih

lemma parse_call {name : String} (hname : Text.isIdentifier name.toList)
    (h : List.Forall₂ StandsFor texts os) : parse (name ++ "(" ++ ",".intercalate texts ++ ")") =
      .ok (some (.call name (Expr.ofItems os))) := by
  have hx : Exchange [] ([')'] ++ []) := .of_breaks (by decide) (by decide)
  have hs : Token.Lexes [] (name ++ "(" ++ ",".intercalate texts ++ ")").toList
      (.literal name :: .symbol .openBracket ::
        [.symbol .comma].intercalate (texts.map lexemesOf) ++ [.symbol .closeBracket]) := by
    simp only [String.toList_append, String.toList_intercalate]
    have hn {v : List Char} : Token.Lexes (['('] ++ v) name.toList [.literal name] := by
      have hn := Token.Lexes.name (v := '(' :: v) hname (by simp [Text.breaks])
      rwa [String.ofList_toList] at hn
    have ho {v : List Char} : Token.Lexes v ['('] [.symbol .openBracket] := .symbol (.inl rfl)
    exact ((hn.append ho).append (.intercalate hx (forall₂_lexes h))).append
      (.symbol (.inr (.inl rfl)))
  obtain ⟨items, hi, hw⟩ := Token.scan_of_lexes hs
  obtain ⟨t, us, rfl, ht, hw⟩ := List.map_eq_cons_iff.mp hw
  obtain ⟨u, us, c, rfl, hu, hw, hc⟩ := enclosed_of_lexemes hw
  rw [parse, hi]
  apply parseTokens_of_value
  have hf : List.Forall₂ (Fills none) (texts.map lexemesOf) os :=
    List.forall₂_map_left_iff.mpr (h.imp fun _ _ hf => fills_of_parse (standsFor_iff.mp hf))
  exact .literal ht (.call hu (reads_ofItems rfl hc hf hw))

end Lists

lemma parseTokens_square {runs : List (List Token)} {os : List (Option Expr)} {ts : List Token}
    (hne : runs ≠ []) (h : List.Forall₂ RunStandsFor runs os)
    (hts : ts.map Token.lexeme = .symbol .openSquare ::
      [.symbol .comma].intercalate (runs.map (·.map Token.lexeme)) ++ [.symbol .closeSquare]) :
    parseTokens (.ofList ts) = .ok (some (.structured (.ofColumnItems os))) := by
  obtain ⟨t, us, c, rfl, ht, hu, hc⟩ := enclosed_of_lexemes hts
  have hf : List.Forall₂ (Fills none) (runs.map (·.map Token.lexeme)) os := by
    refine List.forall₂_map_left_iff.mpr (h.imp fun run o hf => ?_)
    cases o with
    | none => exact List.map_eq_nil_iff.mpr hf
    | some e => exact fills_of_reads (parseTokens_eq_some_iff.mp hf)
  have hos : os ≠ [] := by
    rintro rfl
    exact hne (List.forall₂_nil_right_iff.mp h)
  rw [← Expr.ofColumns_ofItems hos]
  exact parseTokens_of_value (.columns ht (reads_ofItems rfl hc hf hu))

structure ReadsInside : Prop where
  call : ∀ name texts os, Text.isIdentifier name.toList → List.Forall₂ StandsFor texts os →
    parse (name ++ "(" ++ ",".intercalate texts ++ ")") = .ok (some (.call name (Expr.ofItems os)))
  brackets : ∀ text o, StandsFor text o →
    parse ("(" ++ text ++ ")") = .ok (some (.bracketed (o.getD .empty)))
  square : ∀ runs os ts, runs ≠ [] → List.Forall₂ RunStandsFor runs os →
    ts.map Token.lexeme = .symbol .openSquare ::
      [.symbol .comma].intercalate (runs.map (·.map Token.lexeme)) ++ [.symbol .closeSquare] →
    parseTokens (.ofList ts) = .ok (some (.structured (.ofColumnItems os)))

theorem readsInside : ReadsInside where
  call _ _ _ hname h := parse_call hname h
  brackets _ _ h := parse_brackets (standsFor_iff.mp h)
  square _ _ _ hne h hts := parseTokens_square hne h hts

theorem parse_call_vacant : parse "F( ,A)" = .ok (some (.call "F" [.empty, .cell "A"])) := by
  have hcut : Region.outside.cut 'A' [] = .ok ⟨.literal "A", 1, Nat.one_pos⟩ := rfl
  have hs : Token.scan "A" = .ofList [⟨.literal "A", 0, 1⟩] := by
    calc Token.scan "A"
      _ = Token.scanFrom "A" .outside 0 ['A'] := rfl
      _ = .cons ⟨.literal "A", 0, 1⟩ (Token.scanFrom "A" .outside 1 []) :=
        Token.scanFrom_cut rfl hcut
      _ = .ofList [⟨.literal "A", 0, 1⟩] := by
        rw [Token.scanFrom_nil]
        rfl
  have hA : parse "A" = .ok (some (.cell "A")) := by
    rw [parse, hs]
    rfl
  have hblank : ∀ c ∈ [' '], Text.isBlank c := List.forall_mem_singleton.mpr rfl
  exact readsInside.call "F" [" ", "A"] [none, some (.cell "A")] rfl
    (.cons hblank (.cons hA .nil))

end Formula

end CellFormula
