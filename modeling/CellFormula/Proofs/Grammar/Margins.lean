import CellFormula.Proofs.Grammar.Squares
import CellFormula.Proofs.Parser.Spacing
import CellFormula.Proofs.Text.Trim

namespace CellFormula

lemma Text.exists_of_append_eq {u v us w : List Char} (h : u ++ v = us ++ w) :
    (∃ z, u = us ++ z ∧ w = z ++ v) ∨ ∃ z d, us = u ++ z ++ [d] ∧ v = z ++ d :: w := by
  rcases List.append_eq_append_iff.mp h with ⟨z, rfl, rfl⟩ | h
  · rcases z.eq_nil_or_concat with rfl | ⟨z, d, rfl⟩
    · exact .inl ⟨[], by simp, rfl⟩
    · exact .inr ⟨z, d, by simp, by simp⟩
  · exact .inl h

def Text.Solid (cs : List Char) : Prop := ∀ c ∈ cs, Text.isBlank c = false

lemma Text.solid_digits (cs : List Char) : Solid (cs.takeWhile Char.isDigit) :=
  fun _ hc => isBlank_of_isDigit (List.mem_takeWhile_imp hc)

lemma Text.Solid.append {us vs : List Char} (hu : Solid us) (hv : Solid vs) : Solid (us ++ vs) :=
  List.forall_mem_append.mpr ⟨hu, hv⟩

lemma Text.solid_of_all {cs : List Char} (h : cs.all fun c => !isBlank c) : Solid cs := by
  simpa [Solid] using h

lemma Symbol.solid_chars (s : Symbol) : Text.Solid s.chars :=
  Text.solid_of_all (by cases s <;> rfl)

lemma ErrorCode.solid_chars (code : ErrorCode) : Text.Solid code.chars :=
  Text.solid_of_all (by cases code <;> rfl)

lemma Scale.solid_scanSign (cs : List Char) : Text.Solid (scanSign cs).1.toList := by
  unfold scanSign Text.Solid
  split <;> simp <;> decide

lemma Scale.solid_scan (cs : List Char) : Text.Solid ((scan cs).1.elim [] chars) := by
  cases cs with
  | nil => exact List.forall_mem_nil _
  | cons c rest =>
    simp only [scan]
    split
    · rename_i hc
      have hc : Text.isBlank c = false := by rcases hc with rfl | rfl <;> decide
      exact List.forall_mem_cons.mpr ⟨hc, (solid_scanSign rest).append (Text.solid_digits _)⟩
    · exact List.forall_mem_nil _

lemma Numeral.solid_scanFraction (cs : List Char) :
    Text.Solid ((scanFraction cs).1.elim [] ('.' :: ·)) := by
  unfold scanFraction
  split
  · exact List.forall_mem_cons.mpr ⟨by decide, Text.solid_digits _⟩
  · exact List.forall_mem_nil _

lemma Numeral.solid_scan (cs : List Char) : Text.Solid (scan cs).1.chars :=
  ((Text.solid_digits cs).append (solid_scanFraction _)).append (Scale.solid_scan _)

namespace Cut

variable {cut : Cut} {c d : Char} {us v rest : List Char}

lemma isBlank_of_solid {cs : List Char} (h : Text.Solid cs) (hp : cs <+: c :: (us ++ d :: v))
    (hl : cs.length = us.length + 2) : Text.isBlank d = false := by
  have he : cs = c :: (us ++ [d]) := by
    have hp' : c :: (us ++ [d]) <+: c :: (us ++ d :: v) := ⟨v, by simp⟩
    exact (List.prefix_of_prefix_length_le hp hp' (by simp [hl])).eq_of_length (by simp [hl])
  exact h d (by simp [he])

lemma isBlank_of_numeral {hc : c.isDigit} (h : numeral c hc (us ++ d :: v) = .ok cut)
    (hw : cut.width = us.length + 2) : Text.isBlank d = false := by
  simp only [numeral] at h
  split at h
  · cases h
  · cases h
    exact isBlank_of_solid (Numeral.solid_scan _) ⟨_, Numeral.chars_scan _⟩ hw

lemma isBlank_of_name (hw : (name c (us ++ d :: v)).width = us.length + 2) :
    Text.isBlank d = false := by
  rw [name_eq] at hw
  have hs : Text.Solid ((us ++ d :: v).takeWhile Text.continuesName) := fun _ he =>
    Text.isBlank_eq_false (fun _ => Text.continuesName_eq_false_of_breaks)
      (List.mem_takeWhile_imp he)
  have he : (us ++ d :: v).takeWhile Text.continuesName = us ++ [d] := by
    have hp : us ++ [d] <+: us ++ d :: v := ⟨v, by simp⟩
    refine (List.prefix_of_prefix_length_le (List.takeWhile_prefix _) hp ?_).eq_of_length ?_ <;>
      simp at hw ⊢ <;> omega
  exact hs d (by simp [he])

lemma isBlank_of_errorCode (h : errorCode c (us ++ d :: v) = .ok cut)
    (hw : cut.width = us.length + 2) : Text.isBlank d = false := by
  simp only [errorCode] at h
  split at h
  · rename_i code hc
    cases h
    exact isBlank_of_solid code.solid_chars (ErrorCode.prefix_of_leading? hc) hw
  · cases h

lemma isBlank_of_quotation {mark : Char} {lexeme : String → Lexeme}
    (hm : Text.isBlank mark = false) (h : quotation mark lexeme (us ++ d :: v) = .ok cut)
    (hw : cut.width = us.length + 2) : Text.isBlank d = false := by
  simp only [quotation] at h
  split at h
  · rename_i text n hq
    cases h
    obtain ⟨rest, he, rfl, -⟩ := Quotation.eq_encode_of_decode? hq
    have hl : us.length = (Quotation.encode mark text).length := by
      dsimp only at hw
      omega
    obtain ⟨-, he⟩ := List.append_inj he hl
    rwa [(List.cons.inj he).1]
  · cases h

lemma isBlank_of_symbol? (h : symbol? c (us ++ d :: v) = some cut)
    (hw : cut.width = us.length + 2) : Text.isBlank d = false := by
  obtain ⟨s, behind, hs, -, -, hl⟩ := chars_of_symbol? h
  exact isBlank_of_solid s.solid_chars ⟨behind, hs.symm⟩ (hl.symm.trans hw)

lemma isBlank_of_outside (h : outside c (us ++ d :: v) = .ok cut)
    (hw : cut.width = us.length + 2) : Text.isBlank d = false := by
  simp only [outside] at h
  split at h
  · exact isBlank_of_errorCode h hw
  · split at h
    · rename_i hc
      exact isBlank_of_quotation (hc ▸ by decide) h hw
    · split at h
      · rename_i hc
        exact isBlank_of_quotation (hc ▸ by decide) h hw
      · split at h
        · exact isBlank_of_numeral h hw
        · split at h
          · rename_i hs
            cases h
            exact isBlank_of_symbol? hs hw
          · split at h
            · cases h
              exact isBlank_of_name hw
            · cases h

lemma width_of_inside {s : Symbol} (h : inside c rest = .ok cut) (hl : cut.lexeme = .symbol s) :
    cut.width = s.chars.length := by
  obtain ⟨s', -, -, -, hs, hw⟩ := chars_of_symbol? (symbol?_of_inside h hl)
  rw [hl] at hs
  cases hs
  exact hw

end Cut

namespace Exchange

variable {v : List Char}

lemma to_nil : Exchange v [] where
  head d hd := by cases hd
  column text h := by
    rw [Column.eq_nil_of_readPlain h]
    rfl

lemma from_nil (hv : ∀ c ∈ v, Text.isBlank c) : Exchange [] v := by
  induction v with
  | nil => exact to_nil
  | cons c v ih =>
    have hb := blank (v := v) (hv c List.mem_cons_self)
    have hx := ih fun d hd => hv d (List.mem_cons_of_mem _ hd)
    exact ⟨hb.head, fun text h => hb.column text (hx.column text h)⟩

end Exchange

namespace Token

variable {u v w : List Char} {region final : Region} {offset : Nat} {items : List Token}
  {formula : String}

lemma cuts_blanks (hv : ∀ c ∈ v, Text.isBlank c) (region : Region) (offset : Nat) :
    Cuts [] region offset v [] region := by
  induction v generalizing offset with
  | nil => exact .nil
  | cons c v ih =>
    exact .blank (hv c List.mem_cons_self) (ih (fun d hd => hv d (List.mem_cons_of_mem _ hd)) _)

lemma Cuts.eq_of_blanks (h : Cuts [] region offset v items final)
    (hv : ∀ c ∈ v, Text.isBlank c) : items = [] ∧ final = region := by
  induction h with
  | nil => exact ⟨rfl, rfl⟩
  | blank _ _ ih => exact ih fun d hd => hv d (List.mem_cons_of_mem _ hd)
  | cut hc =>
    rw [hv _ List.mem_cons_self] at hc
    cases hc

lemma scanFrom_blanks (hu : ∀ c ∈ u, Text.isBlank c) :
    scanFrom formula region offset (u ++ v) = scanFrom formula region (offset + u.length) v := by
  induction u generalizing offset with
  | nil => rfl
  | cons c u ih =>
    rw [List.cons_append, scanFrom_blank (hu c List.mem_cons_self),
      ih fun d hd => hu d (List.mem_cons_of_mem _ hd), List.length_cons, Nat.add_right_comm,
      Nat.add_assoc]

lemma ne_outside_of_cut {cut : Cut} {c d : Char} {us : List Char}
    (h : region.cut c (us ++ d :: v) = .ok cut) (hw : cut.width = us.length + 2)
    (hd : Text.isBlank d) : region.next cut.lexeme ≠ .outside := by
  cases region with
  | outside =>
    rw [Cut.isBlank_of_outside h hw] at hd
    cases hd
  | inside =>
    rw [Region.next_inside (Region.fitsInside_inside h)]
    · simp
    · intro hl
      have := Cut.width_of_inside h hl
      simp [Symbol.chars, hw] at this

-- The induction is along the tokens. One that began in `u` and ended behind it would end in a
-- blank, and then the square brackets that it stands in would not be closed.
theorem Cuts.of_append_blanks (h : Cuts [] region offset (u ++ v) items .outside)
    (hv : ∀ c ∈ v, Text.isBlank c) : Cuts v region offset u items .outside := by
  generalize hw : u ++ v = w at h
  generalize hf : Region.outside = final at h
  induction h generalizing u with
  | nil =>
    obtain ⟨rfl, rfl⟩ := List.append_eq_nil_iff.mp hw
    exact .nil
  | @blank _ _ c w _ _ hc h ih =>
    cases u with
    | nil =>
      obtain rfl : v = c :: w := hw
      obtain ⟨rfl, rfl⟩ := h.eq_of_blanks fun d hd => hv d (List.mem_cons_of_mem _ hd)
      exact .nil
    | cons b u =>
      obtain ⟨rfl, rfl⟩ := List.cons.inj hw
      exact .blank hc (ih rfl hf)
  | @cut _ _ c us w cut _ _ hc hcut hwidth h ih =>
    rw [List.append_nil] at hcut
    cases u with
    | nil =>
      obtain rfl : v = c :: (us ++ w) := hw
      rw [hv c List.mem_cons_self] at hc
      cases hc
    | cons b u =>
      obtain ⟨rfl, hu⟩ := List.cons.inj hw
      rcases Text.exists_of_append_eq hu with ⟨z, rfl, rfl⟩ | ⟨z, d, rfl, rfl⟩
      · refine .cut hc ?_ hwidth (ih rfl hf)
        rwa [List.append_assoc]
      · obtain ⟨-, rfl⟩ := h.eq_of_blanks fun e he => hv e (by simp [he])
        rw [List.append_assoc, List.singleton_append] at hcut
        rw [List.length_append] at hwidth
        exact (ne_outside_of_cut hcut hwidth (hv d (by simp)) hf.symm).elim

end Token

namespace Formula

variable {text text' f w₁ w₂ : String} {o : Option Expr} {items : List Token} {u v : List Char}

lemma cuts_of_parse (h : parse text = .ok o) :
    Token.Cuts [] .outside 0 text.toList (Token.scan text).items .outside := by
  obtain ⟨hf, -, ho⟩ := run_of_parseTokens h
  obtain ⟨final, hc⟩ := Token.cuts_of_scan hf
  have hl : Parser.Leads .outside (Token.scan text).items final := hc.through
  have hn : Parser.Leads .outside [] final := by
    cases o with
    | none =>
      have hi : (Token.scan text).items = [] := ho
      rwa [hi] at hl
    | some e => exact (Parser.stays_of_reads ho .outside final hl).1
  obtain rfl : Region.outside = final := Option.some.inj hn
  exact hc

lemma parse_eq_of_cuts {final final' : Region}
    (h : Token.Cuts [] .outside 0 text.toList items final)
    (h' : Token.Cuts [] .outside 0 text'.toList items final') : parse text' = parse text := by
  rw [parse, parse, Token.scan_of_cuts h, Token.scan_of_cuts h']

theorem parse_append_blanks (hv : ∀ c ∈ v, Text.isBlank c) (ht : text'.toList = text.toList ++ v)
    (o : Option Expr) : parse text' = .ok o ↔ parse text = .ok o := by
  constructor
  · intro h
    have hc := cuts_of_parse h
    rw [ht] at hc
    have hu := (hc.of_append_blanks hv).exchange Exchange.to_nil
    rw [← ht] at hc
    rwa [← parse_eq_of_cuts hu hc]
  · intro h
    have hu := cuts_of_parse h
    have hu' := hu.exchange (Exchange.from_nil hv)
    rw [← List.append_nil v] at hu'
    have hc := hu'.append (Token.cuts_blanks hv _ _)
    rw [List.append_nil, ← ht] at hc
    rwa [parse_eq_of_cuts hu hc]

theorem parse_blanks_append (hu : ∀ c ∈ u, Text.isBlank c) (ht : text'.toList = u ++ text.toList)
    (o : Option Expr) : parse text' = .ok o ↔ parse text = .ok o := by
  have hs : Token.scan text' = ⟨(Token.scan text).items.map (Token.moved u.length),
      (Token.scan text).failure.map fun e =>
        ⟨e.cause, e.start + u.length, e.stop + u.length, text'⟩⟩ := by
    rw [Token.scan, ht, Token.scanFrom_blanks hu, Token.scanFrom_moved text]
    rfl
  refine parse_congr ?_ ?_ o
  · rw [hs, List.map_map]
    rfl
  · rw [hs, Option.map_eq_none_iff]

lemma parse_trimEnd (cs : List Char) (o : Option Expr) :
    parse (String.ofList (Text.trimEnd cs)) = .ok o ↔ parse (String.ofList cs) = .ok o := by
  obtain ⟨bs, hcs, hb⟩ := Text.exists_trimEnd cs
  refine (parse_append_blanks hb ?_ o).symm
  rw [String.toList_ofList, String.toList_ofList, ← hcs]

lemma parse_trim (cs : List Char) (o : Option Expr) :
    parse (String.ofList (Text.trim cs)) = .ok o ↔ parse (String.ofList cs) = .ok o := by
  obtain ⟨bs, hcs, hb⟩ := Text.exists_dropWhile cs
  refine (parse_trimEnd _ o).trans (parse_blanks_append hb ?_ o).symm
  rw [String.toList_ofList, String.toList_ofList, ← hcs]

lemma ofCell_of_equals {cs : List Char} (h : Text.trim text.toList = '=' :: cs) :
    ofCell text = String.ofList cs := by
  simp only [ofCell, h]

lemma ofCell_of_ne (h : (Text.trim text.toList).head? ≠ some '=') :
    ofCell text = String.ofList (Text.trim text.toList) := by
  rw [ofCell]
  split
  · rename_i he
    rw [he] at h
    exact (h rfl).elim
  · rfl

theorem parse_ofCell (h₁ : ∀ c ∈ w₁.toList, Text.isBlank c) (h₂ : ∀ c ∈ w₂.toList, Text.isBlank c) :
    (∀ o, parse (ofCell (w₁ ++ "=" ++ f ++ w₂)) = .ok o ↔ parse f = .ok o) ∧
    ((Text.trim f.toList).head? ≠ some '=' →
      ∀ o, parse (ofCell (w₁ ++ f ++ w₂)) = .ok o ↔ parse f = .ok o) := by
  constructor
  · intro o
    have ht : Text.trim (w₁ ++ "=" ++ f ++ w₂).toList = '=' :: Text.trimEnd f.toList := by
      calc Text.trim (w₁ ++ "=" ++ f ++ w₂).toList
        _ = Text.trim (w₁.toList ++ '=' :: f.toList ++ w₂.toList) := by simp
        _ = Text.trim ('=' :: f.toList) := Text.trim_between h₁ h₂
        _ = Text.trimEnd ('=' :: f.toList) := rfl
        _ = '=' :: Text.trimEnd f.toList := Text.trimEnd_cons rfl
    rw [ofCell_of_equals ht, parse_trimEnd, String.ofList_toList]
  · intro hf o
    have ht : Text.trim (w₁ ++ f ++ w₂).toList = Text.trim f.toList := by
      rw [String.toList_append, String.toList_append, Text.trim_between h₁ h₂]
    rw [ofCell_of_ne (ht ▸ hf), ht, parse_trim, String.ofList_toList]

theorem parse_ofCell_padded :
    parse (ofCell (" " ++ "=" ++ "A " ++ "\n")) = .ok (some (.cell "A")) ∧
      parse (ofCell (" " ++ "A " ++ "\n")) = .ok (some (.cell "A")) := by
  have hp : parse "A " = .ok (some (.cell "A")) := by
    have hcut : Region.outside.cut 'A' ([] ++ [' '] ++ []) =
        .ok ⟨.literal "A", 1, Nat.one_pos⟩ := rfl
    have hc : Token.Cuts [] .outside 0 ('A' :: ([] ++ [' '])) [⟨.literal "A", 0, 1⟩] .outside :=
      .cut rfl hcut rfl (.blank rfl .nil)
    rw [parse, @Token.scan_of_cuts "A " _ _ hc]
    rfl
  have h := @parse_ofCell "A " " " "\n" (by simp; decide) (by simp; decide)
  exact ⟨(h.1 _).mpr hp, (h.2 (by decide) _).mpr hp⟩

end Formula

end CellFormula
