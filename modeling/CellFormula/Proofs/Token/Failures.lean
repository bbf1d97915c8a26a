import CellFormula.Proofs.Token.Regions
import Mathlib.Data.List.TakeWhile

/-! Where a text cannot be cut: a cut that fails is blamed on the characters that it took, or on the
escape at the end of the text, and it begins behind the last token and the blanks after it. -/

namespace CellFormula

/-- `Shows cause cs behind`: the characters `cs`, with `behind` after them, are what a failure for
`cause` is blamed on. -/
inductive LexicalCause.Shows : LexicalCause → List Char → List Char → Prop
  | stray {c behind} : Shows (.stray c) [c] behind
  | strayInSquare {c behind} : Shows (.strayInSquare c) [c] behind
  | badNumeral {n : Numeral} {behind} : Numeral.scan (n.chars ++ behind) = (n, behind) →
      n.chars ≠ [] → Shows (.badNumeral (String.ofList n.chars)) n.chars behind
  | badErrorCode {cs behind} : cs.all ErrorCode.isCodeChar →
      (∀ c ∈ behind.head?, ErrorCode.isCodeChar c = false) →
      Shows (.badErrorCode (String.ofList ('#' :: cs))) ('#' :: cs) behind
  | unclosedQuote {mark cs} : Shows (.unclosedQuote mark) (mark :: cs) []
  | loneEscape : Shows .loneEscape ['\''] []
  | unclosedColumn {cs} : Shows .unclosedColumn ('[' :: cs) []

lemma LexicalCause.Shows.length_pos {cause : LexicalCause} {cs behind : List Char}
    (h : cause.Shows cs behind) : 0 < cs.length := by
  cases h with
  | badNumeral _ hn => exact List.length_pos_iff.mpr hn
  | _ => exact Nat.zero_lt_succ _

def Miscut.Shows (m : Miscut) (cs : List Char) : Prop :=
  ∃ before blamed behind, cs = before ++ (blamed ++ behind) ∧ m.start = before.length ∧
    m.stop = before.length + blamed.length ∧ m.cause.Shows blamed behind ∧
    (m.cause ≠ .loneEscape → before = [])

lemma LexicalCause.Shows.miscut {cause : LexicalCause} {cs behind : List Char}
    (h : cause.Shows cs behind) : Miscut.Shows ⟨cause, 0, cs.length⟩ (cs ++ behind) :=
  ⟨[], cs, behind, rfl, rfl, (Nat.zero_add _).symm, h, fun _ => rfl⟩

lemma Column.eq_append_of_readPlain {cs : List Char} {offset : Nat}
    (h : readPlain cs = .error offset) : ∃ name, cs = name ++ ['\''] ∧ offset = name.length := by
  fun_induction readPlain cs generalizing offset with
  | case1 | case3 | case5 | case7 | case8 | case10 => cases h
  | case2 =>
    cases h
    exact ⟨[], rfl, rfl⟩
  | case4 _ _ _ hr ih =>
    cases h
    obtain ⟨name, rfl, rfl⟩ := ih hr
    exact ⟨_ :: _ :: name, rfl, rfl⟩
  | case6 _ _ _ _ _ _ hr ih | case9 _ _ hr _ _ _ ih =>
    cases h
    obtain ⟨name, rfl, rfl⟩ := ih hr
    exact ⟨_ :: name, rfl, rfl⟩

namespace Cut

variable {c : Char} {rest : List Char} {m : Miscut}

lemma shows_numeral {hc : c.isDigit} (h : numeral c hc rest = .error m) : m.Shows (c :: rest) := by
  have hn := @Numeral.length_chars_scan_pos c rest hc
  have hchars := Numeral.chars_scan (c :: rest)
  cases hs : Numeral.scan (c :: rest) with
  | mk n behind =>
    simp only [numeral, hs] at h hn hchars
    split at h
    · cases h
      have hm := LexicalCause.Shows.miscut (.badNumeral (hchars ▸ hs) (List.length_pos_iff.mp hn))
      rwa [hchars] at hm
    · cases h

lemma shows_errorCode (h : errorCode '#' rest = .error m) : m.Shows ('#' :: rest) := by
  simp only [errorCode] at h
  split at h
  · cases h
  · cases h
    have hs : LexicalCause.Shows (.badErrorCode _) _ (rest.dropWhile ErrorCode.isCodeChar) :=
      .badErrorCode (@List.all_takeWhile _ ErrorCode.isCodeChar rest) fun c hc => by
        have hd := List.head?_dropWhile_not ErrorCode.isCodeChar rest
        rwa [hc] at hd
    have hm := hs.miscut
    rwa [List.cons_append, List.takeWhile_append_dropWhile] at hm

lemma shows_quotation {mark : Char} {lexeme : String → Lexeme}
    (h : quotation mark lexeme rest = .error m) : m.Shows (mark :: rest) := by
  simp only [quotation] at h
  split at h
  · cases h
  · cases h
    have hm := LexicalCause.Shows.miscut (@LexicalCause.Shows.unclosedQuote mark rest)
    rwa [List.append_nil] at hm

lemma shows_bracketedColumn (h : bracketedColumn rest = .error m) : m.Shows ('[' :: rest) := by
  simp only [bracketedColumn] at h
  split at h
  · cases h
  · cases h
    have hm := LexicalCause.Shows.miscut (@LexicalCause.Shows.unclosedColumn rest)
    rwa [List.append_nil] at hm

lemma shows_plainColumn {first : Char} {width : Nat} {hw : 0 < width} {front : List Char}
    (h : plainColumn first width hw rest = .error m) (hf : front.length = width) :
    m.Shows (front ++ rest) := by
  simp only [plainColumn] at h
  split at h
  · cases h
  · rename_i offset ho
    cases h
    obtain ⟨name, rfl, rfl⟩ := Column.eq_append_of_readPlain ho
    have hl : name.length + width = (front ++ name).length := by
      rw [List.length_append, hf, Nat.add_comm]
    exact ⟨front ++ name, ['\''], [], by simp, hl, congrArg (· + 1) hl, .loneEscape,
      fun hn => absurd rfl hn⟩

lemma shows_outside (h : outside c rest = .error m) : m.Shows (c :: rest) := by
  simp only [outside] at h
  split at h
  · rename_i hc
    subst hc
    exact shows_errorCode h
  · split at h
    · rename_i hc
      subst hc
      exact shows_quotation h
    · split at h
      · rename_i hc
        subst hc
        exact shows_quotation h
      · split at h
        · exact shows_numeral h
        · split at h
          · cases h
          · split at h
            · cases h
            · cases h
              exact LexicalCause.Shows.stray.miscut

lemma shows_inside (h : inside c rest = .error m) : m.Shows (c :: rest) := by
  simp only [inside] at h
  split at h
  · rename_i hc
    subst hc
    exact shows_bracketedColumn h
  · split at h
    · rename_i hc
      subst hc
      cases rest with
      | nil =>
        cases h
        exact LexicalCause.Shows.loneEscape.miscut
      | cons d rest => exact @shows_plainColumn _ _ _ _ _ ['\'', d] h rfl
    · split at h
      · exact @shows_plainColumn _ _ _ _ _ [c] h rfl
      · split at h
        · cases h
        · cases h
          exact LexicalCause.Shows.strayInSquare.miscut

end Cut

lemma Region.shows_cut {region : Region} {c : Char} {rest : List Char} {m : Miscut}
    (h : region.cut c rest = .error m) : m.Shows (c :: rest) := by
  cases region with
  | outside => exact Cut.shows_outside h
  | inside => exact Cut.shows_inside h

namespace Token

lemma exists_miscut_of_scanFrom {formula : String} {region : Region} {offset : Nat}
    {cs : List Char} {e : LexicalError}
    (h : (scanFrom formula region offset cs).failure = some e) :
    ∃ skipped c rest here m, cs = skipped ++ c :: rest ∧
      region.through ((scanFrom formula region offset cs).items.map lexeme) = some here ∧
      here.cut c rest = .error m ∧
      e = ⟨m.cause, (offset + skipped.length : Nat) + m.start,
        (offset + skipped.length : Nat) + m.stop, formula⟩ ∧
      (∀ t ∈ (scanFrom formula region offset cs).items,
        t.stop ≤ (offset + skipped.length : Nat)) ∧
      ∀ i d, skipped[i]? = some d →
        (∀ t ∈ (scanFrom formula region offset cs).items, t.stop ≤ (offset + i : Nat)) →
        Text.isBlank d := by
  fun_induction scanFrom formula region offset cs with
  | case1 => cases h
  | case2 region offset c rest hc ih =>
    obtain ⟨skipped, d, tail, here, m, rfl, hr, hm, rfl, ht, hb⟩ := ih h
    have hl : offset + 1 + skipped.length = offset + (c :: skipped).length := by
      rw [List.length_cons, Nat.add_assoc, Nat.add_comm 1]
    rw [hl] at ht ⊢
    refine ⟨c :: skipped, d, tail, here, m, rfl, hr, hm, rfl, ht, fun i u hu hi => ?_⟩
    cases i with
    | zero =>
      cases hu
      exact hc
    | succ i => exact hb i u hu (by rwa [Nat.add_right_comm])
  | case3 region offset c rest _ m hm =>
    cases h
    exact ⟨[], c, rest, region, m, rfl, rfl, hm, rfl, List.forall_mem_nil _,
      fun i u hu => by cases hu⟩
  | case4 region offset c rest _ cut hcut ih =>
    obtain ⟨skipped, d, tail, here, m, he, hr, hm, rfl, ht, hb⟩ := ih h
    have hw := Region.length_take_width hcut
    have hl : offset + cut.width + skipped.length =
        offset + ((c :: rest).take cut.width ++ skipped).length := by
      rw [List.length_append, hw, Nat.add_assoc]
    rw [hl] at ht ⊢
    refine ⟨(c :: rest).take cut.width ++ skipped, d, tail, here, m, ?_, ?_, hm, rfl,
      List.forall_mem_cons.mpr ⟨?_, ht⟩, fun i u hu hi => ?_⟩
    · rw [List.append_assoc, ← he, List.take_append_drop]
    · exact Region.through_cons_eq_some_iff.mpr ⟨Region.admits_cut hcut, hr⟩
    · rw [← hl]
      dsimp only
      omega
    · obtain ⟨hi₀, hi⟩ := List.forall_mem_cons.mp hi
      have hwi : cut.width ≤ i := by
        dsimp only at hi₀
        omega
      rw [List.getElem?_append_right (by omega), hw] at hu
      refine hb (i - cut.width) u hu ?_
      rwa [show offset + cut.width + (i - cut.width) = offset + i by omega]

end Token

end CellFormula
