import CellFormula.Proofs.Token.Failures

namespace CellFormula

def Miscut.Fits (e : Miscut) (length : Nat) : Prop := e.start < e.stop ∧ e.stop ≤ length

lemma Region.fits_cut {region : Region} {c : Char} {rest : List Char} {e : Miscut}
    (h : region.cut c rest = .error e) : e.Fits (rest.length + 1) := by
  obtain ⟨before, blamed, behind, hs, hstart, hstop, hb, -⟩ := shows_cut h
  have hp := hb.length_pos
  have hl := congrArg List.length hs
  rw [List.length_cons, List.length_append, List.length_append] at hl
  exact ⟨by omega, by omega⟩

namespace Token

def Covers (t : Token) (i : Int) : Prop := t.start ≤ i ∧ i < t.stop

structure Partition (text : String) (s : Source Token LexicalError) : Prop where
  lies : ∀ t ∈ s.items, Lies 0 text.length t
  apart : s.items.Pairwise fun t u => t.stop ≤ u.start
  blank : ∀ (i : Nat) (c : Char), text.toList[i]? = some c → (∀ t ∈ s.items, ¬ t.Covers i) →
    s.failure = none ∨ (∃ t ∈ s.items, i < t.start) → Text.isBlank c
  failure : ∀ e, s.failure = some e → e.formula = text ∧
    0 ≤ e.start ∧ e.start < e.stop ∧ e.stop ≤ text.length ∧ ∀ t ∈ s.items, t.stop ≤ e.start

variable {formula : String} {region : Region} {offset : Nat} {cs : List Char}

lemma pairwise_scanFrom :
    (scanFrom formula region offset cs).items.Pairwise fun t u => t.stop ≤ u.start := by
  fun_induction scanFrom formula region offset cs with
  | case1 | case3 => exact List.Pairwise.nil
  | case2 _ _ _ _ _ ih => exact ih
  | case4 _ offset _ _ _ cut _ ih =>
    refine List.Pairwise.cons (fun t ht => ?_) ih
    exact_mod_cast (lies_of_mem_scanFrom ht).1

lemma isBlank_of_scanFrom {i : Nat} {c : Char} (hc : cs[i]? = some c)
    (ht : ∀ t ∈ (scanFrom formula region offset cs).items, ¬ t.Covers (offset + i : Nat))
    (hf : (scanFrom formula region offset cs).failure = none ∨
      ∃ t ∈ (scanFrom formula region offset cs).items, (offset + i : Nat) < t.start) :
    Text.isBlank c := by
  fun_induction scanFrom formula region offset cs generalizing i with
  | case1 => cases hc
  | case2 region offset d rest hd ih =>
    cases i with
    | zero =>
      cases hc
      exact hd
    | succ i =>
      have he : offset + 1 + i = offset + (i + 1) := by omega
      exact ih hc (he ▸ ht) (he ▸ hf)
  | case3 =>
    rcases hf with hf | ⟨t, ht, -⟩
    · cases hf
    · cases ht
  | case4 region offset d rest _ cut hcut ih =>
    have hw : cut.width ≤ i := by
      have hn := ht _ List.mem_cons_self
      simp only [Covers] at hn
      omega
    have he : offset + cut.width + (i - cut.width) = offset + i := by omega
    refine @ih (i - cut.width) ?_ (fun t hm => ?_) ?_
    · rw [List.getElem?_drop, Nat.add_sub_cancel' hw]
      exact hc
    · rw [he]
      exact ht t (List.mem_cons_of_mem _ hm)
    · rw [he]
      refine hf.imp_right ?_
      rintro ⟨t, hm, hlt⟩
      rcases List.mem_cons.mp hm with rfl | hm
      · dsimp only at hlt
        omega
      · exact ⟨t, hm, hlt⟩

lemma failure_scanFrom {e : LexicalError}
    (h : (scanFrom formula region offset cs).failure = some e) : e.formula = formula ∧
      offset ≤ e.start ∧ e.start < e.stop ∧ e.stop ≤ offset + cs.length ∧
        ∀ t ∈ (scanFrom formula region offset cs).items, t.stop ≤ e.start := by
  obtain ⟨skipped, c, rest, here, m, rfl, -, hm, rfl, ht, -⟩ := exists_miscut_of_scanFrom h
  obtain ⟨hlt, hle⟩ := Region.fits_cut hm
  rw [List.length_append, List.length_cons]
  refine ⟨rfl, ?_, ?_, ?_, fun t h => Int.le_trans (ht t h) ?_⟩ <;>
    dsimp only <;> omega

theorem partition_scan (text : String) : Partition text (scan text) where
  lies _ := lies_of_mem_scan
  apart := pairwise_scanFrom
  blank i c hc ht hf := by
    have h := @isBlank_of_scanFrom text .outside 0 text.toList i c hc
    rw [Nat.zero_add] at h
    exact h ht hf
  failure e he := by
    obtain ⟨hf, h₁, h₂, h₃, ht⟩ := failure_scanFrom he
    rw [String.length_toList] at h₃
    exact ⟨hf, h₁, h₂, by omega, ht⟩

end Token

end CellFormula
