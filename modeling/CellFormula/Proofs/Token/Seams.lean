import CellFormula.Proofs.Token.Locality
import CellFormula.Proofs.Token.Regions

/-! Where a text may be taken apart: the tokens before a seam are cut without what stands behind
it, and the tokens behind it without what stands before it. -/

namespace CellFormula

namespace Source

variable {α ε : Type}

def prepend (items : List α) (s : Source α ε) : Source α ε := { s with items := items ++ s.items }

end Source

namespace Cut

variable {cut : Cut} {c : Char} {us u v : List Char}

lemma exists_of_width_le (h : cut.width ≤ u.length + 1) :
    ∃ us u', u = us ++ u' ∧ cut.width = us.length + 1 := by
  have hp := cut.width_pos
  refine ⟨u.take (cut.width - 1), u.drop (cut.width - 1), (List.take_append_drop _ _).symm, ?_⟩
  rw [List.length_take]
  omega

lemma drop_width (h : cut.width = us.length + 1) :
    (c :: (us ++ u ++ v)).drop cut.width = u ++ v := by
  rw [h, List.drop_succ_cons, List.append_assoc, List.drop_left]

lemma add_width (h : cut.width = us.length + 1) (offset : Nat) :
    offset + (c :: (us ++ u)).length = offset + cut.width + u.length := by
  rw [List.length_cons, List.length_append]
  omega

section Names

variable {cs rest : List Char}

lemma symbol?_of_startsName (h : Text.startsName c) : symbol? c rest = none := by
  cases hs : symbol? c rest with
  | none => rfl
  | some cut =>
    obtain ⟨s, -, hc⟩ := symbol_of_symbol? hs
    rw [Text.startsName_head hc] at h
    cases h

lemma outside_of_startsName (h : Text.startsName c) : outside c rest = .ok (name c rest) := by
  have hne {d : Char} (hd : Text.startsName d = false) : c ≠ d := by
    rintro rfl
    rw [hd] at h
    cases h
  have hs : symbol? c rest = none := symbol?_of_startsName h
  simp only [Text.startsName, Bool.and_eq_true, Bool.not_eq_true'] at h
  obtain ⟨ha, hd⟩ := h
  have hd : ¬ c.isDigit := by simp [hd]
  rw [outside, if_neg (hne (by decide +kernel)), if_neg (hne (by decide +kernel)),
    if_neg (hne (by decide +kernel)), dif_neg hd, hs, if_pos ha]

lemma name_of_all (h : cs.all Text.continuesName)
    (hr : ∀ d ∈ rest.head?, Text.continuesName d = false) : name c (cs ++ rest) =
      ⟨.literal (String.ofList (c :: cs)), cs.length + 1, by omega⟩ := by
  have ht : (cs ++ rest).takeWhile Text.continuesName = cs := by
    rw [List.takeWhile_append_of_pos (List.all_eq_true.mp h)]
    cases rest with
    | nil => rw [List.takeWhile_nil, List.append_nil]
    | cons d rest =>
      rw [List.takeWhile_cons_of_neg, List.append_nil]
      rw [hr d rfl]
      exact Bool.false_ne_true
  simp only [name_eq, ht]

end Names

end Cut

namespace Token

def moved (k : Nat) (t : Token) : Token := { t with start := t.start + k, stop := t.stop + k }

/-- `Cuts v region offset u items final`: the scan takes all of `u` for `items`, where `v` stands
behind it, and goes on in the region `final`. -/
inductive Cuts (v : List Char) : Region → Nat → List Char → List Token → Region → Prop
  | nil {region offset} : Cuts v region offset [] [] region
  | blank {region offset c u items final} : Text.isBlank c →
      Cuts v region (offset + 1) u items final → Cuts v region offset (c :: u) items final
  | cut {region offset c us u cut items final} : Text.isBlank c = false →
      region.cut c (us ++ u ++ v) = .ok cut → cut.width = us.length + 1 →
      Cuts v (region.next cut.lexeme) (offset + cut.width) u items final →
      Cuts v region offset (c :: (us ++ u))
        (⟨cut.lexeme, offset, offset + cut.width⟩ :: items) final

inductive FailsAt : Region → Nat → List Char → Nat → Prop
  | here {region offset c rest e} : Text.isBlank c = false → region.cut c rest = .error e →
      FailsAt region offset (c :: rest) offset
  | blank {region offset c rest q} : Text.isBlank c → FailsAt region (offset + 1) rest q →
      FailsAt region offset (c :: rest) q
  | later {region offset c rest cut q} : Text.isBlank c = false → region.cut c rest = .ok cut →
      FailsAt (region.next cut.lexeme) (offset + cut.width) ((c :: rest).drop cut.width) q →
      FailsAt region offset (c :: rest) q

section Steps

variable {formula : String} {region : Region} {offset : Nat} {c : Char} {rest : List Char}

lemma scanFrom_blank (hc : Text.isBlank c) :
    scanFrom formula region offset (c :: rest) = scanFrom formula region (offset + 1) rest := by
  rw [scanFrom.eq_def]
  simp only [hc, if_true]

lemma scanFrom_miscut {e : Miscut} (hc : Text.isBlank c = false)
    (h : region.cut c rest = .error e) : scanFrom formula region offset (c :: rest) =
      .fail ⟨e.cause, offset + e.start, offset + e.stop, formula⟩ := by
  rw [scanFrom.eq_def]
  simp only [hc, h, Bool.false_eq_true, if_false]

lemma scanFrom_cut_append {cut : Cut} {us : List Char} (hc : Text.isBlank c = false)
    (h : region.cut c (us ++ rest) = .ok cut) (hw : cut.width = (c :: us).length) :
    scanFrom formula region offset (c :: us ++ rest) =
      .cons ⟨cut.lexeme, offset, offset + (c :: us).length⟩
        (scanFrom formula (region.next cut.lexeme) (offset + (c :: us).length) rest) := by
  rw [List.cons_append, scanFrom_cut hc h, hw, ← List.cons_append, List.drop_left]

lemma failsAt_iff {formula : String} {cs : List Char} :
    (∃ q, FailsAt region offset cs q) ↔ (scanFrom formula region offset cs).failure ≠ none := by
  constructor
  · rintro ⟨q, h⟩
    induction h with
    | here hc he =>
      rw [scanFrom_miscut hc he]
      exact Option.some_ne_none _
    | blank hc _ ih =>
      rw [scanFrom_blank hc]
      exact ih
    | later hc hcut _ ih =>
      rw [scanFrom_cut hc hcut]
      exact ih
  · intro h
    fun_induction scanFrom formula region offset cs with
    | case1 => exact (h rfl).elim
    | case2 _ _ _ _ hc ih =>
      obtain ⟨q, hq⟩ := ih h
      exact ⟨q, .blank hc hq⟩
    | case3 _ offset _ _ hc _ he => exact ⟨offset, .here (Bool.eq_false_iff.mpr hc) he⟩
    | case4 _ _ _ _ hc _ hcut ih =>
      obtain ⟨q, hq⟩ := ih h
      exact ⟨q, .later (Bool.eq_false_iff.mpr hc) hcut hq⟩

lemma FailsAt.bounds {cs : List Char} {q : Nat} (h : FailsAt region offset cs q)
    (formula : String) :
    offset ≤ q ∧ ∀ t ∈ (scanFrom formula region offset cs).items, t.stop ≤ q := by
  induction h with
  | here hc he =>
    rw [scanFrom_miscut hc he]
    exact ⟨Nat.le_refl _, List.forall_mem_nil _⟩
  | blank hc _ ih =>
    rw [scanFrom_blank hc]
    exact ⟨Nat.le_of_succ_le ih.1, ih.2⟩
  | later hc hcut _ ih =>
    rw [scanFrom_cut hc hcut]
    refine ⟨Nat.le_of_add_right_le ih.1, List.forall_mem_cons.mpr ⟨?_, ih.2⟩⟩
    dsimp only
    exact_mod_cast ih.1

lemma scanFrom_moved (formula formula' : String) (region : Region) (offset k : Nat)
    (cs : List Char) : scanFrom formula' region (offset + k) cs =
      ⟨(scanFrom formula region offset cs).items.map (moved k),
        (scanFrom formula region offset cs).failure.map fun e =>
          ⟨e.cause, e.start + k, e.stop + k, formula'⟩⟩ := by
  fun_induction scanFrom formula region offset cs with
  | case1 => rw [scanFrom_nil]; rfl
  | case2 _ offset _ _ hc ih =>
    rw [scanFrom_blank hc, Nat.add_right_comm, ih]
  | case3 _ offset _ _ hc e he =>
    rw [scanFrom_miscut (Bool.eq_false_iff.mpr hc) he]
    simp only [Source.fail, List.map_nil, Option.map_some]
    congr 3 <;> omega
  | case4 _ offset _ _ hc cut hcut ih =>
    rw [scanFrom_cut (Bool.eq_false_iff.mpr hc) hcut, Nat.add_right_comm, ih]
    simp only [Source.cons, List.map_cons, moved]
    congr 3
    omega

end Steps

namespace Cuts

variable {v v' u u' : List Char} {region middle final : Region} {offset : Nat}
  {items items' : List Token}

theorem scanFrom_append (h : Cuts v region offset u items final) (formula : String) :
    scanFrom formula region offset (u ++ v) =
      (scanFrom formula final (offset + u.length) v).prepend items := by
  induction h with
  | nil => rfl
  | @blank _ offset _ u _ _ hc _ ih =>
    rw [List.cons_append, scanFrom_blank hc, ih, List.length_cons, Nat.add_right_comm]
    rfl
  | cut hc hcut hw _ ih =>
    rw [List.cons_append, scanFrom_cut hc hcut, Cut.drop_width hw, ih, Cut.add_width hw]
    rfl

theorem exchange (h : Cuts v region offset u items final) (hx : Exchange v v') :
    Cuts v' region offset u items final := by
  induction h with
  | nil => exact .nil
  | blank hc _ ih => exact .blank hc ih
  | cut hc hcut hw _ ih =>
    refine .cut hc (Region.cut_exchange hx hcut ?_) hw ih
    rw [hw, List.length_append]
    omega

theorem append (h : Cuts (u' ++ v) region offset u items middle)
    (h' : Cuts v middle (offset + u.length) u' items' final) :
    Cuts v region offset (u ++ u') (items ++ items') final := by
  induction h with
  | nil => exact h'
  | blank hc _ ih =>
    rw [List.length_cons, Nat.add_comm _ 1, ← Nat.add_assoc] at h'
    exact .blank hc (ih h')
  | @cut _ _ _ us u _ _ _ hc hcut hw _ ih =>
    rw [List.cons_append, List.append_assoc, List.cons_append]
    refine .cut hc ?_ hw (ih ?_)
    · rwa [← List.append_assoc us u u', List.append_assoc]
    · rwa [Cut.add_width hw] at h'

theorem moved (h : Cuts v region offset u items final) (k : Nat) :
    Cuts v region (offset + k) u (items.map (Token.moved k)) final := by
  induction h with
  | nil => exact .nil
  | blank hc _ ih =>
    rw [Nat.add_right_comm] at ih
    exact .blank hc ih
  | @cut _ offset _ _ _ cut _ _ hc hcut hw _ ih =>
    rw [Nat.add_right_comm] at ih
    have ht : Token.moved k ⟨cut.lexeme, offset, offset + cut.width⟩ =
        ⟨cut.lexeme, (offset + k : Nat), (offset + k : Nat) + cut.width⟩ := by
      simp only [Token.moved]
      congr 1
      omega
    rw [List.map_cons, ht]
    exact .cut hc hcut hw ih

lemma lies (h : Cuts v region offset u items final) :
    ∀ t ∈ items, Lies offset (offset + u.length) t := by
  induction h with
  | nil => exact List.forall_mem_nil _
  | @blank _ offset _ _ _ _ _ _ ih =>
    refine fun t ht => (ih t ht).mono (Nat.le_succ offset) ?_
    rw [List.length_cons]
    omega
  | @cut _ offset _ us u cut _ _ _ _ hw _ ih =>
    rw [List.length_cons, List.length_append]
    refine List.forall_mem_cons.mpr ⟨⟨Int.le_refl _, ?_, ?_⟩, fun t ht => (ih t ht).mono ?_ ?_⟩
    all_goals
      try dsimp only
      omega

lemma through (h : Cuts v region offset u items final) :
    region.through (items.map lexeme) = some final := by
  induction h with
  | nil => rfl
  | blank _ _ ih => exact ih
  | cut _ hcut _ _ ih => exact Region.through_cons_eq_some_iff.mpr ⟨Region.admits_cut hcut, ih⟩

end Cuts

-- The induction is along `u`. A token that began in `u` and ended behind it would stand over the
-- seam, and what cannot be cut begins behind it.
theorem cuts_of_seam {formula : String} {region : Region} {offset p : Nat} {u v : List Char}
    (hp : offset + u.length = p)
    (ht : ∀ t ∈ (scanFrom formula region offset (u ++ v)).items, ¬ (t.start < p ∧ p < t.stop))
    (hf : ∀ q, FailsAt region offset (u ++ v) q → p ≤ q) :
    ∃ items final, Cuts v region offset u items final := by
  induction hn : u.length using Nat.strongRecOn generalizing region offset u with
  | _ n ih =>
    subst hn
    cases u with
    | nil => exact ⟨[], region, .nil⟩
    | cons c u =>
      rw [List.length_cons] at hp
      rw [List.cons_append] at ht hf
      by_cases hc : Text.isBlank c
      · rw [scanFrom_blank hc] at ht
        obtain ⟨items, final, h⟩ := ih u.length (Nat.lt_succ_self _) (by omega) ht
          (fun q hq => hf q (.blank hc hq)) rfl
        exact ⟨items, final, .blank hc h⟩
      rw [Bool.not_eq_true] at hc
      cases hcut : region.cut c (u ++ v) with
      | error e =>
        have := hf offset (.here hc hcut)
        omega
      | ok cut =>
        rw [scanFrom_cut hc hcut] at ht
        have hw : cut.width ≤ u.length + 1 := by
          have hn := ht _ List.mem_cons_self
          dsimp only at hn
          omega
        obtain ⟨us, u, rfl, hus⟩ := Cut.exists_of_width_le hw
        have hl := Cut.add_width (c := c) (u := u) hus offset
        rw [Cut.drop_width hus] at ht
        have hlt : u.length < (c :: (us ++ u)).length := by
          rw [List.length_cons, List.length_append]
          omega
        obtain ⟨items, final, h⟩ := ih u.length hlt (hl.symm.trans hp)
          (fun t hm => ht t (List.mem_cons_of_mem _ hm))
          (fun q hq => hf q (.later hc hcut (by rwa [Cut.drop_width hus]))) rfl
        exact ⟨_, final, .cut hc hcut hus h⟩

lemma scan_of_cuts {text : String} {items : List Token} {final : Region}
    (h : Cuts [] .outside 0 text.toList items final) : scan text = .ofList items := by
  have hs := h.scanFrom_append text
  rw [List.append_nil, scanFrom_nil] at hs
  rw [scan, hs]
  exact congrArg Source.ofList (List.append_nil items)

lemma cuts_of_scan {text : String} (h : (scan text).failure = none) :
    ∃ final, Cuts [] .outside 0 text.toList (scan text).items final := by
  obtain ⟨items, final, hc⟩ : ∃ items final, Cuts [] .outside 0 text.toList items final := by
    refine @cuts_of_seam text _ _ _ _ _ (Nat.zero_add _) (fun t ht => ?_) fun q hq => ?_
    · rw [List.append_nil] at ht
      have := (lies_of_mem_scan ht).2.2
      rw [String.length_toList]
      omega
    · rw [List.append_nil] at hq
      exact (failsAt_iff.mp ⟨q, hq⟩ h).elim
  rw [scan_of_cuts hc]
  exact ⟨final, hc⟩

end Token

end CellFormula
