import CellFormula.Text.Blank
import Mathlib.Data.List.DropRight
import Mathlib.Tactic.Lemma

namespace CellFormula.Text

variable {c : Char} {cs bs : List Char}

lemma trimEnd_append (hb : ∀ c ∈ bs, isBlank c) : trimEnd (cs ++ bs) = trimEnd cs := by
  rw [trimEnd, List.reverse_append, List.dropWhile_append_of_pos, trimEnd]
  simpa using hb

lemma trimEnd_cons (hc : isBlank c = false) : trimEnd (c :: cs) = c :: trimEnd cs := by
  rw [trimEnd, List.reverse_cons, List.dropWhile_append, trimEnd]
  split
  · rename_i he
    rw [List.isEmpty_iff.mp he, List.dropWhile_cons, hc]
    rfl
  · rw [List.reverse_append]
    rfl

lemma trim_between {bs' : List Char} (hb : ∀ c ∈ bs, isBlank c) (hb' : ∀ c ∈ bs', isBlank c) :
    trim (bs ++ cs ++ bs') = trim cs := by
  rw [trim, List.append_assoc, List.dropWhile_append_of_pos hb, List.dropWhile_append, trim]
  split
  · rename_i he
    rw [List.isEmpty_iff.mp he, List.dropWhile_eq_nil_iff.mpr hb']
  · exact trimEnd_append hb'

lemma exists_trimEnd (cs : List Char) : ∃ bs, cs = trimEnd cs ++ bs ∧ ∀ c ∈ bs, isBlank c := by
  refine ⟨(cs.reverse.takeWhile isBlank).reverse, ?_, ?_⟩
  · rw [trimEnd, ← List.reverse_append, List.takeWhile_append_dropWhile, List.reverse_reverse]
  · intro c hc
    exact List.mem_takeWhile_imp (List.mem_reverse.mp hc)

lemma exists_dropWhile (cs : List Char) :
    ∃ bs, cs = bs ++ cs.dropWhile isBlank ∧ ∀ c ∈ bs, isBlank c :=
  ⟨_, List.takeWhile_append_dropWhile.symm, fun _ => List.mem_takeWhile_imp⟩

structure Strips (cs core : List Char) : Prop where
  around : ∃ bs bs', cs = bs ++ core ++ bs' ∧ (∀ c ∈ bs, isBlank c) ∧ ∀ c ∈ bs', isBlank c
  head : ∀ c ∈ core.head?, isBlank c = false
  last : ∀ c ∈ core.getLast?, isBlank c = false

lemma dropWhile_of_head (h : ∀ c ∈ cs.head?, isBlank c = false) : cs.dropWhile isBlank = cs := by
  cases cs with
  | nil => rfl
  | cons c cs => rw [List.dropWhile_cons, h c rfl]; rfl

lemma trimEnd_of_last (h : ∀ c ∈ cs.getLast?, isBlank c = false) : trimEnd cs = cs := by
  refine List.rdropWhile_eq_self_iff.mpr fun hn => ?_
  rw [h _ (List.getLast?_eq_some_getLast hn)]
  exact Bool.false_ne_true

lemma isBlank_of_head_dropWhile (h : c ∈ (cs.dropWhile isBlank).head?) : isBlank c = false := by
  have hd := List.head?_dropWhile_not isBlank cs
  rwa [Option.mem_def.mp h] at hd

lemma isBlank_of_last_trimEnd (h : c ∈ (trimEnd cs).getLast?) : isBlank c = false := by
  have hn : trimEnd cs ≠ [] := fun hn => by
    rw [hn] at h
    cases h
  rw [List.getLast?_eq_some_getLast hn] at h
  cases h
  exact Bool.eq_false_iff.mpr (List.rdropWhile_last_not isBlank cs hn)

lemma strips_trim (cs : List Char) : Strips cs (trim cs) := by
  obtain ⟨bs, hcs, hb⟩ := exists_dropWhile cs
  obtain ⟨bs', hcs', hb'⟩ := exists_trimEnd (cs.dropWhile isBlank)
  refine ⟨⟨bs, bs', ?_, hb, hb'⟩, fun c hc => ?_, fun c hc => isBlank_of_last_trimEnd hc⟩
  · rw [trim, List.append_assoc, ← hcs', ← hcs]
  · have hh : c ∈ (cs.dropWhile isBlank).head? := by
      rw [hcs']
      exact List.mem_head?_append_of_mem_head? hc
    exact isBlank_of_head_dropWhile hh

theorem strips_iff {core : List Char} : Strips cs core ↔ trim cs = core := by
  constructor
  · rintro ⟨⟨bs, bs', rfl, hb, hb'⟩, hh, hl⟩
    rw [trim_between hb hb', trim, dropWhile_of_head hh, trimEnd_of_last hl]
  · rintro rfl
    exact strips_trim cs

end CellFormula.Text
