namespace CellFormula.Quotation

def encode (mark : Char) : List Char → List Char
  | [] => []
  | c :: rest => if c = mark then mark :: mark :: encode mark rest else c :: encode mark rest

/-- Reads on from behind the opening mark to the closing one: the decoded text, and how many
characters were read, the closing mark included. None if the run is not closed. -/
def decode? (mark : Char) : List Char → Option (List Char × Nat)
  | [] => none
  | [c] => if c = mark then some ([], 1) else none
  | c :: d :: rest =>
    if c = mark then
      if d = mark then (decode? mark rest).map fun (text, n) => (mark :: text, n + 2)
      else some ([], 1)
    else (decode? mark (d :: rest)).map fun (text, n) => (c :: text, n + 1)

theorem decode?_encode (mark : Char) (text rest : List Char) (h : rest.head? ≠ some mark) :
    decode? mark (encode mark text ++ mark :: rest) =
      some (text, (encode mark text).length + 1) := by
  induction text with
  | nil =>
    cases rest with
    | nil => simp [encode, decode?]
    | cons c rest =>
      have hc : c ≠ mark := by simpa using h
      simp [encode, decode?, hc]
  | cons c text ih =>
    by_cases hc : c = mark
    · simp [encode, decode?, hc, ih]
    · cases he : encode mark text ++ mark :: rest with
      | nil => simp at he
      | cons d tail =>
        rw [he] at ih
        simp [encode, decode?, hc, he, ih]

theorem eq_encode_of_decode? {mark : Char} {cs text : List Char} {n : Nat}
    (h : decode? mark cs = some (text, n)) :
    ∃ rest, cs = encode mark text ++ mark :: rest ∧ n = (encode mark text).length + 1 ∧
      rest.head? ≠ some mark := by
  fun_induction decode? mark cs generalizing text n with
  | case1 => simp at h
  | case2 =>
    simp only [Option.some.injEq, Prod.mk.injEq] at h
    obtain ⟨rfl, rfl⟩ := h
    exact ⟨[], by simp [encode]⟩
  | case3 => simp at h
  | case4 rest ih =>
    obtain ⟨⟨text, n⟩, ht, he⟩ := Option.map_eq_some_iff.1 h
    obtain ⟨rest, rfl, rfl, hr⟩ := ih ht
    simp only [Prod.mk.injEq] at he
    obtain ⟨rfl, rfl⟩ := he
    exact ⟨rest, by simp [encode], by simp [encode], hr⟩
  | case5 d rest hd =>
    simp only [Option.some.injEq, Prod.mk.injEq] at h
    obtain ⟨rfl, rfl⟩ := h
    exact ⟨d :: rest, by simp [encode], by simp [encode], by simpa using hd⟩
  | case6 c d rest hc ih =>
    obtain ⟨⟨text, n⟩, ht, he⟩ := Option.map_eq_some_iff.1 h
    obtain ⟨tail, hs, rfl, hr⟩ := ih ht
    simp only [Prod.mk.injEq] at he
    obtain ⟨rfl, rfl⟩ := he
    exact ⟨tail, by simp [encode, hc, hs], by simp [encode, hc], hr⟩

end CellFormula.Quotation
