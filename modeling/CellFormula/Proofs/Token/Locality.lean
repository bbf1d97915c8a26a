import CellFormula.Proofs.Token.Spans

/-! A cut takes as much as it can and looks one character further. So it is the same wherever a
blank, a round bracket or a comma stands behind what it takes. -/

namespace CellFormula

namespace Text

def breaks (c : Char) : Bool := isBlank c || c == '(' || c == ')' || c == ','

def blankPoints : List Nat :=
  [0x09, 0x0A, 0x0B, 0x0C, 0x0D, 0x1C, 0x1D, 0x1E, 0x1F, 0x20, 0x85, 0xA0, 0x1680, 0x2000, 0x2001,
    0x2002, 0x2003, 0x2004, 0x2005, 0x2006, 0x2007, 0x2008, 0x2009, 0x200A, 0x2028, 0x2029, 0x202F,
    0x205F, 0x3000]

lemma toNat_mem_blankPoints {c : Char} (h : isBlank c) : c.toNat ∈ blankPoints := by
  simp only [isBlank, Bool.or_eq_true, Bool.and_eq_true, decide_eq_true_eq, beq_iff_eq] at h
  simp only [blankPoints, List.mem_cons, List.not_mem_nil]
  omega

lemma isAlphanumeric_ofNat : ∀ n ∈ blankPoints, isAlphanumeric (Char.ofNat n) = false := by
  decide +kernel

variable {d : Char}

lemma isAlphanumeric_eq_false_of_breaks (h : breaks d) : isAlphanumeric d = false := by
  simp only [breaks, Bool.or_eq_true, beq_iff_eq] at h
  rcases h with ((h | rfl) | rfl) | rfl
  · rw [← Char.ofNat_toNat d]
    exact isAlphanumeric_ofNat _ (toNat_mem_blankPoints h)
  all_goals decide +kernel

lemma ne_of_breaks {c : Char} (h : breaks d) (hc : breaks c = false) : d ≠ c := by
  rintro rfl
  rw [hc] at h
  cases h

def startsName (c : Char) : Bool := (isAlphanumeric c || c == '_' || c == '$') && !c.isDigit

def continuesName (c : Char) : Bool := isAlphanumeric c || c == '_' || c == '.' || c == '$'

lemma continuesName_eq_false_of_breaks (h : breaks d) : continuesName d = false := by
  simp only [continuesName, Bool.or_eq_false_iff, beq_eq_false_iff_ne]
  exact ⟨⟨⟨isAlphanumeric_eq_false_of_breaks h, ne_of_breaks h rfl⟩, ne_of_breaks h rfl⟩,
    ne_of_breaks h rfl⟩

lemma isDigit_eq_false_of_breaks (h : breaks d) : d.isDigit = false := by
  have ha := isAlphanumeric_eq_false_of_breaks h
  simp only [isAlphanumeric, Char.isAlphanum, Bool.or_eq_false_iff] at ha
  exact ha.1.2

lemma breaks_of_isBlank (h : isBlank d) : breaks d := by
  simp only [breaks, h, Bool.true_or]

lemma isBlank_eq_false {p : Char → Bool} (hp : ∀ d, breaks d → p d = false) (h : p d) :
    isBlank d = false := by
  rw [Bool.eq_false_iff]
  intro hb
  rw [hp d (breaks_of_isBlank hb)] at h
  cases h

lemma isBlank_of_isDigit (h : d.isDigit) : isBlank d = false :=
  isBlank_eq_false (fun _ => isDigit_eq_false_of_breaks) h

lemma continuesName_of_startsName (h : startsName d) : continuesName d := by
  simp only [startsName, Bool.and_eq_true, Bool.or_eq_true] at h
  simp only [continuesName, Bool.or_eq_true]
  rcases h.1 with (h | h) | h <;> simp [h]

lemma isBlank_of_startsName (h : startsName d) : isBlank d = false :=
  isBlank_eq_false (fun _ => continuesName_eq_false_of_breaks) (continuesName_of_startsName h)

lemma startsName_head {s : Symbol} (h : s.chars.head? = some d) : startsName d = false := by
  cases s <;> cases h <;> decide +kernel

end Text

lemma Scale.scanSign_of_ne {cs : List Char} (h : ∀ d ∈ cs.head?, d ≠ '+' ∧ d ≠ '-') :
    scanSign cs = (none, cs) := by
  unfold scanSign
  split
  · exact absurd rfl (h _ rfl).1
  · exact absurd rfl (h _ rfl).2
  · rfl

lemma Numeral.scanFraction_of_ne {cs : List Char} (h : ∀ d ∈ cs.head?, d ≠ '.') :
    scanFraction cs = (none, cs) := by
  unfold scanFraction
  split
  · exact absurd rfl (h _ rfl)
  · rfl

def Local {α : Type} (scan : List Char → α × List Char) : Prop :=
  ∀ u v v', v.length ≤ (scan (u ++ v)).2.length → (∀ d ∈ v'.head?, Text.breaks d) →
    ∃ a us, scan (u ++ v) = (a, us ++ v) ∧ scan (u ++ v') = (a, us ++ v')

namespace Local

lemma nil {α : Type} (scan : List Char → α × List Char) (chars : α → List Char) (a₀ : α)
    (hs : ∀ cs, chars (scan cs).1 ++ (scan cs).2 = cs) (h₀ : ∀ a, chars a = [] → a = a₀)
    (hb : ∀ cs : List Char, (∀ d ∈ cs.head?, Text.breaks d) → scan cs = (a₀, cs))
    {v v' : List Char} (hl : v.length ≤ (scan v).2.length) (hv : ∀ d ∈ v'.head?, Text.breaks d) :
    ∃ a us, scan v = (a, us ++ v) ∧ scan v' = (a, us ++ v') := by
  have hn : chars (scan v).1 = [] := by
    have := congrArg List.length (hs v)
    rw [List.length_append] at this
    exact List.length_eq_zero_iff.mp (by omega)
  refine ⟨a₀, [], Prod.ext (h₀ _ hn) ?_, hb v' hv⟩
  have hc := hs v
  rwa [hn] at hc

lemma span {p : Char → Bool} (hp : ∀ d, Text.breaks d → p d = false) :
    Local fun cs => (cs.takeWhile p, cs.dropWhile p) := by
  intro u v v' hl hv
  induction u with
  | nil =>
    refine nil (fun cs => (cs.takeWhile p, cs.dropWhile p)) id []
      (fun _ => List.takeWhile_append_dropWhile) (fun _ => id) (fun cs hd => ?_) hl hv
    cases cs with
    | nil => rfl
    | cons d cs => simp [hp d (hd d rfl)]
  | cons c u ih =>
    simp only [List.cons_append, List.takeWhile_cons, List.dropWhile_cons] at hl ⊢
    split at hl
    · rename_i hc
      obtain ⟨a, us, h, h'⟩ := ih hl
      simp only [Prod.mk.injEq] at h h'
      refine ⟨c :: a, us, ?_, ?_⟩
      · rw [if_pos hc, if_pos hc, h.1, h.2]
      · rw [if_pos hc, if_pos hc, h'.1, h'.2]
    · rename_i hc
      refine ⟨[], c :: u, ?_, ?_⟩ <;> rw [if_neg hc, if_neg hc] <;> rfl

lemma digits : Local fun cs => (cs.takeWhile Char.isDigit, cs.dropWhile Char.isDigit) :=
  span fun _ => Text.isDigit_eq_false_of_breaks

lemma scanSign : Local Scale.scanSign := by
  intro u v v' hl hv
  cases u with
  | nil =>
    refine nil _ Option.toList none Scale.toList_scanSign (by simp) (fun cs hd => ?_) hl hv
    exact Scale.scanSign_of_ne fun d hm =>
      ⟨Text.ne_of_breaks (hd d hm) rfl, Text.ne_of_breaks (hd d hm) rfl⟩
  | cons c u =>
    by_cases hp : c = '+'
    · subst hp
      exact ⟨_, u, rfl, rfl⟩
    by_cases hm : c = '-'
    · subst hm
      exact ⟨_, u, rfl, rfl⟩
    have hn (v : List Char) : Scale.scanSign (c :: (u ++ v)) = (none, c :: (u ++ v)) :=
      Scale.scanSign_of_ne (by simp [hp, hm])
    exact ⟨none, c :: u, hn v, hn v'⟩

lemma scanFraction : Local Numeral.scanFraction := by
  intro u v v' hl hv
  cases u with
  | nil =>
    refine nil _ (·.elim [] ('.' :: ·)) none Numeral.chars_scanFraction ?_ (fun cs hd => ?_) hl hv
    · rintro (_ | a) ha
      · rfl
      · cases ha
    · exact Numeral.scanFraction_of_ne fun d hm => Text.ne_of_breaks (hd d hm) rfl
  | cons c u =>
    by_cases hp : c = '.'
    · subst hp
      obtain ⟨a, us, h, h'⟩ := digits u v v' hl hv
      simp only [Prod.mk.injEq] at h h'
      refine ⟨some a, us, ?_, ?_⟩
      · rw [List.cons_append, Numeral.scanFraction, h.1, h.2]
      · rw [List.cons_append, Numeral.scanFraction, h'.1, h'.2]
    · have hn (v : List Char) : Numeral.scanFraction (c :: (u ++ v)) = (none, c :: (u ++ v)) :=
        Numeral.scanFraction_of_ne (by simp [hp])
      exact ⟨none, c :: u, hn v, hn v'⟩

lemma scanScale : Local Scale.scan := by
  intro u v v' hl hv
  cases u with
  | nil =>
    refine nil _ (·.elim [] Scale.chars) none Scale.chars_scan ?_ (fun cs hd => ?_) hl hv
    · rintro (_ | a) ha
      · rfl
      · cases ha
    · cases cs with
      | nil => rfl
      | cons d cs =>
        have hd := hd d rfl
        rw [Scale.scan, if_neg]
        rintro (rfl | rfl) <;> cases hd
  | cons c u =>
    simp only [List.cons_append, Scale.scan] at hl ⊢
    split at hl
    · rename_i hc
      have hle := (List.dropWhile_suffix Char.isDigit (l := (Scale.scanSign (u ++ v)).2)).length_le
      obtain ⟨sign, us, h, h'⟩ := scanSign u v v' (Nat.le_trans hl hle) hv
      rw [h] at hl
      obtain ⟨a, vs, hd, hd'⟩ := digits us v v' hl hv
      simp only [Prod.mk.injEq] at hd hd'
      refine ⟨some ⟨c, sign, a⟩, vs, ?_, ?_⟩
      · simp only [if_pos hc, h, hd]
      · simp only [if_pos hc, h', hd']
    · rename_i hc
      refine ⟨none, c :: u, ?_, ?_⟩ <;> rw [if_neg hc] <;> rfl

lemma scanNumeral : Local Numeral.scan := by
  intro u v v' hl hv
  have hs := congrArg List.length
    (Scale.chars_scan (Numeral.scanFraction ((u ++ v).dropWhile Char.isDigit)).2)
  have hf := congrArg List.length (Numeral.chars_scanFraction ((u ++ v).dropWhile Char.isDigit))
  rw [List.length_append] at hs hf
  simp only [Numeral.scan] at hl ⊢
  obtain ⟨whole, us, h, h'⟩ := digits u v v' (by dsimp only; omega) hv
  simp only [Prod.mk.injEq] at h h'
  rw [h.2] at hl hs
  obtain ⟨fraction, vs, hf, hf'⟩ := scanFraction us v v' (by omega) hv
  rw [hf] at hl
  obtain ⟨scale, ws, hs, hs'⟩ := scanScale vs v v' hl hv
  refine ⟨⟨whole, fraction, scale⟩, ws, ?_, ?_⟩
  · simp only [h, hf, hs]
  · simp only [h', hf', hs']

end Local

lemma Symbol.ofChars?_pair {c d : Char} {s : Symbol} (h : ofChars? [c, d] = some s) :
    d = '>' ∨ d = '=' := by
  have hs := chars_of_ofChars? h
  cases s <;> cases hs <;> decide

lemma ErrorCode.leading?_of_prefix {cs : List Char} {code : ErrorCode} (h : code.chars <+: cs) :
    leading? cs = some code := by
  have hp {a b : ErrorCode} : a.chars <+: b.chars → a = b := by cases a <;> cases b <;> decide
  have hs : (leading? cs).isSome :=
    List.find?_isSome.mpr ⟨code, code.mem_all, List.isPrefixOf_iff_prefix.mpr h⟩
  obtain ⟨code', hc⟩ := Option.isSome_iff_exists.mp hs
  rcases List.prefix_or_prefix_of_prefix h (prefix_of_leading? hc) with hl | hl
  · rw [hc, hp hl]
  · rw [hc, hp hl]

/-- A text may stand in place of another behind a cut: a break stands before it, and a column name
that ended before the other text ends before it too. -/
structure Exchange (v v' : List Char) : Prop where
  head : ∀ d ∈ v'.head?, Text.breaks d
  column : ∀ text, Column.readPlain v = .ok (text, 0) → Column.readPlain v' = .ok (text, 0)

namespace Quotation

variable {mark : Char} {u v v' text : List Char} {n : Nat}

lemma decode?_exchange (hv : ∀ d ∈ v'.head?, d ≠ mark) (h : decode? mark (u ++ v) = some (text, n))
    (hn : n ≤ u.length) : decode? mark (u ++ v') = some (text, n) := by
  obtain ⟨rest, he, rfl, hr⟩ := eq_encode_of_decode? h
  have he : (encode mark text ++ [mark]) ++ rest = u ++ v := by simp [he]
  obtain ⟨us, rfl⟩ : encode mark text ++ [mark] <+: u :=
    List.prefix_of_prefix_length_le ⟨rest, he⟩ (List.prefix_append u v) (by simpa using hn)
  rw [List.append_assoc _ us v, List.append_cancel_left_eq] at he
  subst he
  have hd := decode?_encode mark text (us ++ v') ?_
  · simpa using hd
  · cases us with
    | nil => exact fun hm => hv mark hm rfl
    | cons c us => exact hr

end Quotation

namespace Column

variable {u v v' text : List Char} {c : Char} {n : Nat}

@[elab_as_elim]
lemma escape_induction {motive : List Char → Prop} (nil : motive []) (lone : motive ['\''])
    (escaped : ∀ c rest, motive rest → motive ('\'' :: c :: rest))
    (plain : ∀ c rest, c ≠ '\'' → motive rest → motive (c :: rest)) : ∀ cs, motive cs
  | [] => nil
  | ['\''] => lone
  | '\'' :: c :: rest => escaped c rest (escape_induction nil lone escaped plain rest)
  | c :: rest => by
    by_cases hc : c = '\''
    · subst hc
      cases rest with
      | nil => exact lone
      | cons d rest => exact escaped d rest (escape_induction nil lone escaped plain rest)
    · exact plain c rest hc (escape_induction nil lone escaped plain rest)

lemma readPlain_plain (hc : c ≠ '\'') (rest : List Char) : readPlain (c :: rest) =
    if Text.isAlphanumeric c then
      match readPlain rest with
      | .ok (text, n) => .ok (c :: text, n + 1)
      | .error offset => .error (offset + 1)
    else if c = ' ' then
      match readPlain rest with
      | .ok (_, 0) => .ok ([], 0)
      | .ok (text, n) => .ok (c :: text, n + 1)
      | .error offset => .error (offset + 1)
    else .ok ([], 0) :=
  readPlain.eq_4 c rest (fun h => (hc h).elim) fun _ _ h => (hc h).elim

lemma readPlain_of_plain {rest : List Char} (hc : c ≠ '\'')
    (ha : Text.isAlphanumeric c ∨ c = ' ') (h : readPlain (c :: rest) = .ok (text, n)) :
    ∃ tail m, readPlain rest = .ok (tail, m) ∧ m ≤ n - 1 := by
  rw [readPlain_plain hc] at h
  cases hr : readPlain rest with
  | ok r =>
    obtain ⟨tail, m⟩ := r
    refine ⟨tail, m, rfl, ?_⟩
    rw [hr] at h
    split at h
    · cases h
      exact Nat.le_refl _
    · rw [if_pos (ha.resolve_left ‹_›)] at h
      cases m with
      | zero => exact Nat.zero_le _
      | succ m =>
        cases h
        exact Nat.le_refl _
  | error offset =>
    rw [hr] at h
    split at h
    · cases h
    · rw [if_pos (ha.resolve_left ‹_›)] at h
      cases h

lemma readPlain_exchange (hv : ∀ text, readPlain v = .ok (text, 0) → readPlain v' = .ok (text, 0))
    (h : readPlain (u ++ v) = .ok (text, n)) (hn : n ≤ u.length) :
    readPlain (u ++ v') = .ok (text, n) := by
  induction u using escape_induction generalizing text n with
  | nil =>
    obtain rfl := Nat.le_zero.mp hn
    exact hv text h
  | lone =>
    cases v with
    | nil => cases h
    | cons d v =>
      simp only [List.cons_append, List.nil_append, readPlain] at h
      split at h
      · cases h
        exact absurd hn (by simp)
      · cases h
  | escaped c rest ih =>
    simp only [List.cons_append, readPlain] at h ⊢
    split at h
    · rename_i hr
      cases h
      rw [ih hr (by simpa using hn)]
    · cases h
  | plain c rest hc ih =>
    rw [List.cons_append] at h ⊢
    by_cases ha : Text.isAlphanumeric c ∨ c = ' '
    · obtain ⟨tail, m, hr, hm⟩ := readPlain_of_plain hc ha h
      rw [List.length_cons] at hn
      have hr' := ih hr (by omega)
      rw [← h, readPlain_plain hc, readPlain_plain hc, hr, hr']
    · rw [not_or] at ha
      rw [← h, readPlain_plain hc, readPlain_plain hc, if_neg ha.1, if_neg ha.1, if_neg ha.2,
        if_neg ha.2]

lemma bracketed?_plain (hc : c ≠ '\'') (rest : List Char) :
    bracketed? (c :: rest) = if c = ']' then some 0 else (bracketed? rest).map (· + 1) :=
  bracketed?.eq_4 c rest (fun h => (hc h).elim) fun _ _ h => (hc h).elim

lemma bracketed?_exchange (h : bracketed? (u ++ v) = some n) (hn : n < u.length) :
    bracketed? (u ++ v') = some n := by
  induction u using escape_induction generalizing n with
  | nil => cases hn
  | lone =>
    obtain rfl : n = 0 := Nat.lt_one_iff.mp hn
    cases v with
    | nil => cases h
    | cons d v =>
      obtain ⟨m, -, hm⟩ := Option.map_eq_some_iff.mp h
      cases hm
  | escaped c rest ih =>
    obtain ⟨m, hm, rfl⟩ := Option.map_eq_some_iff.mp h
    have hr := ih hm (by simpa using hn)
    simp only [List.cons_append, bracketed?, hr, Option.map_some]
  | plain c rest hc ih =>
    rw [List.cons_append, bracketed?_plain hc] at h ⊢
    split at h
    · rename_i he
      rw [if_pos he, h]
    · rename_i he
      obtain ⟨m, hm, rfl⟩ := Option.map_eq_some_iff.mp h
      rw [if_neg he, ih hm (by simpa using hn), Option.map_some]

lemma eq_nil_of_readPlain (h : readPlain u = .ok (text, 0)) : text = [] := by
  fun_induction readPlain u with
  | case1 | case7 | case10 =>
    cases h
    rfl
  | case2 | case3 | case4 | case5 | case6 | case8 | case9 => cases h

end Column

namespace Exchange

variable {c : Char} {rest v : List Char}

lemma of_breaks (hc : Text.breaks c) (hs : c ≠ ' ') : Exchange v (c :: rest) where
  head d hd := Option.some.inj hd ▸ hc
  column text h := by
    obtain rfl := Column.eq_nil_of_readPlain h
    rw [Column.readPlain_plain (Text.ne_of_breaks hc rfl), if_neg, if_neg hs]
    rw [Text.isAlphanumeric_eq_false_of_breaks hc]
    exact Bool.false_ne_true

lemma blank (hc : Text.isBlank c) : Exchange v (c :: v) := by
  have hb : Text.breaks c := by simp only [Text.breaks, hc, Bool.true_or]
  by_cases hs : c = ' '
  · subst hs
    refine ⟨fun d hd => Option.some.inj hd ▸ hb, fun text h => ?_⟩
    obtain rfl := Column.eq_nil_of_readPlain h
    have hq : ' ' ≠ '\'' := by decide
    have ha : ¬ Text.isAlphanumeric ' ' := by decide
    simp only [Column.readPlain_plain hq, if_neg ha, if_true, h]
  · exact of_breaks hb hs

end Exchange

namespace Cut

variable {c : Char} {u v v' : List Char} {cut : Cut}

lemma numeral_exchange {hc : c.isDigit} (hx : Exchange v v') (h : numeral c hc (u ++ v) = .ok cut)
    (hw : cut.width ≤ u.length + 1) : numeral c hc (u ++ v') = .ok cut := by
  have hl := congrArg List.length (Numeral.chars_scan (c :: (u ++ v)))
  simp only [numeral] at h
  split at h
  · cases h
  · rename_i d hd
    cases h
    rw [List.length_append, List.length_cons, List.length_append] at hl
    dsimp only at hw
    have hv : v.length ≤ (Numeral.scan (c :: u ++ v)).2.length := by
      rw [List.cons_append]
      omega
    obtain ⟨n, us, hs, hs'⟩ := Local.scanNumeral (c :: u) v v' hv hx.head
    rw [List.cons_append] at hs hs'
    simp only [hs] at hd
    simp only [numeral, hs, hs', hd]

lemma name_eq (c : Char) (rest : List Char) : name c rest =
    ⟨.literal (String.ofList (c :: rest.takeWhile Text.continuesName)),
      (rest.takeWhile Text.continuesName).length + 1, by omega⟩ := rfl

lemma name_exchange (hx : Exchange v v') (hw : (name c (u ++ v)).width ≤ u.length + 1) :
    name c (u ++ v') = name c (u ++ v) := by
  have hl := congrArg List.length
    (List.takeWhile_append_dropWhile (p := Text.continuesName) (l := u ++ v))
  rw [List.length_append, List.length_append] at hl
  rw [name_eq] at hw
  obtain ⟨a, us, h, h'⟩ := Local.span (fun _ => Text.continuesName_eq_false_of_breaks) u v v'
    (by dsimp only at hw ⊢; omega) hx.head
  simp only [Prod.mk.injEq] at h h'
  simp only [name_eq, h, h']

lemma symbol?_exchange (hx : Exchange v v')
    (hw : ∀ cut, symbol? c (u ++ v) = some cut → cut.width ≤ u.length + 1) :
    symbol? c (u ++ v') = symbol? c (u ++ v) := by
  cases u with
  | cons d u => rfl
  | nil =>
    have hp {cs : List Char} (h : (cs.head?.bind fun d => Symbol.ofChars? [c, d]) = none) :
        symbol? c cs = (Symbol.ofChars? [c]).map fun s => ⟨.symbol s, 1, by omega⟩ := by
      simp only [symbol?, h]
    have hv : (v.head?.bind fun d => Symbol.ofChars? [c, d]) = none := by
      cases hs : v.head?.bind fun d => Symbol.ofChars? [c, d] with
      | none => rfl
      | some s =>
        have := hw ⟨.symbol s, 2, by omega⟩ (by simp only [symbol?, List.nil_append, hs])
        exact absurd this (by simp)
    have hv' : (v'.head?.bind fun d => Symbol.ofChars? [c, d]) = none := by
      refine Option.bind_eq_none_iff.mpr fun d hd => ?_
      cases hs : Symbol.ofChars? [c, d] with
      | none => rfl
      | some s =>
        rcases Symbol.ofChars?_pair hs with rfl | rfl
        · exact absurd (hx.head _ hd) (by decide)
        · exact absurd (hx.head _ hd) (by decide)
    rw [List.nil_append, List.nil_append, hp hv, hp hv']

lemma errorCode_exchange (h : errorCode c (u ++ v) = .ok cut) (hw : cut.width ≤ u.length + 1) :
    errorCode c (u ++ v') = .ok cut := by
  simp only [errorCode] at h
  split at h
  · rename_i code hc
    cases h
    have hu : code.chars <+: c :: u := List.prefix_of_prefix_length_le
      (ErrorCode.prefix_of_leading? hc) (List.prefix_append (c :: u) v) hw
    have hu' : ErrorCode.leading? (c :: (u ++ v')) = some code :=
      ErrorCode.leading?_of_prefix (hu.trans (List.prefix_append (c :: u) v'))
    simp only [errorCode, hu']
  · cases h

lemma quotation_exchange {mark : Char} {lexeme : String → Lexeme} (hx : Exchange v v')
    (hm : Text.breaks mark = false) (h : quotation mark lexeme (u ++ v) = .ok cut)
    (hw : cut.width ≤ u.length + 1) : quotation mark lexeme (u ++ v') = .ok cut := by
  simp only [quotation] at h
  split at h
  · rename_i text n hq
    cases h
    have hd (d : Char) (hd : d ∈ v'.head?) : d ≠ mark := Text.ne_of_breaks (hx.head d hd) hm
    simp only [quotation, Quotation.decode?_exchange hd hq (Nat.le_of_succ_le_succ hw)]
  · cases h

lemma bracketedColumn_exchange (h : bracketedColumn (u ++ v) = .ok cut)
    (hw : cut.width ≤ u.length + 1) : bracketedColumn (u ++ v') = .ok cut := by
  simp only [bracketedColumn] at h
  split at h
  · rename_i n hn
    cases h
    have hl : n < u.length := Nat.le_of_succ_le_succ hw
    simp only [bracketedColumn, Column.bracketed?_exchange hn hl,
      List.take_append_of_le_length (Nat.le_of_lt hl)]
  · cases h

lemma le_width_plainColumn {first : Char} {width : Nat} {hp : 0 < width}
    (h : plainColumn first width hp u = .ok cut) : width ≤ cut.width := by
  simp only [plainColumn] at h
  split at h
  · cases h
    exact Nat.le_add_left width _
  · cases h

lemma plainColumn_exchange {first : Char} {width : Nat} {hp : 0 < width} (hx : Exchange v v')
    (h : plainColumn first width hp (u ++ v) = .ok cut) (hw : cut.width ≤ u.length + width) :
    plainColumn first width hp (u ++ v') = .ok cut := by
  simp only [plainColumn] at h
  split at h
  · rename_i text n hr
    cases h
    simp only [plainColumn, Column.readPlain_exchange hx.column hr (Nat.le_of_add_le_add_right hw)]
  · cases h

lemma outside_exchange (hx : Exchange v v') (h : outside c (u ++ v) = .ok cut)
    (hw : cut.width ≤ u.length + 1) : outside c (u ++ v') = .ok cut := by
  simp only [outside] at h ⊢
  split at h
  · rename_i hc
    rw [if_pos hc]
    exact errorCode_exchange h hw
  rename_i hc
  rw [if_neg hc]
  split at h
  · rename_i hc
    subst hc
    rw [if_pos rfl]
    exact quotation_exchange hx rfl h hw
  rename_i hc
  rw [if_neg hc]
  split at h
  · rename_i hc
    subst hc
    rw [if_pos rfl]
    exact quotation_exchange hx rfl h hw
  rename_i hc
  rw [if_neg hc]
  split at h
  · rename_i hc
    rw [dif_pos hc]
    exact numeral_exchange hx h hw
  rename_i hc
  have hs : symbol? c (u ++ v') = symbol? c (u ++ v) := by
    refine symbol?_exchange hx fun cut' hs => ?_
    rw [hs] at h
    cases h
    exact hw
  rw [dif_neg hc, hs]
  split at h
  · exact h
  · split at h
    · rename_i ha
      cases h
      rw [if_pos ha, name_exchange hx hw]
    · cases h

lemma inside_exchange (hx : Exchange v v') (h : inside c (u ++ v) = .ok cut)
    (hw : cut.width ≤ u.length + 1) : inside c (u ++ v') = .ok cut := by
  simp only [inside] at h ⊢
  split at h
  · rename_i hc
    rw [if_pos hc]
    exact bracketedColumn_exchange h hw
  rename_i hc
  rw [if_neg hc]
  split at h
  · rename_i hc
    rw [if_pos hc]
    cases u with
    | nil =>
      cases v with
      | nil => cases h
      | cons d v => exact absurd (Nat.le_trans (le_width_plainColumn h) hw) (by simp)
    | cons d u => exact plainColumn_exchange hx h hw
  rename_i hc
  rw [if_neg hc]
  split at h
  · rename_i hc
    rw [if_pos hc]
    exact plainColumn_exchange hx h hw
  rename_i hc
  have hs : symbol? c (u ++ v') = symbol? c (u ++ v) := by
    refine symbol?_exchange hx fun cut' hs => ?_
    rw [hs] at h
    cases h
    exact hw
  rw [if_neg hc, hs]
  exact h

end Cut

theorem Region.cut_exchange {region : Region} {c : Char} {u v v' : List Char} {cut : Cut}
    (hx : Exchange v v') (h : region.cut c (u ++ v) = .ok cut) (hw : cut.width ≤ u.length + 1) :
    region.cut c (u ++ v') = .ok cut := by
  cases region with
  | outside => exact Cut.outside_exchange hx h hw
  | inside => exact Cut.inside_exchange hx h hw

end CellFormula
