import CellFormula.Decimal.Basic

namespace CellFormula

structure Scale where
  letter : Char
  sign : Option Char
  digits : List Char

structure Numeral where
  whole : List Char
  fraction : Option (List Char)
  scale : Option Scale

namespace Scale

def value? (s : Scale) : Option Int :=
  if s.digits = [] then none
  else
    let size : Int := Nat.ofDigitChars 10 s.digits 0
    some (if s.sign = some '-' then -size else size)

def chars (s : Scale) : List Char := s.letter :: s.sign.toList ++ s.digits

def scanSign : List Char → Option Char × List Char
  | '+' :: rest => (some '+', rest)
  | '-' :: rest => (some '-', rest)
  | rest => (none, rest)

def scan : List Char → Option Scale × List Char
  | [] => (none, [])
  | c :: rest =>
    if c = 'e' ∨ c = 'E' then
      let (sign, rest) := scanSign rest
      (some ⟨c, sign, rest.takeWhile Char.isDigit⟩, rest.dropWhile Char.isDigit)
    else (none, c :: rest)

theorem toList_scanSign (cs : List Char) :
    (scanSign cs).1.toList ++ (scanSign cs).2 = cs := by
  unfold scanSign
  split <;> simp

theorem chars_scan (cs : List Char) : (scan cs).1.elim [] chars ++ (scan cs).2 = cs := by
  cases cs with
  | nil => rfl
  | cons c rest =>
    simp only [scan]
    split
    · simp [chars, List.takeWhile_append_dropWhile, toList_scanSign]
    · simp

end Scale

namespace Numeral

def scanFraction : List Char → Option (List Char) × List Char
  | '.' :: rest => (some (rest.takeWhile Char.isDigit), rest.dropWhile Char.isDigit)
  | rest => (none, rest)

def scan (cs : List Char) : Numeral × List Char :=
  let (fraction, rest) := scanFraction (cs.dropWhile Char.isDigit)
  let (scale, rest) := Scale.scan rest
  (⟨cs.takeWhile Char.isDigit, fraction, scale⟩, rest)

def chars (n : Numeral) : List Char :=
  n.whole ++ (n.fraction.elim [] ('.' :: ·)) ++ (n.scale.elim [] Scale.chars)

def mantissa (n : Numeral) : List Char := n.whole ++ n.fraction.getD []

def value? (n : Numeral) : Option Decimal :=
  if n.mantissa = [] then none
  else do
    let exponent ← n.scale.elim (some 0) Scale.value?
    let d : Decimal :=
      ⟨false, Nat.ofDigitChars 10 n.mantissa 0, exponent - (n.fraction.getD []).length⟩
    if d.inRange then some d else none

theorem chars_scanFraction (cs : List Char) :
    (scanFraction cs).1.elim [] ('.' :: ·) ++ (scanFraction cs).2 = cs := by
  unfold scanFraction
  split <;> simp [List.takeWhile_append_dropWhile]

theorem chars_scan (cs : List Char) : (scan cs).1.chars ++ (scan cs).2 = cs := by
  simp only [scan, chars, List.append_assoc, Scale.chars_scan, chars_scanFraction,
    List.takeWhile_append_dropWhile]

theorem length_chars_scan_pos {c : Char} {rest : List Char} (h : c.isDigit) :
    0 < (scan (c :: rest)).1.chars.length := by
  simp only [scan, chars, List.takeWhile_cons_of_pos h, List.cons_append, List.length_cons]
  omega

end Numeral

namespace Decimal

def signedText (n : Int) : List Char := (if n < 0 then '-' else '+') :: Nat.toDigits 10 n.natAbs

def pointed (digits : List Char) (whole : Int) : List Char :=
  if whole ≤ 0 then '0' :: '.' :: List.replicate (-whole).toNat '0' ++ digits
  else if digits.length ≤ whole then digits
  else digits.take whole.toNat ++ '.' :: digits.drop whole.toNat

def unsignedChars (d : Decimal) : List Char :=
  if d.exponent ≤ 0 ∧ -6 ≤ d.adjusted then pointed d.digits (d.adjusted + 1)
  else pointed d.digits 1 ++ 'E' :: signedText d.adjusted

def text (d : Decimal) : String :=
  String.ofList (if d.negative then '-' :: d.unsignedChars else d.unsignedChars)

def ofText? (text : String) : Option Decimal :=
  let (negative, cs) := match text.toList with
    | '-' :: cs => (true, cs)
    | '+' :: cs => (false, cs)
    | cs => (false, cs)
  match Numeral.scan cs with
  | (n, []) => n.value?.map fun d => { d with negative := negative }
  | _ => none

end Decimal

end CellFormula
