import CellFormula.Text.Alphanumeric

/-!
Column names inside square brackets. A plain name has letters, numbers and inner spaces, and an
apostrophe takes the next character as it is. A name in brackets of its own runs to the first
closing bracket that no apostrophe escapes, and is kept as written.
-/

namespace CellFormula.Column

/-- Reads on in a plain name: the decoded text and how many characters it takes. Spaces at the
end are left unread. The failure is the offset of an apostrophe that ends the text. -/
def readPlain : List Char → Except Nat (List Char × Nat)
  | [] => .ok ([], 0)
  | ['\''] => .error 0
  | '\'' :: c :: rest =>
    match readPlain rest with
    | .ok (text, n) => .ok (c :: text, n + 2)
    | .error offset => .error (offset + 2)
  | c :: rest =>
    if Text.isAlphanumeric c then
      match readPlain rest with
      | .ok (text, n) => .ok (c :: text, n + 1)
      | .error offset => .error (offset + 1)
    else if c = ' ' then
      match readPlain rest with
      | .ok (_, 0) => .ok ([], 0)
      | .ok (text, n) => .ok (c :: text, n + 1)
      | .error offset => .error (offset + 1)
    else .ok ([], 0)

def bracketed? : List Char → Option Nat
  | [] => none
  | ['\''] => none
  | '\'' :: _ :: rest => (bracketed? rest).map (· + 2)
  | c :: rest => if c = ']' then some 0 else (bracketed? rest).map (· + 1)

end CellFormula.Column
