import CellFormula.Source
import CellFormula.Text.Blank
import CellFormula.Token.Basic
import CellFormula.Token.Column
import CellFormula.Token.Error
import CellFormula.Token.Quotation

/-!
Cutting a formula into tokens. `Token.scan` skips blanks and cuts one token after another, each
as long as its form allows. Other rules hold between an opening square bracket and the next
closing one.
-/

namespace CellFormula

structure Cut where
  lexeme : Lexeme
  width : Nat
  width_pos : 0 < width := by omega

structure Miscut where
  cause : LexicalCause
  start : Nat
  stop : Nat

namespace Cut

def numeral (c : Char) (h : c.isDigit) (rest : List Char) : Except Miscut Cut :=
  let n := (Numeral.scan (c :: rest)).1
  match n.value? with
  | none => .error ⟨.badNumeral (String.ofList n.chars), 0, n.chars.length⟩
  | some d => .ok ⟨.number d, n.chars.length, Numeral.length_chars_scan_pos h⟩

def name (c : Char) (rest : List Char) : Cut :=
  let tail := rest.takeWhile fun c => Text.isAlphanumeric c || c == '_' || c == '.' || c == '$'
  ⟨.literal (String.ofList (c :: tail)), tail.length + 1, by omega⟩

def symbol? (c : Char) (rest : List Char) : Option Cut :=
  match (rest.head?.bind fun d => Symbol.ofChars? [c, d]) with
  | some s => some ⟨.symbol s, 2, by omega⟩
  | none => (Symbol.ofChars? [c]).map fun s => ⟨.symbol s, 1, by omega⟩

def errorCode (c : Char) (rest : List Char) : Except Miscut Cut :=
  match ErrorCode.leading? (c :: rest) with
  | some code => .ok ⟨.error code, code.chars.length, code.length_chars_pos⟩
  | none =>
    let written := c :: rest.takeWhile ErrorCode.isCodeChar
    .error ⟨.badErrorCode (String.ofList written), 0, written.length⟩

def quotation (mark : Char) (lexeme : String → Lexeme) (rest : List Char) : Except Miscut Cut :=
  match Quotation.decode? mark rest with
  | some (text, n) => .ok ⟨lexeme (String.ofList text), n + 1, by omega⟩
  | none => .error ⟨.unclosedQuote mark, 0, rest.length + 1⟩

def outside (c : Char) (rest : List Char) : Except Miscut Cut :=
  if c = '#' then errorCode c rest
  else if c = '"' then quotation c .string rest
  else if c = '\'' then quotation c .literal rest
  else if h : c.isDigit then numeral c h rest
  else match symbol? c rest with
    | some cut => .ok cut
    | none =>
      if Text.isAlphanumeric c || c == '_' || c == '$' then .ok (name c rest)
      else .error ⟨.stray c, 0, 1⟩

def bracketedColumn (rest : List Char) : Except Miscut Cut :=
  match Column.bracketed? rest with
  | some n => .ok ⟨.literal (String.ofList (rest.take n)), n + 2, by omega⟩
  | none => .error ⟨.unclosedColumn, 0, rest.length + 1⟩

def plainColumn (first : Char) (width : Nat) (h : 0 < width) (rest : List Char) :
    Except Miscut Cut :=
  match Column.readPlain rest with
  | .ok (text, n) =>
    .ok ⟨.literal (String.ofList (first :: text)), n + width, Nat.add_pos_right n h⟩
  | .error offset => .error ⟨.loneEscape, offset + width, offset + width + 1⟩

def inside (c : Char) (rest : List Char) : Except Miscut Cut :=
  if c = '[' then bracketedColumn rest
  else if c = '\'' then
    match rest with
    | [] => .error ⟨.loneEscape, 0, 1⟩
    | d :: rest => plainColumn d 2 (by omega) rest
  else if Text.isAlphanumeric c || c == '#' then plainColumn c 1 (by omega) rest
  else match symbol? c rest with
    | some cut => .ok cut
    | none => .error ⟨.strayInSquare c, 0, 1⟩

end Cut

inductive Region where
  | outside | inside
  deriving DecidableEq

namespace Region

def cut : Region → Char → List Char → Except Miscut Cut
  | outside => Cut.outside
  | inside => Cut.inside

def next (region : Region) : Lexeme → Region
  | .symbol .openSquare => inside
  | .symbol .closeSquare => outside
  | _ => region

end Region

namespace Token

def scanFrom (formula : String) (region : Region) (offset : Nat) (cs : List Char) :
    Source Token LexicalError :=
  match cs with
  | [] => .empty
  | c :: rest =>
    if Text.isBlank c then scanFrom formula region (offset + 1) rest
    else match region.cut c rest with
      | .error e => .fail ⟨e.cause, offset + e.start, offset + e.stop, formula⟩
      | .ok cut =>
        .cons ⟨cut.lexeme, offset, offset + cut.width⟩
          (scanFrom formula (region.next cut.lexeme) (offset + cut.width)
            ((c :: rest).drop cut.width))
termination_by cs.length
decreasing_by
  · simp only [List.length_cons]
    omega
  · have := cut.width_pos
    simp only [List.length_drop, List.length_cons]
    omega

def scan (formula : String) : Source Token LexicalError :=
  scanFrom formula .outside 0 formula.toList

end Token

end CellFormula
