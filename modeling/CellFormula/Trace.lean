import CellFormula.Caret
import CellFormula.Formula
import CellFormula.Settings.Basic

namespace CellFormula

inductive Record where
  | scanned (token : Token)
  | refused (d : Diagnostic) (formula : String)
  deriving DecidableEq

def Lexeme.kind : Lexeme → String
  | literal _ => "LITERAL"
  | string _ => "STRING"
  | error _ => "ERROR"
  | number _ | special _ => "NUMBER"
  | symbol _ => "SYMBOL"

namespace Record

def level : Record → LogLevel := fun _ => .debug

def channel : Record → String
  | scanned _ => "formulatree.parsing.tokenizer"
  | refused _ _ => "formulatree.parsing.parser"

def message : Record → String
  | scanned t =>
    "scanned " ++ t.lexeme.kind ++ " " ++ Text.quoted t.text ++ " at " ++ toString t.start
  | refused d formula =>
    "failed to parse formula: " ++ d.message ++ "\n" ++ Caret.mark formula d.start d.stop

end Record

namespace Formula

def taken {α : Type} (source : Source Token LexicalError) :
    EStateM.Result Failure (Lookahead Token LexicalError) α → List Token
  | .ok _ b | .error _ b => source.items.take (source.items.length - b.source.items.length)

def refusal? (formula : String) : Except Failure (Option Expr) → Option Record
  | .ok _ => none
  | .error failure => (failure.diagnostic? (some formula)).map (.refused · formula)

def trace (level : LogLevel) (showMarkers : Bool) (text : String) :
    List Record × Except Failure (Option Expr) :=
  let source := Token.scan text
  let finish := run source
  let records := (taken source finish).map Record.scanned ++
    (if showMarkers then (refusal? text (outcome finish)).toList else [])
  (records.filter fun r => level.severity ≤ r.level.severity, outcome finish)

end Formula

end CellFormula
