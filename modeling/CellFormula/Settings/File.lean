import CellFormula.Settings.Basic
import CellFormula.Text.Blank
import CellFormula.Text.Lines

namespace CellFormula

inductive ConfigFile where
  | absent | unreadable
  | text (content : String)
  deriving DecidableEq

abbrev Environment := List (String × String)

namespace Environment

def unset (env : Environment) (key : String) : Environment := env.filter (·.1 != key)

def set (env : Environment) (key value : String) : Environment := (key, value) :: env.unset key

theorem lookup_unset (env : Environment) (key other : String) :
    (env.unset key).lookup other = if other = key then none else env.lookup other := by
  induction env with
  | nil => simp [unset]
  | cons entry env ih =>
    obtain ⟨k, v⟩ := entry
    simp only [unset] at ih ⊢
    grind

theorem lookup_set (env : Environment) (key value other : String) :
    (env.set key value).lookup other = if other = key then some value else env.lookup other := by
  have := lookup_unset env key other
  grind [set]

end Environment

namespace ConfigFile

def entry? (line : List Char) : Option (String × String) :=
  let line := Text.trim line
  if line.head? = some '#' ∨ '=' ∉ line then none
  else
    let key := line.takeWhile (· != '=')
    let value := (line.dropWhile (· != '=')).drop 1
    some (String.ofList (Text.trim key), String.ofList (Text.trim value))

def entries : ConfigFile → List (String × String)
  | absent | unreadable => []
  | text content => (Text.lines content.toList).filterMap entry?

def value? (file : ConfigFile) (key : String) : Option String := file.entries.reverse.lookup key

end ConfigFile

def Field.key : Field → String
  | logLevel => "FORMULATREE_LOG_LEVEL"
  | showMarkers => "FORMULATREE_SHOW_MARKERS"

namespace Settings

def winner? (env : Environment) (file : ConfigFile) (field : Field) : Option String :=
  (env.lookup field.key).or (file.value? field.key)

def loadBy (flag : RawValue → Except FieldFault Bool) (env : Environment) (file : ConfigFile) :
    Except (List FieldError) Settings :=
  ofRawBy flag ⟨(winner? env file .logLevel).map .text, (winner? env file .showMarkers).map .text⟩

def load : Environment → ConfigFile → Except (List FieldError) Settings := loadBy Flag.ofRaw

end Settings

end CellFormula
