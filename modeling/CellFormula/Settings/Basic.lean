namespace CellFormula

inductive LogLevel where
  | critical | error | warning | info | debug
  deriving DecidableEq

namespace LogLevel

def all : List LogLevel := [critical, error, warning, info, debug]

def name : LogLevel → String
  | critical => "CRITICAL"
  | error => "ERROR"
  | warning => "WARNING"
  | info => "INFO"
  | debug => "DEBUG"

def severity : LogLevel → Nat
  | critical => 50
  | error => 40
  | warning => 30
  | info => 20
  | debug => 10

/-- The capital of a letter. Of the letters beyond ASCII, only the dotless i has a capital that
occurs in the name of a level. -/
def capital (c : Char) : Char := if c = 'ı' then 'I' else c.toUpper

def ofName? (name : String) : Option LogLevel :=
  all.find? (·.name.toList == name.toList.map capital)

end LogLevel

inductive Field where
  | logLevel | showMarkers
  deriving DecidableEq

def Field.name : Field → String
  | logLevel => "log_level"
  | showMarkers => "show_markers"

inductive RawValue where
  | text (value : String)
  | flag (value : Bool)
  | whole (value : Int)
  | fractional
  | other
  deriving DecidableEq

inductive FieldFault where
  | unknownLevel
  | unreadableFlag
  | notAFlag
  deriving DecidableEq

structure FieldError where
  field : Field
  fault : FieldFault
  deriving DecidableEq

structure Settings where
  logLevel : LogLevel
  showMarkers : Bool
  deriving DecidableEq

structure RawSettings where
  logLevel : Option RawValue
  showMarkers : Option RawValue
  deriving DecidableEq

def LogLevel.ofRaw : RawValue → Except FieldFault LogLevel
  | .text value => match ofName? value with
    | some level => .ok level
    | none => .error .unknownLevel
  | _ => .error .unknownLevel

namespace Flag

def falseTexts : List String := ["0", "off", "f", "false", "n", "no"]

def trueTexts : List String := ["1", "on", "t", "true", "y", "yes"]

def ofRaw : RawValue → Except FieldFault Bool
  | .flag value => .ok value
  | .text value =>
    let value := String.ofList (value.toList.map Char.toLower)
    if value ∈ falseTexts then .ok false
    else if value ∈ trueTexts then .ok true
    else .error .unreadableFlag
  | .whole value =>
    if value = 0 then .ok false else if value = 1 then .ok true else .error .unreadableFlag
  | .fractional | .other => .error .notAFlag

end Flag

namespace Settings

def default : Settings := ⟨.warning, false⟩

def readField {α : Type} (read : RawValue → Except FieldFault α) (default : α) :
    Option RawValue → Except FieldFault α
  | none => .ok default
  | some value => read value

def ofRawBy (flag : RawValue → Except FieldFault Bool) (raw : RawSettings) :
    Except (List FieldError) Settings :=
  match readField LogLevel.ofRaw default.logLevel raw.logLevel,
    readField flag default.showMarkers raw.showMarkers with
  | .ok level, .ok markers => .ok ⟨level, markers⟩
  | .error fault, .ok _ => .error [⟨.logLevel, fault⟩]
  | .ok _, .error fault => .error [⟨.showMarkers, fault⟩]
  | .error fault, .error fault' => .error [⟨.logLevel, fault⟩, ⟨.showMarkers, fault'⟩]

def ofRaw : RawSettings → Except (List FieldError) Settings := ofRawBy Flag.ofRaw

end Settings

end CellFormula
