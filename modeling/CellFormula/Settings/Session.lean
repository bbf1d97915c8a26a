import CellFormula.Settings.File
import CellFormula.Trace

namespace CellFormula

structure Session where
  environment : Environment
  file : ConfigFile
  cached : Option Settings
  level : Option LogLevel

inductive Action where
  | set (key value : String)
  | unset (key : String)
  | file (file : ConfigFile)
  | load
  | loadFrom (file : ConfigFile)
  | make (raw : RawSettings)
  | get
  | clear
  | configure
  | configureWith (raw : RawSettings)
  | parse (formula : String)

inductive Answer where
  | done
  | settings (settings : Settings)
  | level (level : LogLevel)
  | refused (errors : List FieldError)
  | unsettled (errors : List FieldError)
  | parsed (records : List Record) (outcome : Except Failure (Option Expr))

namespace Session

def initial : Session := ⟨[], .absent, none, none⟩

def effectiveLevel (s : Session) : LogLevel := s.level.getD .warning

def settings (s : Session) : Except (List FieldError) Settings × Session :=
  match s.cached with
  | some settings => (.ok settings, s)
  | none =>
    match Settings.load s.environment s.file with
    | .ok settings => (.ok settings, { s with cached := some settings })
    | .error errors => (.error errors, s)

def applyLevel (s : Session) : Except (List FieldError) Settings → Answer × Session
  | .ok settings => (.level settings.logLevel, { s with level := some settings.logLevel })
  | .error errors => (.refused errors, s)

def give : Except (List FieldError) Settings → Answer
  | .ok settings => .settings settings
  | .error errors => .refused errors

def step (s : Session) : Action → Answer × Session
  | .set key value => (.done, { s with environment := s.environment.set key value })
  | .unset key => (.done, { s with environment := s.environment.unset key })
  | .file file => (.done, { s with file := file })
  | .load => (give (Settings.load s.environment s.file), s)
  | .loadFrom file => (give (Settings.load s.environment file), s)
  | .make raw => (give (Settings.ofRaw raw), s)
  | .get => let (settings, s) := s.settings; (give settings, s)
  | .clear => (.done, { s with cached := none })
  | .configure => let (settings, s) := s.settings; s.applyLevel settings
  | .configureWith raw => s.applyLevel (Settings.ofRaw raw)
  | .parse formula =>
    match s.settings with
    | (.error errors, s) => (.unsettled errors, s)
    | (.ok settings, s) =>
      let (records, outcome) := Formula.trace s.effectiveLevel settings.showMarkers formula
      (.parsed records outcome, s)

def run (s : Session) : List Action → List Answer × Session
  | [] => ([], s)
  | action :: actions =>
    let (answer, s) := s.step action
    let (answers, s) := s.run actions
    (answer :: answers, s)

end Session

end CellFormula
