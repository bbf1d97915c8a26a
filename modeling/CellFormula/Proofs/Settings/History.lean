import CellFormula.Settings.Session
import Mathlib.Data.List.Induction
import Mathlib.Tactic.Lemma

/-! The history of a session. Since the last clearing, settings are those that loading gave when
they were first asked for with success; the level is that of the last configuring that succeeded. -/

namespace CellFormula

namespace Action

def asks : Action → Bool
  | get | configure | parse _ => true
  | set .. | unset _ | file _ | load | loadFrom _ | make _ | clear | configureWith _ => false

def onEnvironment (env : Environment) : Action → Environment
  | set key value => env.set key value
  | unset key => env.unset key
  | _ => env

def onFile (old : ConfigFile) : Action → ConfigFile
  | file new => new
  | _ => old

end Action

namespace Session

variable {s : Session} {actions before later : List Action} {action : Action} {v : Settings}
  {r : Except (List FieldError) Settings} {errors : List FieldError}

def after (actions : List Action) : Session := (initial.run actions).2

def answer (before : List Action) (action : Action) : Answer := ((after before).step action).1

def environmentLeft (actions : List Action) : Environment := actions.foldl Action.onEnvironment []

def fileLeft (actions : List Action) : ConfigFile := actions.foldl Action.onFile .absent

def loaded (actions : List Action) : Except (List FieldError) Settings :=
  Settings.load (environmentLeft actions) (fileLeft actions)

/-- Since the last clearing, loading failed whenever settings were asked for. -/
def Fresh (actions : List Action) : Prop :=
  ∀ before action later, actions = before ++ action :: later → action.asks → .clear ∉ later →
    ∀ v, loaded before ≠ .ok v

/-- When settings were first asked for with success, since the last clearing, loading gave `v`. -/
def First (actions : List Action) (v : Settings) : Prop :=
  ∃ before action later, actions = before ++ action :: later ∧ action.asks ∧ .clear ∉ later ∧
    Fresh before ∧ loaded before = .ok v

inductive Given (actions : List Action) : Except (List FieldError) Settings → Prop
  | kept {v : Settings} : First actions v → Given actions (.ok v)
  | loaded : Fresh actions → Given actions (loaded actions)

inductive Gives : Except (List FieldError) Settings → Answer → Prop
  | settings {v : Settings} : Gives (.ok v) (.settings v)
  | refused {errors : List FieldError} : Gives (.error errors) (.refused errors)

inductive GivesLevel : Except (List FieldError) Settings → Answer → Prop
  | level {v : Settings} : GivesLevel (.ok v) (.level v.logLevel)
  | refused {errors : List FieldError} : GivesLevel (.error errors) (.refused errors)

inductive GivesReading (level : LogLevel) (formula : String) :
    Except (List FieldError) Settings → Answer → Prop
  | parsed {v : Settings} : GivesReading level formula (.ok v)
      (.parsed (Formula.trace level v.showMarkers formula).1
        (Formula.trace level v.showMarkers formula).2)
  | unsettled {errors : List FieldError} :
      GivesReading level formula (.error errors) (.unsettled errors)

inductive Configures (before : List Action) : Action → Settings → Prop
  | kept {w : Settings} : Given before (.ok w) → Configures before .configure w
  | given {raw : RawSettings} {w : Settings} : Settings.ofRaw raw = .ok w →
      Configures before (.configureWith raw) w

section Run

lemma run_append (s : Session) (as bs : List Action) : s.run (as ++ bs) =
    ((s.run as).1 ++ ((s.run as).2.run bs).1, ((s.run as).2.run bs).2) := by
  induction as generalizing s with
  | nil => rfl
  | cons a as ih => simp only [List.cons_append, run, ih]

lemma after_concat (actions : List Action) (action : Action) :
    after (actions ++ [action]) = ((after actions).step action).2 := by
  rw [after, run_append]
  rfl

lemma length_run (s : Session) (actions : List Action) :
    (s.run actions).1.length = actions.length := by
  induction actions generalizing s with
  | nil => rfl
  | cons a actions ih => simp only [run, List.length_cons, ih]

lemma run_answer (before later : List Action) (action : Action) :
    (initial.run (before ++ action :: later)).1[before.length]? = some (answer before action) := by
  rw [run_append, List.getElem?_append_right (Nat.le_of_eq (length_run _ _)), length_run,
    Nat.sub_self]
  rfl

end Run

section Step

lemma settings_of_cached (h : s.cached = some v) : s.settings = (.ok v, s) := by
  rw [settings, h]

lemma settings_of_none (h : s.cached = none) :
    s.settings.1 = Settings.load s.environment s.file := by
  rw [settings, h]
  cases Settings.load s.environment s.file <;> rfl

lemma settings_snd (s : Session) : s.settings.2 = { s with cached := s.settings.1.toOption } := by
  obtain ⟨env, file, cached, level⟩ := s
  cases cached with
  | some v => rfl
  | none =>
    simp only [settings]
    cases Settings.load env file <;> rfl

lemma step_get_snd (s : Session) : (s.step .get).2 = s.settings.2 := rfl

lemma step_parse_snd (s : Session) (formula : String) :
    (s.step (.parse formula)).2 = s.settings.2 := by
  simp only [step]
  split <;> simp only [*]

lemma applyLevel_snd (s : Session) (r : Except (List FieldError) Settings) :
    (s.applyLevel r).2 = { s with level := (r.toOption.map Settings.logLevel).or s.level } := by
  cases r <;> rfl

lemma sources_step (s : Session) (action : Action) :
    (s.step action).2.environment = action.onEnvironment s.environment ∧
      (s.step action).2.file = action.onFile s.file := by
  cases action with
  | get =>
    rw [step_get_snd, settings_snd]
    exact ⟨rfl, rfl⟩
  | configure =>
    simp only [step, applyLevel_snd, settings_snd]
    exact ⟨rfl, rfl⟩
  | configureWith raw =>
    simp only [step, applyLevel_snd]
    exact ⟨rfl, rfl⟩
  | parse formula =>
    rw [step_parse_snd, settings_snd]
    exact ⟨rfl, rfl⟩
  | _ => exact ⟨rfl, rfl⟩

lemma cached_of_asks (h : action.asks) : (s.step action).2.cached = s.settings.1.toOption := by
  cases action with
  | get => rw [step_get_snd, settings_snd]
  | configure => simp only [step, applyLevel_snd, settings_snd]
  | parse formula => rw [step_parse_snd, settings_snd]
  | _ => cases h

lemma cached_of_not_asks (h : action.asks = false) (hc : action ≠ .clear) :
    (s.step action).2.cached = s.cached := by
  cases action with
  | get | configure | parse => cases h
  | clear => exact absurd rfl hc
  | configureWith raw => simp only [step, applyLevel_snd]
  | _ => rfl

lemma cached_of_ne_clear (h : s.cached = some v) (hc : action ≠ .clear) :
    (s.step action).2.cached = some v := by
  cases ha : action.asks with
  | true => rw [cached_of_asks ha, settings_of_cached h]; rfl
  | false => rw [cached_of_not_asks ha hc, h]

end Step

section Left

lemma environmentLeft_concat (actions : List Action) (action : Action) :
    environmentLeft (actions ++ [action]) = action.onEnvironment (environmentLeft actions) := by
  rw [environmentLeft, List.foldl_append]
  rfl

lemma fileLeft_concat (actions : List Action) (action : Action) :
    fileLeft (actions ++ [action]) = action.onFile (fileLeft actions) := by
  rw [fileLeft, List.foldl_append]
  rfl

lemma sources_after (actions : List Action) :
    (after actions).environment = environmentLeft actions ∧
      (after actions).file = fileLeft actions := by
  induction actions using List.reverseRecOn with
  | nil => exact ⟨rfl, rfl⟩
  | append_singleton actions action ih =>
    obtain ⟨henv, hfile⟩ := sources_step (after actions) action
    rw [after_concat, environmentLeft_concat, fileLeft_concat, henv, hfile, ih.1, ih.2]
    exact ⟨rfl, rfl⟩

lemma load_after (actions : List Action) :
    Settings.load (after actions).environment (after actions).file = loaded actions := by
  obtain ⟨henv, hfile⟩ := sources_after actions
  rw [henv, hfile, loaded]

lemma settings_after_of_none (h : (after actions).cached = none) :
    (after actions).settings.1 = loaded actions := by
  rw [settings_of_none h, load_after]

end Left

section Kept

lemma concat_eq_append_cons {last : Action} (h : actions ++ [last] = before ++ action :: later) :
    (before = actions ∧ action = last ∧ later = []) ∨
      ∃ between, actions = before ++ action :: between ∧ later = between ++ [last] := by
  rcases later.eq_nil_or_concat with rfl | ⟨between, a, rfl⟩
  · obtain ⟨rfl, he⟩ := List.append_inj' h rfl
    cases he
    exact .inl ⟨rfl, rfl, rfl⟩
  · rw [List.concat_eq_append, ← List.cons_append, ← List.append_assoc] at h
    obtain ⟨rfl, he⟩ := List.append_inj' h rfl
    cases he
    exact .inr ⟨between, rfl, List.concat_eq_append⟩

lemma fresh_nil : Fresh [] := by
  intro before action later h
  exact absurd h.symm (List.append_ne_nil_of_right_ne_nil _ (List.cons_ne_nil _ _))

lemma Fresh.concat (h : Fresh actions) (ha : action.asks → ∀ v, loaded actions ≠ .ok v) :
    Fresh (actions ++ [action]) := by
  intro before asked later he hasks hc
  rcases concat_eq_append_cons he with ⟨rfl, rfl, -⟩ | ⟨between, rfl, rfl⟩
  · exact ha hasks
  · exact h before asked between rfl hasks fun hl => hc (List.mem_append_left _ hl)

lemma Fresh.append (h : Fresh before) (hl : ∀ a ∈ later, a.asks = false) :
    Fresh (before ++ later) := by
  induction later using List.reverseRecOn with
  | nil => rwa [List.append_nil]
  | append_singleton later action ih =>
    rw [← List.append_assoc]
    refine Fresh.concat (ih fun a ha => hl a (List.mem_append_left _ ha)) fun hasks => ?_
    rw [hl action (List.mem_append_right _ (List.mem_singleton_self _))] at hasks
    cases hasks

lemma fresh_clear (actions : List Action) : Fresh (actions ++ [.clear]) := by
  intro before asked later he hasks hc
  rcases concat_eq_append_cons he with ⟨-, rfl, -⟩ | ⟨between, -, rfl⟩
  · cases hasks
  · exact absurd (List.mem_append_right _ (List.mem_singleton_self _)) hc

lemma First.concat (h : First actions v) (hc : action ≠ .clear) :
    First (actions ++ [action]) v := by
  obtain ⟨before, asked, later, rfl, hasks, hl, hf⟩ := h
  refine ⟨before, asked, later ++ [action], by simp, hasks, ?_, hf⟩
  simp [hl, hc.symm]

def Kept (actions : List Action) : Option Settings → Prop
  | none => Fresh actions
  | some v => First actions v

lemma Kept.concat (h : Kept actions (after actions).cached) (action : Action) :
    Kept (actions ++ [action]) (after (actions ++ [action])).cached := by
  rw [after_concat]
  by_cases hc : action = .clear
  · subst hc
    exact fresh_clear actions
  cases hv : (after actions).cached with
  | some v =>
    rw [hv] at h
    rw [cached_of_ne_clear hv hc]
    exact First.concat h hc
  | none =>
    rw [hv] at h
    cases ha : action.asks with
    | false =>
      rw [cached_of_not_asks ha hc, hv]
      exact Fresh.concat h fun hasks => by rw [ha] at hasks; cases hasks
    | true =>
      rw [cached_of_asks ha, settings_after_of_none hv]
      cases hr : loaded actions with
      | ok v => exact ⟨actions, action, [], rfl, ha, List.not_mem_nil, h, hr⟩
      | error errors =>
        refine Fresh.concat h fun _ v hl => ?_
        rw [hr] at hl
        cases hl

theorem kept_after (actions : List Action) : Kept actions (after actions).cached := by
  induction actions using List.reverseRecOn with
  | nil => exact fresh_nil
  | append_singleton actions action ih => exact ih.concat action

lemma Fresh.cached (h : Fresh actions) : (after actions).cached = none := by
  have hk := kept_after actions
  cases hv : (after actions).cached with
  | none => rfl
  | some v =>
    rw [hv] at hk
    obtain ⟨before, action, later, he, ha, hc, -, hl⟩ := hk
    exact absurd hl (h before action later he ha hc v)

lemma cached_append (h : (after before).cached = some v) (hc : .clear ∉ later) :
    (after (before ++ later)).cached = some v := by
  induction later using List.reverseRecOn with
  | nil => rwa [List.append_nil]
  | append_singleton later action ih =>
    rw [← List.append_assoc, after_concat]
    refine cached_of_ne_clear (ih fun hl => hc (List.mem_append_left _ hl)) ?_
    rintro rfl
    exact hc (List.mem_append_right _ (List.mem_singleton_self _))

lemma First.cached (h : First actions v) : (after actions).cached = some v := by
  obtain ⟨before, action, later, rfl, ha, hc, hf, hl⟩ := h
  rw [List.append_cons]
  refine cached_append ?_ hc
  rw [after_concat, cached_of_asks ha, settings_after_of_none hf.cached, hl]
  rfl

lemma given_iff : Given actions r ↔ (after actions).settings.1 = r := by
  constructor
  · intro h
    cases h with
    | kept h => rw [settings_of_cached h.cached]
    | loaded h => exact settings_after_of_none h.cached
  · rintro rfl
    have hk := kept_after actions
    cases hv : (after actions).cached with
    | none =>
      rw [hv] at hk
      rw [settings_after_of_none hv]
      exact .loaded hk
    | some v =>
      rw [hv] at hk
      rw [settings_of_cached hv]
      exact .kept hk

lemma fresh_of_given (hg : Given before (.error errors))
    (hl : ∀ a ∈ later, a.asks = false) : Fresh (before ++ action :: later) := by
  generalize hr : Except.error errors = r at hg
  cases hg with
  | kept => cases hr
  | loaded hf =>
    rw [List.append_cons]
    refine (hf.concat fun _ v hv => ?_).append hl
    rw [← hr] at hv
    cases hv

end Kept

section Answers

lemma gives_give (r : Except (List FieldError) Settings) : Gives r (give r) := by
  cases r with
  | ok v => exact .settings
  | error errors => exact .refused

lemma gives_ok_iff {a : Answer} : Gives (.ok v) a ↔ a = .settings v := by
  constructor
  · intro h
    cases h
    rfl
  · rintro rfl
    exact .settings

lemma gives_answer_load (actions : List Action) : Gives (loaded actions) (answer actions .load) :=
  load_after actions ▸ gives_give _

lemma gives_answer_loadFrom (actions : List Action) (file : ConfigFile) :
    Gives (Settings.load (environmentLeft actions) file) (answer actions (.loadFrom file)) :=
  (sources_after actions).1 ▸ gives_give _

lemma gives_answer_get (h : Given actions r) : Gives r (answer actions .get) :=
  given_iff.mp h ▸ gives_give _

lemma givesLevel_applyLevel (s : Session) (r : Except (List FieldError) Settings) :
    GivesLevel r (s.applyLevel r).1 := by
  cases r with
  | ok v => exact .level
  | error errors => exact .refused

lemma givesLevel_answer_configure (h : Given actions r) :
    GivesLevel r (answer actions .configure) := by
  have hr := givesLevel_applyLevel (after actions).settings.2 (after actions).settings.1
  rw [given_iff.mp h] at hr
  rw [answer]
  simp only [step, given_iff.mp h]
  exact hr

lemma givesReading_answer_parse (formula : String) (h : Given actions r) :
    GivesReading (after actions).effectiveLevel formula r (answer actions (.parse formula)) := by
  have hr := given_iff.mp h
  have hl : (after actions).settings.2.effectiveLevel = (after actions).effectiveLevel := by
    rw [settings_snd]
    rfl
  rw [answer]
  generalize after actions = s at hr hl
  obtain ⟨r', s', hs⟩ : ∃ r' s', s.settings = (r', s') := ⟨_, _, rfl⟩
  rw [hs] at hr hl
  subst hr
  simp only [step, hs]
  cases r' with
  | ok v => exact hl ▸ .parsed
  | error errors => exact .unsettled

end Answers

section Level

lemma Configures.level (h : Configures actions action v) :
    answer actions action = .level v.logLevel ∧
      (after (actions ++ [action])).level = some v.logLevel := by
  rw [after_concat, answer]
  cases h with
  | kept hg =>
    simp only [step, given_iff.mp hg]
    exact ⟨rfl, rfl⟩
  | given hg =>
    simp only [step, hg]
    exact ⟨rfl, rfl⟩

lemma level_of_not_configures (h : ∀ v, ¬ Configures actions action v) :
    (after (actions ++ [action])).level = (after actions).level := by
  rw [after_concat]
  cases action with
  | configure =>
    simp only [step, applyLevel_snd, settings_snd]
    cases hr : (after actions).settings.1 with
    | ok v => exact absurd (.kept (given_iff.mpr hr)) (h v)
    | error errors => rfl
  | configureWith raw =>
    simp only [step, applyLevel_snd]
    cases hr : Settings.ofRaw raw with
    | ok v => exact absurd (.given hr) (h v)
    | error errors => rfl
  | get => rw [step_get_snd, settings_snd]
  | parse formula => rw [step_parse_snd, settings_snd]
  | _ => rfl

lemma level_append (before : List Action) (h : ∀ between action rest v,
    later = between ++ action :: rest → ¬ Configures (before ++ between) action v) :
    (after (before ++ later)).level = (after before).level := by
  induction later using List.reverseRecOn with
  | nil => rw [List.append_nil]
  | append_singleton later action ih =>
    rw [← List.append_assoc, level_of_not_configures fun v => h later action [] v rfl]
    refine ih fun between a rest v he => h between a (rest ++ [action]) v ?_
    rw [he, List.append_assoc, List.cons_append]

end Level

structure Remembers (actions : List Action) : Prop where
  answers : ∀ before action later, actions = before ++ action :: later →
    (initial.run actions).1[before.length]? = some (answer before action)
  set : ∀ key value other, (environmentLeft (actions ++ [.set key value])).lookup other =
    if other = key then some value else (environmentLeft actions).lookup other
  unset : ∀ key other, (environmentLeft (actions ++ [.unset key])).lookup other =
    if other = key then none else (environmentLeft actions).lookup other
  file : ∀ file, fileLeft (actions ++ [.file file]) = file
  load : Gives (loaded actions) (answer actions .load)
  loadFrom : ∀ file,
    Gives (Settings.load (environmentLeft actions) file) (answer actions (.loadFrom file))
  make : ∀ raw, Gives (Settings.ofRaw raw) (answer actions (.make raw))
  given : ∃! r, Given actions r
  get : ∀ r, Given actions r → Gives r (answer actions .get)
  reloads : ∀ before action later errors, actions = before ++ action :: later →
    Given before (.error errors) → (∀ a ∈ later, a.asks = false) → Given actions (loaded actions)
  configure : ∀ r, Given actions r → GivesLevel r (answer actions .configure)
  configureWith : ∀ raw, GivesLevel (Settings.ofRaw raw) (answer actions (.configureWith raw))
  parse : ∀ r formula, Given actions r →
    GivesReading (after actions).effectiveLevel formula r (answer actions (.parse formula))
  level : ∀ before action later v, actions = before ++ action :: later →
    Configures before action v →
    (∀ between a rest w, later = between ++ a :: rest →
      ¬ Configures (before ++ action :: between) a w) →
    (after actions).level = some v.logLevel
  unconfigured : (∀ before action later v, actions = before ++ action :: later →
    ¬ Configures before action v) →
    (after actions).level = none ∧ (after actions).effectiveLevel = .warning
  unchanged : ∀ action, (∀ v, ¬ Configures actions action v) →
    (after (actions ++ [action])).level = (after actions).level

theorem remembers (actions : List Action) : Remembers actions where
  answers before action later h := h ▸ run_answer before later action
  set key value other := by
    rw [environmentLeft_concat]
    exact Environment.lookup_set _ _ _ _
  unset key other := by
    rw [environmentLeft_concat]
    exact Environment.lookup_unset _ _ _
  file file := fileLeft_concat actions _
  load := gives_answer_load actions
  loadFrom := gives_answer_loadFrom actions
  make raw := gives_give _
  given := ⟨_, given_iff.mpr rfl, fun _ h => (given_iff.mp h).symm⟩
  get _ := gives_answer_get
  reloads before action later errors h hg hl := by
    subst h
    exact .loaded (fresh_of_given hg hl)
  configure _ := givesLevel_answer_configure
  configureWith raw := givesLevel_applyLevel _ _
  parse _ formula h := givesReading_answer_parse formula h
  level before action later v h hc hl := by
    subst h
    rw [List.append_cons, level_append _ (by simpa using hl), hc.level.2]
  unconfigured h := by
    have hn : (after actions).level = (after []).level := level_append [] h
    exact ⟨hn, by rw [effectiveLevel, hn]; rfl⟩
  unchanged action h := level_of_not_configures h

theorem remembers_debug :
    answer [.set "FORMULATREE_LOG_LEVEL" "debug", .configure, .set "FORMULATREE_LOG_LEVEL" "info"]
        .get = .settings ⟨.debug, false⟩ ∧
      answer [.set "FORMULATREE_LOG_LEVEL" "debug", .configure, .set "FORMULATREE_LOG_LEVEL" "info"]
        .load = .settings ⟨.info, false⟩ ∧
      (after [.set "FORMULATREE_LOG_LEVEL" "debug", .configure,
        .set "FORMULATREE_LOG_LEVEL" "info"]).level = some .debug := by
  have hr := remembers
    [.set "FORMULATREE_LOG_LEVEL" "debug", .configure, .set "FORMULATREE_LOG_LEVEL" "info"]
  have hf : Fresh [.set "FORMULATREE_LOG_LEVEL" "debug"] := fresh_nil.concat fun h => by cases h
  have hg : Given [.set "FORMULATREE_LOG_LEVEL" "debug"] (.ok ⟨.debug, false⟩) := .loaded hf
  refine ⟨gives_ok_iff.mp (hr.get _ (.kept ⟨_, _, _, rfl, rfl, by simp, hf, rfl⟩)),
    gives_ok_iff.mp hr.load, hr.level _ _ _ _ rfl (.kept hg) ?_⟩
  intro between action rest w h hc
  have hm : action ∈ [Action.set "FORMULATREE_LOG_LEVEL" "info"] :=
    h ▸ List.mem_append_right _ List.mem_cons_self
  obtain rfl := List.mem_singleton.mp hm
  cases hc

end Session

end CellFormula
