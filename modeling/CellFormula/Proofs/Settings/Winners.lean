import CellFormula.Settings.File
import CellFormula.Proofs.Text.Lines
import CellFormula.Proofs.Text.Trim

namespace CellFormula

open Text (Strips)

def Assigns (line : List Char) (key value : String) : Prop :=
  ∃ stripped name rest, Strips line stripped ∧ stripped ≠ [] ∧ stripped.head? ≠ some '#' ∧
    stripped = name ++ '=' :: rest ∧ '=' ∉ name ∧
    Strips name key.toList ∧ Strips rest value.toList

def AssignsLast (lines : List (List Char)) (key value : String) : Prop :=
  ∃ before line after, lines = before ++ line :: after ∧ Assigns line key value ∧
    ∀ l ∈ after, ∀ v, ¬ Assigns l key v

namespace ConfigFile

inductive HasLines : ConfigFile → List (List Char) → Prop
  | absent : HasLines .absent []
  | unreadable : HasLines .unreadable []
  | text {content lines} : Text.Lines content.toList lines → HasLines (.text content) lines

variable {line : List Char} {lines : List (List Char)} {key value : String} {file : ConfigFile}

lemma exists_hasLines (file : ConfigFile) : ∃ lines, file.HasLines lines := by
  cases file with
  | absent => exact ⟨[], .absent⟩
  | unreadable => exact ⟨[], .unreadable⟩
  | text content => exact ⟨_, .text (Text.lines_iff.mpr rfl)⟩

lemma entries_of_hasLines (h : file.HasLines lines) : file.entries = lines.filterMap entry? := by
  cases h with
  | absent | unreadable => rfl
  | text hl => rw [entries, Text.lines_iff.mp hl]

lemma split_append {name rest : List Char} (h : '=' ∉ name) :
    (name ++ '=' :: rest).takeWhile (· != '=') = name ∧
      ((name ++ '=' :: rest).dropWhile (· != '=')).drop 1 = rest := by
  have hn : ∀ c ∈ name, (c != '=') = true := fun c hc => bne_iff_ne.mpr fun he => h (he ▸ hc)
  rw [List.takeWhile_append_of_pos hn, List.dropWhile_append_of_pos hn]
  simp

theorem entry?_eq_some_iff : entry? line = some (key, value) ↔ Assigns line key value := by
  unfold entry?
  dsimp only
  constructor
  · intro h
    split at h
    · cases h
    · rename_i hn
      obtain ⟨hc, he⟩ := not_or.mp hn
      obtain ⟨name, rest, hs, hname⟩ := List.eq_append_cons_of_mem (not_not.mp he)
      obtain ⟨ht, hd⟩ := @split_append name rest hname
      rw [hs, ht, hd] at h
      cases h
      refine ⟨Text.trim line, name, rest, Text.strips_trim line, ?_, hc, hs, hname, ?_, ?_⟩
      · exact List.ne_nil_of_mem (not_not.mp he)
      · exact String.toList_ofList ▸ Text.strips_trim name
      · exact String.toList_ofList ▸ Text.strips_trim rest
  · rintro ⟨stripped, name, rest, hs, hb, hc, rfl, hn, hk, hv⟩
    rw [Text.strips_iff] at hs hk hv
    obtain ⟨ht, hd⟩ := @split_append name rest hn
    rw [hs, if_neg, ht, hd, hk, hv, String.ofList_toList, String.ofList_toList]
    exact not_or.mpr ⟨hc, not_not.mpr (List.mem_append_right _ List.mem_cons_self)⟩

lemma value?_eq_none_iff (h : file.HasLines lines) :
    file.value? key = none ↔ ∀ l ∈ lines, ∀ v, ¬ Assigns l key v := by
  simp only [value?, entries_of_hasLines h, List.lookup_eq_none_iff, List.mem_reverse,
    List.mem_filterMap, bne_iff_ne, ← entry?_eq_some_iff]
  constructor
  · intro hk l hl v hv
    exact hk (key, v) ⟨l, hl, hv⟩ rfl
  · rintro hk ⟨k, v⟩ ⟨l, hl, hv⟩ rfl
    exact hk l hl v hv

lemma value?_eq_some_iff (h : file.HasLines lines) :
    file.value? key = some value ↔ AssignsLast lines key value := by
  simp only [value?, entries_of_hasLines h, List.lookup_eq_some_iff, List.reverse_eq_append_iff,
    List.reverse_cons, List.append_assoc, List.singleton_append]
  constructor
  · rintro ⟨later, earlier, he, hl⟩
    obtain ⟨before, rest, rfl, -, hr⟩ := List.filterMap_eq_append_iff.mp he
    obtain ⟨skipped, line, after, rfl, -, hline, ha⟩ := List.filterMap_eq_cons_iff.mp hr
    refine ⟨before ++ skipped, line, after, by simp, entry?_eq_some_iff.mp hline, ?_⟩
    intro l hmem v hv
    have hin : (key, v) ∈ after.filterMap entry? :=
      List.mem_filterMap.mpr ⟨l, hmem, entry?_eq_some_iff.mpr hv⟩
    rw [ha, List.mem_reverse] at hin
    exact bne_iff_ne.mp (hl _ hin) rfl
  · rintro ⟨before, line, after, rfl, hline, ha⟩
    refine ⟨(after.filterMap entry?).reverse, (before.filterMap entry?).reverse, ?_, ?_⟩
    · rw [List.filterMap_append, List.filterMap_cons_some (entry?_eq_some_iff.mpr hline),
        List.reverse_reverse, List.reverse_reverse]
    · rintro ⟨k, v⟩ hp
      obtain ⟨l, hl, hv⟩ := List.mem_filterMap.mp (List.mem_reverse.mp hp)
      rw [bne_iff_ne]
      rintro rfl
      exact ha l hl v (entry?_eq_some_iff.mp hv)

lemma value?_of_idle {file' : ConfigFile} {before after : List (List Char)}
    (h : file.HasLines (before ++ line :: after)) (h' : file'.HasLines (before ++ after))
    (hi : ∀ value, Assigns line key value → ∃ l ∈ after, ∃ v, Assigns l key v) :
    file'.value? key = file.value? key := by
  have he : file.entries = before.filterMap entry? ++ ([line].filterMap entry? ++
      after.filterMap entry?) := by
    rw [entries_of_hasLines h, ← List.filterMap_append, ← List.filterMap_append]
    rfl
  rw [value?, value?, he, entries_of_hasLines h', List.filterMap_append]
  simp only [List.reverse_append, List.append_assoc, List.lookup_append]
  by_cases ha : ∃ l ∈ after, ∃ v, Assigns l key v
  · obtain ⟨l, hl, v, hv⟩ := ha
    have hs : (after.filterMap entry?).reverse.lookup key ≠ none := fun hn =>
      bne_iff_ne.mp (List.lookup_eq_none_iff.mp hn (key, v) (List.mem_reverse.mpr
        (List.mem_filterMap.mpr ⟨l, hl, entry?_eq_some_iff.mpr hv⟩))) rfl
    obtain ⟨u, hu⟩ := Option.ne_none_iff_exists'.mp hs
    rw [hu, Option.some_or, Option.some_or]
  · have hn : ([line].filterMap entry?).reverse.lookup key = none := by
      refine List.lookup_eq_none_iff.mpr fun p hp => bne_iff_ne.mpr ?_
      rintro rfl
      simp only [List.mem_reverse, List.mem_filterMap, List.mem_singleton] at hp
      obtain ⟨l, rfl, hp⟩ := hp
      exact ha (hi p.2 (entry?_eq_some_iff.mp hp))
    rw [hn, Option.none_or]

end ConfigFile

/-- `Wins env file field value`: this is the value of a setting, or there is none but the
default. -/
inductive Wins (env : Environment) (file : ConfigFile) (field : Field) : Option String → Prop
  | set {value} : env.lookup field.key = some value → Wins env file field (some value)
  | line {lines value} : env.lookup field.key = none → file.HasLines lines →
      AssignsLast lines field.key value → Wins env file field (some value)
  | default {lines} : env.lookup field.key = none → file.HasLines lines →
      (∀ l ∈ lines, ∀ v, ¬ Assigns l field.key v) → Wins env file field none

namespace Settings

variable {env : Environment} {file : ConfigFile} {field : Field} {w : Option String}

lemma wins_iff : Wins env file field w ↔ winner? env file field = w := by
  obtain ⟨lines, hl⟩ := file.exists_hasLines
  rw [winner?]
  constructor
  · intro h
    cases h with
    | set he => rw [he, Option.some_or]
    | line he hl' hv => rw [he, Option.none_or, (ConfigFile.value?_eq_some_iff hl').mpr hv]
    | default he hl' hv => rw [he, Option.none_or, (ConfigFile.value?_eq_none_iff hl').mpr hv]
  · rintro rfl
    cases he : env.lookup field.key with
    | some value => exact .set he
    | none =>
      rw [Option.none_or]
      cases hv : file.value? field.key with
      | some value => exact .line he hl ((ConfigFile.value?_eq_some_iff hl).mp hv)
      | none => exact .default he hl ((ConfigFile.value?_eq_none_iff hl).mp hv)

end Settings

lemma LogLevel.ofRaw_text_eq_ok_iff {value : String} {level : LogLevel} :
    ofRaw (.text value) = .ok level ↔ value.toList.map capital = level.name.toList := by
  simp only [ofRaw, ofName?]
  constructor
  · intro h
    split at h
    · rename_i found hf
      cases h
      have hl := List.find?_some hf
      exact (eq_of_beq hl).symm
    · cases h
  · intro h
    rw [h]
    cases level <;> rfl

def Flag.texts (flag : Bool) : List String := if flag then trueTexts else falseTexts

/-- A text is read as the truth value that it stands for, in capital or small letters, and else not
at all. -/
def Flag.Documented (read : RawValue → Except FieldFault Bool) : Prop :=
  ∀ value flag, read (.text value) = .ok flag ↔
    String.ofList (value.toList.map Char.toLower) ∈ texts flag

lemma Flag.documented_ofRaw : Documented ofRaw := by
  intro value flag
  have hd : ∀ text ∈ falseTexts, text ∉ trueTexts := by decide
  simp only [ofRaw]
  generalize String.ofList (value.toList.map Char.toLower) = text
  by_cases hf : text ∈ falseTexts
  · cases flag <;> simp [texts, hf, hd text hf]
  · by_cases ht : text ∈ trueTexts <;> cases flag <;> simp [texts, hf, ht]

def Field.Accepts : Field → String → Prop
  | logLevel, value => ∃ level : LogLevel, value.toList.map LogLevel.capital = level.name.toList
  | showMarkers, value => ∃ flag, String.ofList (value.toList.map Char.toLower) ∈ Flag.texts flag

namespace Settings

structure Obeys (w : Field → Option String) (s : Settings) : Prop where
  logLevel : (w .logLevel).elim (s.logLevel = default.logLevel) fun value =>
    value.toList.map LogLevel.capital = s.logLevel.name.toList
  showMarkers : (w .showMarkers).elim (s.showMarkers = default.showMarkers) fun value =>
    String.ofList (value.toList.map Char.toLower) ∈ Flag.texts s.showMarkers

def rawOf (w : Field → Option String) : RawSettings :=
  ⟨(w .logLevel).map .text, (w .showMarkers).map .text⟩

variable {flag : RawValue → Except FieldFault Bool} {w : Field → Option String} {s : Settings}
  {errors : List FieldError}

lemma readField_text_eq_ok_iff {α : Type} {read : RawValue → Except FieldFault α} {default a : α}
    {value : Option String} : readField read default (value.map .text) = .ok a ↔
      value.elim (a = default) fun v => read (.text v) = .ok a := by
  cases value with
  | none => simp [readField, eq_comm]
  | some v => rfl

lemma ofRawBy_rawOf_eq_ok_iff (hf : Flag.Documented flag) :
    ofRawBy flag (rawOf w) = .ok s ↔ Obeys w s := by
  have hl := @readField_text_eq_ok_iff _ LogLevel.ofRaw default.logLevel s.logLevel (w .logLevel)
  have hm := @readField_text_eq_ok_iff _ flag default.showMarkers s.showMarkers (w .showMarkers)
  simp only [LogLevel.ofRaw_text_eq_ok_iff] at hl
  simp only [hf _ _] at hm
  have ho : ofRawBy flag (rawOf w) = .ok s ↔
      readField LogLevel.ofRaw default.logLevel ((w .logLevel).map .text) = .ok s.logLevel ∧
      readField flag default.showMarkers ((w .showMarkers).map .text) = .ok s.showMarkers := by
    obtain ⟨level, markers⟩ := s
    simp only [ofRawBy, rawOf]
    split <;> simp_all
  rw [ho, hl, hm]
  exact ⟨fun h => ⟨h.1, h.2⟩, fun h => ⟨h.1, h.2⟩⟩

lemma exists_readField_eq_error {α : Type} {read : RawValue → Except FieldFault α} {default : α}
    {value : Option String} : (∃ fault, readField read default (value.map .text) = .error fault) ↔
      ∃ v, value = some v ∧ ¬ ∃ a, read (.text v) = .ok a := by
  cases value with
  | none => simp [readField]
  | some v =>
    simp only [Option.map_some, readField, Option.some.injEq, exists_eq_left']
    cases read (.text v) <;> simp

lemma fields_of_ofRawBy_rawOf (hf : Flag.Documented flag)
    (h : ofRawBy flag (rawOf w) = .error errors) : errors ≠ [] ∧
      (errors.map FieldError.field).Nodup ∧ ∀ field, field ∈ errors.map FieldError.field ↔
        ∃ v, w field = some v ∧ ¬ field.Accepts v := by
  have hl := @exists_readField_eq_error _ LogLevel.ofRaw default.logLevel (w .logLevel)
  have hm := @exists_readField_eq_error _ flag default.showMarkers (w .showMarkers)
  simp only [LogLevel.ofRaw_text_eq_ok_iff] at hl
  simp only [hf _ _] at hm
  simp only [ofRawBy, rawOf] at h
  split at h <;> cases h
  all_goals
    rename_i hlevel hmarkers
    refine ⟨List.cons_ne_nil _ _, by simp, fun field => ?_⟩
    cases field with
    | logLevel => exact Iff.trans (by simp [hlevel]) hl
    | showMarkers => exact Iff.trans (by simp [hmarkers]) hm

lemma loadBy_eq (h : ∀ field, Wins env file field (w field)) :
    loadBy flag env file = ofRawBy flag (rawOf w) := by
  rw [loadBy, wins_iff.mp (h _), wins_iff.mp (h _)]
  rfl

lemma loadBy_congr {env' : Environment} {file' : ConfigFile}
    (h : ∀ field, winner? env' file' field = winner? env file field) :
    loadBy flag env' file' = loadBy flag env file := by
  rw [loadBy, loadBy, h, h]

structure LoadsWinners (flag : RawValue → Except FieldFault Bool) (env : Environment)
    (file : ConfigFile) : Prop where
  key : ∀ field : Field,
    field.key.toList = "FORMULATREE_".toList ++ field.name.toList.map Char.toUpper
  winner : ∀ field, ∃! value, Wins env file field value
  raw : ∀ w, (∀ field, Wins env file field (w field)) →
    loadBy flag env file = ofRawBy flag (rawOf w)
  loaded : ∀ w s, (∀ field, Wins env file field (w field)) →
    (loadBy flag env file = .ok s ↔ Obeys w s)
  refused : ∀ errors, loadBy flag env file = .error errors → errors ≠ [] ∧
    (errors.map FieldError.field).Nodup ∧ ∀ field, field ∈ errors.map FieldError.field ↔
      ∃ v, Wins env file field (some v) ∧ ¬ field.Accepts v
  agree : ∀ env' file', (∀ field value, Wins env' file' field value ↔ Wins env file field value) →
    loadBy flag env' file' = loadBy flag env file
  others : ∀ key value, (∀ field : Field, field.key ≠ key) →
    loadBy flag (env.set key value) file = loadBy flag env file
  idle : ∀ file' before line after, file.HasLines (before ++ line :: after) →
    file'.HasLines (before ++ after) →
    (∀ (field : Field) value, Assigns line field.key value →
      (env.lookup field.key).isSome ∨ ∃ l ∈ after, ∃ v, Assigns l field.key v) →
    loadBy flag env file' = loadBy flag env file

theorem loadsWinners (hf : Flag.Documented flag) (env : Environment) (file : ConfigFile) :
    LoadsWinners flag env file where
  key field := by cases field <;> decide
  winner field := ⟨winner? env file field, wins_iff.mpr rfl, fun _ h => (wins_iff.mp h).symm⟩
  raw w h := loadBy_eq h
  loaded w s h := by rw [loadBy_eq h, ofRawBy_rawOf_eq_ok_iff hf]
  refused errors h := by
    have hw field : Wins env file field (winner? env file field) := wins_iff.mpr rfl
    rw [loadBy_eq hw] at h
    simpa only [wins_iff] using fields_of_ofRawBy_rawOf hf h
  agree env' file' h := loadBy_congr fun field => wins_iff.mp ((h field _).mpr (wins_iff.mpr rfl))
  others key value h := loadBy_congr fun field => by
    rw [winner?, winner?, Environment.lookup_set, if_neg (h field)]
  idle file' before line after h h' hi := loadBy_congr fun field => by
    rw [winner?, winner?]
    cases he : env.lookup field.key with
    | some value => rfl
    | none =>
      rw [Option.none_or, Option.none_or]
      refine ConfigFile.value?_of_idle h h' fun value hv => ?_
      simpa [he] using hi field value hv

theorem loadsWinners_ofRaw :
    Flag.Documented Flag.ofRaw ∧ ∀ env file, LoadsWinners Flag.ofRaw env file :=
  ⟨Flag.documented_ofRaw, loadsWinners Flag.documented_ofRaw⟩

end Settings

end CellFormula
