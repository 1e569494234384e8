import JavaCensus.Proofs.Reads
import JavaCensus.Proofs.Tables
import JavaCensus.Settings.Layers

/-!
# Settings are drawn from the highest layer

The layers of settings are merged into one table before anything is checked. So every setting has
the value of the highest layer that sets it, values that a higher layer covers are never looked at,
and a key that is no setting is refused in whichever layer it stands.
-/
namespace JavaCensus

open Toml (Entries setEntry lookup? lookup?_cons lookup?_nil lookup?_setEntry lookup?_filter
  nodup_setEntry Regular)

/-! ## What a layer sets -/

/-- Where settings are set. -/
inductive Layer where
  | globalFile
  | projectFile
  | namedFile
  | environment
  | caller
  deriving DecidableEq

namespace Layer

/-- All layers, the highest first. -/
def all : List Layer :=
  [caller, environment, namedFile, projectFile, globalFile]

def rank : Layer → Nat
  | globalFile => 0
  | projectFile => 1
  | namedFile => 2
  | environment => 3
  | caller => 4

end Layer

/-- The settings that a file shows: those in its own table for them, which hides the others, or
else those at its top. -/
def SettingsFile.visible? (f : SettingsFile) : Option Entries :=
  match f.content.bind Toml.read? with
  | none => none
  | some top =>
    match lookup? "javameter" top with
    | none => some top
    | some (.table inner) => some inner
    | some _ => none

theorem Setting.mem_all (f : Setting) : f ∈ Setting.all := by
  cases f <;> decide

theorem Setting.key_injective : Function.Injective Setting.key := by
  have keys : ∀ f ∈ Setting.all, ∀ g ∈ Setting.all, f.key = g.key → f = g := by decide
  exact fun f g h => keys f f.mem_all g g.mem_all h

/-- Whether a key is that of no setting. -/
def isStranger (key : String) : Bool :=
  !(Setting.all.map (·.key)).contains key

theorem isStranger_key (f : Setting) : isStranger f.key = false := by
  cases f <;> decide

namespace SettingsSources

variable (s : SettingsSources)

/-- The file of a layer, if it is there. -/
def file? : Layer → Option SettingsFile
  | .globalFile => s.globalFile
  | .projectFile => s.projectFile
  | .namedFile =>
    match s.namedFile with
    | .present f => some f
    | .none | .missing _ => none
  | .environment | .caller => none

/-- The settings that the file of a layer shows. -/
def shown (l : Layer) : Entries :=
  ((s.file? l).bind (·.visible?)).getD []

/-- What the variable of a setting says. No variable sets a list. -/
def written? (f : Setting) : Option Value :=
  if f.variableKind = .inexpressible then none
  else (s.environment.find? (·.1 == f.variableName)).bind fun p =>
    (f.variableKind.read p.2).toOption.join

def isFlagged (flag : String) : Bool :=
  (lookup? flag s.overrides).any (·.isTruthy)

/-- What the caller gives. Of the flags for the verbosity quiet comes first, then verbose, and then
comes what is given for the verbosity itself; what is nothing is not given. -/
def given? (f : Setting) : Option Value :=
  if f = .verbosity ∧ s.isFlagged "quiet" then some (.string "quiet")
  else if f = .verbosity ∧ s.isFlagged "verbose" then some (.string "verbose")
  else (lookup? f.key s.overrides).filter fun v => !Settings.isNothing v

/-- The value that a layer has for a setting. -/
def sets? (f : Setting) : Layer → Option Value
  | .caller => s.given? f
  | .environment => s.written? f
  | l => lookup? f.key (s.shown l)

/-- The value of the highest layer that sets the setting. -/
def highest? (f : Setting) : Option Value :=
  Layer.all.findSome? (s.sets? f)

/-- The keys in a layer that are those of no setting. -/
def strangers : Layer → List String
  | .caller => (s.overrides.filter fun p =>
      isStranger p.1 && p.1 != "verbose" && p.1 != "quiet" && !Settings.isNothing p.2).map (·.1)
  | .environment => []
  | l => ((s.shown l).map (·.1)).filter isStranger

/-- All files show settings and all variables of settings can be read. The named file is no key
of the caller's. -/
structure Readable : Prop where
  files : ∀ l f, s.file? l = some f → ∃ t, f.visible? = some t
  present : ∀ path, s.namedFile ≠ .missing path
  legible : ∀ (f : Setting) p, s.environment.find? (·.1 == f.variableName) = some p →
    ∃ v, f.variableKind.read p.2 = .ok v
  unnamed : lookup? Settings.namedFileKey s.overrides = none
  distinct : (s.overrides.map (·.1)).Nodup

end SettingsSources

namespace Settings

/-! ## Layers put over each other -/

theorem lookup?_overlay {layer : Entries} (distinct : (layer.map (·.1)).Nodup) (key : String)
    (t : Entries) : lookup? key (overlay t layer) = (lookup? key layer).or (lookup? key t) := by
  induction layer generalizing t with
  | nil => rfl
  | cons p layer ih =>
    obtain ⟨k, v⟩ := p
    obtain ⟨new, distinct⟩ := List.nodup_cons.1 distinct
    show lookup? key (overlay (setEntry k v t) layer) = _
    rw [ih distinct, lookup?_setEntry, lookup?_cons]
    by_cases same : key = k
    · subst same
      simp [Toml.lookup?_eq_none_iff.2 new]
    · have other : ¬k = key := fun e => same e.symm
      simp [same, other]

theorem lookup?_foldl_overlay {layers : List Entries}
    (distinct : ∀ l ∈ layers, (l.map (·.1)).Nodup) (key : String) (t : Entries) :
    lookup? key (layers.foldl overlay t) =
      (layers.reverse.findSome? (lookup? key)).or (lookup? key t) := by
  induction layers generalizing t with
  | nil => rfl
  | cons layer layers ih =>
    obtain ⟨first, rest⟩ := List.forall_mem_cons.1 distinct
    rw [List.foldl_cons, ih rest, lookup?_overlay first, List.reverse_cons, List.findSome?_append]
    simp [Option.or_assoc]

theorem unknownKey?_eq (t : Entries) : unknownKey? t = (t.map (·.1)).find? isStranger :=
  rfl

theorem unknownKey?_cons (p : String × Value) (t : Entries) :
    unknownKey? (p :: t) = (if isStranger p.1 then some p.1 else none).or (unknownKey? t) := by
  rw [unknownKey?_eq, List.map_cons, List.find?_cons, ← unknownKey?_eq]
  cases isStranger p.1 <;> rfl

theorem unknownKey?_setEntry (key : String) (v : Value) (t : Entries) :
    unknownKey? (setEntry key v t) =
      (unknownKey? t).or (if isStranger key then some key else none) := by
  rw [unknownKey?_eq, unknownKey?_eq, Toml.keys_setEntry]
  split
  · rename_i old
    cases found : (t.map (·.1)).find? isStranger with
    | some other => rfl
    | none =>
      have known := List.find?_eq_none.1 found key old
      simp [known]
  · rw [List.find?_append]
    congr 1
    cases h : isStranger key <;> simp [h]

theorem unknownKey?_overlay (t layer : Entries) :
    unknownKey? (overlay t layer) = (unknownKey? t).or (unknownKey? layer) := by
  induction layer generalizing t with
  | nil => exact (Option.or_none).symm
  | cons p layer ih =>
    obtain ⟨k, v⟩ := p
    show unknownKey? (overlay (setEntry k v t) layer) = _
    rw [ih, unknownKey?_setEntry, unknownKey?_cons, Option.or_assoc]

theorem unknownKey?_foldl_overlay (layers : List Entries) (t : Entries) :
    unknownKey? (layers.foldl overlay t) = (unknownKey? t).or (layers.findSome? unknownKey?) := by
  induction layers generalizing t with
  | nil => exact (Option.or_none).symm
  | cons layer layers ih =>
    rw [List.foldl_cons, ih, unknownKey?_overlay, Option.or_assoc]
    congr 1
    simp only [List.findSome?_cons]
    cases unknownKey? layer <;> rfl

/-! ## Failures to read a layer -/

/-- Whatever goes wrong is told as an error of the configuration. -/
def FailsAsConfig {α : Type} (x : Except Error α) : Prop :=
  ∀ e, x = .error e → ∃ failure, e = .config failure

theorem failsAsConfig_ok {α : Type} (a : α) : FailsAsConfig (.ok a) :=
  nofun

theorem failsAsConfig_config {α : Type} (failure : ConfigFailure) :
    FailsAsConfig (.error (.config failure) : Except Error α) := by
  rintro e ⟨⟩
  exact ⟨failure, rfl⟩

theorem FailsAsConfig.bind {α β : Type} {x : Except Error α} {f : α → Except Error β}
    (hx : FailsAsConfig x) (hf : ∀ a, FailsAsConfig (f a)) : FailsAsConfig (x >>= f) := by
  intro e h
  cases x with
  | error e' =>
    cases h
    exact hx e rfl
  | ok a => exact hf a e h

theorem FailsAsConfig.mapM {α β : Type} {f : α → Except Error β} {xs : List α}
    (hf : ∀ x, FailsAsConfig (f x)) : FailsAsConfig (xs.mapM f) := by
  induction xs with
  | nil => exact failsAsConfig_ok []
  | cons x xs ih =>
    rw [List.mapM_cons]
    exact (hf x).bind fun y => ih.bind fun ys => failsAsConfig_ok (y :: ys)

/-! ## The layers of files -/

theorem fileLayer_eq_ok {description : String} {f : SettingsFile} {t : Entries} :
    fileLayer description f = .ok t ↔ f.visible? = some t := by
  unfold fileLayer SettingsFile.visible?
  cases f.content.bind Toml.read? with
  | none => simp
  | some top =>
    dsimp only
    cases lookup? "javameter" top with
    | none => simp
    | some v => cases v <;> simp

theorem fileLayer_fails (description : String) (f : SettingsFile) :
    FailsAsConfig (fileLayer description f) := by
  unfold fileLayer
  split
  · exact failsAsConfig_config _
  · split
    · exact failsAsConfig_ok _
    · exact failsAsConfig_ok _
    · exact failsAsConfig_config _

theorem optionalLayer_eq_ok {description : String} {f : Option SettingsFile} {t : Entries}
    (h : optionalLayer description f = .ok t) : t = (f.bind (·.visible?)).getD [] := by
  cases f with
  | none =>
    cases h
    rfl
  | some f =>
    rw [Option.bind_some, fileLayer_eq_ok.1 h]
    rfl

theorem optionalLayer_fails (description : String) (f : Option SettingsFile) :
    FailsAsConfig (optionalLayer description f) := by
  cases f with
  | none => exact failsAsConfig_ok []
  | some f => exact fileLayer_fails description f

theorem namedLayer_eq_ok {s : SettingsSources} {t : Entries} (h : namedLayer s.namedFile = .ok t) :
    t = s.shown .namedFile := by
  unfold SettingsSources.shown SettingsSources.file?
  cases named : s.namedFile with
  | none =>
    rw [named] at h
    cases h
    rfl
  | missing path =>
    rw [named] at h
    cases h
  | present f =>
    rw [named] at h
    simp [fileLayer_eq_ok.1 h]

theorem namedLayer_fails (f : NamedFile) : FailsAsConfig (namedLayer f) := by
  cases f with
  | none => exact failsAsConfig_ok []
  | missing path => exact failsAsConfig_config _
  | present f => exact fileLayer_fails _ f

theorem keys_visible? {f : SettingsFile} {t : Entries} (h : f.visible? = some t) :
    (t.map (·.1)).Nodup := by
  unfold SettingsFile.visible? at h
  split at h
  · cases h
  · rename_i top read
    obtain ⟨text, -, read⟩ := Option.bind_eq_some_iff.1 read
    have regular := Toml.regular_read? read
    split at h
    · cases h
      exact regular.keys
    · rename_i inner found
      cases h
      exact regular.inner _ (Toml.mem_of_lookup? found) _ rfl
    · cases h

theorem keys_shown (s : SettingsSources) (l : Layer) : ((s.shown l).map (·.1)).Nodup := by
  unfold SettingsSources.shown
  cases shown : (s.file? l).bind (·.visible?) with
  | none => exact .nil
  | some t =>
    obtain ⟨f, -, visible⟩ := Option.bind_eq_some_iff.1 shown
    exact keys_visible? visible

/-! ## The layer of the environment -/

/-- The table with what is given for each setting for which something is given. -/
def tableOf (values : Setting → Option Value) (fs : List Setting) : Entries :=
  fs.filterMap fun f => (values f).map fun v => (f.key, v)

theorem keys_tableOf (values : Setting → Option Value) (fs : List Setting) :
    (tableOf values fs).map (·.1) = fs.filterMap fun f => (values f).map fun _ => f.key := by
  rw [tableOf, List.map_filterMap]
  simp only [Option.map_map, Function.comp_def]

theorem nodup_tableOf {values : Setting → Option Value} {fs : List Setting} (h : fs.Nodup) :
    ((tableOf values fs).map (·.1)).Nodup := by
  rw [keys_tableOf]
  refine h.filterMap fun f g key hf hg => ?_
  obtain ⟨_, -, rfl⟩ := Option.map_eq_some_iff.1 hf
  obtain ⟨_, -, same⟩ := Option.map_eq_some_iff.1 hg
  exact (Setting.key_injective same).symm

theorem lookup?_tableOf {values : Setting → Option Value} {fs : List Setting} (distinct : fs.Nodup)
    {f : Setting} (hf : f ∈ fs) : lookup? f.key (tableOf values fs) = values f := by
  cases given : values f with
  | some v =>
    apply Toml.lookup?_of_mem (nodup_tableOf distinct)
    exact List.mem_filterMap.2 ⟨f, hf, by rw [given]; rfl⟩
  | none =>
    rw [Toml.lookup?_eq_none_iff, keys_tableOf]
    intro there
    obtain ⟨g, -, hg⟩ := List.mem_filterMap.1 there
    obtain ⟨v, found, same⟩ := Option.map_eq_some_iff.1 hg
    rw [Setting.key_injective same, given] at found
    cases found

theorem unknownKey?_tableOf (values : Setting → Option Value) (fs : List Setting) :
    unknownKey? (tableOf values fs) = none := by
  rw [unknownKey?_eq, keys_tableOf, List.find?_eq_none]
  intro key there
  obtain ⟨f, -, hf⟩ := List.mem_filterMap.1 there
  obtain ⟨_, -, rfl⟩ := Option.map_eq_some_iff.1 hf
  simp [isStranger_key]

theorem variableEntry_eq_ok {s : SettingsSources} {f : Setting} {e : Option (String × Value)}
    (h : variableEntry s.environment f = .ok e) : e = (s.written? f).map fun v => (f.key, v) := by
  have whole : s.written? f = (s.environment.find? (·.1 == f.variableName)).bind fun p =>
      (f.variableKind.read p.2).toOption.join := by
    unfold SettingsSources.written?
    split
    · rename_i list
      rw [list]
      cases s.environment.find? (·.1 == f.variableName) <;> rfl
    · rfl
  rw [whole]
  unfold variableEntry at h
  cases found : s.environment.find? (·.1 == f.variableName) with
  | none =>
    rw [found] at h
    cases h
    rfl
  | some p =>
    rw [found] at h
    dsimp only at h
    split at h
    · rename_i v read
      cases h
      simp [read, Except.toOption]
    · cases h
    · cases h

theorem read_fails {kind : VariableKind} {written : String} {e : Error}
    (h : kind.read written = .error e) : ∃ cause, e = .mishap cause := by
  cases kind with
  | boolean =>
    simp only [VariableKind.read] at h
    split at h <;> cases h
    exact ⟨_, rfl⟩
  | integer =>
    simp only [VariableKind.read, readIntegerSetting] at h
    split at h
    · cases h
      exact ⟨_, rfl⟩
    · split at h <;> cases h
      exact ⟨_, rfl⟩
  | real =>
    simp only [VariableKind.read] at h
    split at h <;> cases h
    exact ⟨_, rfl⟩
  | text => cases h
  | inexpressible => cases h

theorem variableEntry_fails (environment : List (String × String)) (f : Setting) :
    FailsAsConfig (variableEntry environment f) := by
  unfold variableEntry
  split
  · exact failsAsConfig_ok none
  · split
    · exact failsAsConfig_ok _
    · exact failsAsConfig_config _
    · rename_i foreseen failed
      obtain ⟨cause, rfl⟩ := read_fails failed
      exact absurd rfl (foreseen cause)

theorem variableLayer_eq_ok {s : SettingsSources} {t : Entries}
    (h : variableLayer s.environment = .ok t) : t = tableOf s.written? Setting.all := by
  obtain ⟨es, read, h⟩ := bind_eq_ok.1 h
  obtain rfl := pure_eq_ok.1 h
  obtain ⟨pairs, fs, rfl, each⟩ := mapM_eq_ok read
  rw [tableOf, ← fs, List.filterMap_map, List.filterMap_map]
  refine List.filterMap_congr fun p hp => ?_
  exact variableEntry_eq_ok (each p hp)

theorem variableLayer_fails (environment : List (String × String)) :
    FailsAsConfig (variableLayer environment) :=
  (FailsAsConfig.mapM (variableEntry_fails environment)).bind fun _ => failsAsConfig_ok _

/-! ## The layer of the caller -/

theorem key_ne_flag {f : Setting} {flag : String} (h : flag ∈ ["verbose", "quiet"]) :
    f.key ≠ flag := by
  have flags : ∀ f ∈ Setting.all, ∀ flag ∈ ["verbose", "quiet"], f.key ≠ flag := by decide
  exact flags f f.mem_all flag h

theorem keys_filter {t : Entries} (h : (t.map (·.1)).Nodup) (keep : String × Value → Bool) :
    ((t.filter keep).map (·.1)).Nodup :=
  h.sublist (List.filter_sublist.map _)

theorem keys_takeFlag {flag : String} {level : Verbosity} {t : Entries} (h : (t.map (·.1)).Nodup) :
    ((takeFlag flag level t).map (·.1)).Nodup := by
  simp only [takeFlag]
  split
  · exact nodup_setEntry (keys_filter h _)
  · exact keys_filter h _

theorem keys_callerLayer {t : Entries} (h : (t.map (·.1)).Nodup) :
    ((callerLayer t).map (·.1)).Nodup :=
  keys_filter (keys_takeFlag (keys_takeFlag h)) _

theorem lookup?_takeFlag {flag : String} {level : Verbosity} {t : Entries}
    (h : (t.map (·.1)).Nodup) {key : String} (other : key ≠ flag) :
    lookup? key (takeFlag flag level t) =
      if key = Setting.verbosity.key ∧ (lookup? flag t).any (·.isTruthy) then
        some (.string level.name)
      else lookup? key t := by
  have kept : lookup? key (t.filter (·.1 != flag)) = lookup? key t := by
    rw [lookup?_filter h]
    cases lookup? key t <;> simp [Option.filter, other]
  simp only [takeFlag]
  split
  · rename_i flagged
    rw [lookup?_setEntry, kept]
    simp [flagged]
  · rename_i plain
    rw [kept]
    simp [plain]

theorem lookup?_callerLayer {s : SettingsSources} (distinct : (s.overrides.map (·.1)).Nodup)
    (f : Setting) : lookup? f.key (callerLayer s.overrides) = s.given? f := by
  have notVerbose : f.key ≠ "verbose" := key_ne_flag (by simp)
  have notQuiet : f.key ≠ "quiet" := key_ne_flag (by simp)
  have quiet : (lookup? "quiet" (takeFlag "verbose" .verbose s.overrides)).any (·.isTruthy) =
      s.isFlagged "quiet" := by
    rw [lookup?_takeFlag distinct (by decide), if_neg (by simp [Setting.key])]
    rfl
  have verbose : (lookup? "verbose" s.overrides).any (·.isTruthy) = s.isFlagged "verbose" := rfl
  rw [callerLayer, lookup?_filter (keys_takeFlag (keys_takeFlag distinct)),
    lookup?_takeFlag (keys_takeFlag distinct) notQuiet, lookup?_takeFlag distinct notVerbose, quiet,
    verbose]
  simp only [Setting.key_injective.eq_iff]
  unfold SettingsSources.given?
  split
  · rfl
  · split <;> rfl

/-- Keys of settings come and go; the strangers in a table stay. -/
theorem filter_setEntry {keep : String × Value → Bool} {key : String}
    (gone : ∀ v, keep (key, v) = false) (v : Value) (t : Entries) :
    (setEntry key v t).filter keep = t.filter keep := by
  induction t with
  | nil => simp [setEntry, gone]
  | cons p t ih =>
    obtain ⟨k, w⟩ := p
    rw [setEntry]
    split
    · rename_i same
      subst same
      simp [gone]
    · simp only [List.filter_cons, ih]

theorem filter_takeFlag {keep : String × Value → Bool} (gone : ∀ v, keep ("verbosity", v) = false)
    (flag : String) (level : Verbosity) (t : Entries) :
    (takeFlag flag level t).filter keep = t.filter fun p => keep p && p.1 != flag := by
  simp only [takeFlag]
  split
  · rw [Setting.key, filter_setEntry gone, List.filter_filter]
  · rw [List.filter_filter]

theorem unknownKey?_callerLayer (s : SettingsSources) :
    unknownKey? (callerLayer s.overrides) = (s.strangers .caller).head? := by
  have verbosity : isStranger "verbosity" = false := isStranger_key .verbosity
  rw [unknownKey?_eq, ← List.head?_filter, List.filter_map, callerLayer, List.filter_filter,
    filter_takeFlag (by simp [verbosity]), filter_takeFlag (by simp [verbosity])]
  refine congrArg (fun t : Entries => (t.map (·.1)).head?) (List.filter_congr fun p _ => ?_)
  simp only [Function.comp_apply]
  cases isStranger p.1 <;> cases isNothing p.2 <;> cases p.1 != "verbose" <;>
    cases p.1 != "quiet" <;> rfl

/-! ## Checked settings -/

theorem refuse_ne_ok {α : Type} {f : Setting} {v : Value} {reason : String} {a : α} :
    (refuse f v reason : Checked α) ≠ .ok a := by
  unfold refuse
  split <;> exact nofun

theorem toValue_checkQuantity {v : Value} {q : Quantity} (h : checkQuantity v = .ok q) :
    q.toValue = v := by
  cases v <;> cases h <;> rfl

theorem toValue_checkLevel {v : Value} {q : Quantity} (h : checkLevel v = .ok q) :
    q.toValue = v := by
  obtain ⟨p, checked, h⟩ := bind_eq_ok.1 h
  split at h
  · obtain rfl := pure_eq_ok.1 h
    exact toValue_checkQuantity checked
  · exact absurd h refuse_ne_ok

theorem toValue_checkSize {v : Value} {q : Quantity} (h : checkSize v = .ok q) :
    q.toValue = v := by
  obtain ⟨p, checked, h⟩ := bind_eq_ok.1 h
  split at h
  · exact absurd h refuse_ne_ok
  · obtain rfl := pure_eq_ok.1 h
    exact toValue_checkQuantity checked

theorem string?_eq_some {v : Value} {text : String} (h : string? v = some text) :
    v = .string text := by
  cases v <;> cases h
  rfl

theorem name_of_format {f : ReportFormat} {name : String}
    (h : ReportFormat.ofName? name = some f) : f.name = name := by
  unfold ReportFormat.ofName? at h
  have named := List.find?_some h
  exact beq_iff_eq.1 named

theorem name_of_verbosity {level : Verbosity} {name : String}
    (h : Verbosity.ofName? name = some level) : level.name = name := by
  unfold Verbosity.ofName? at h
  have named := List.find?_some h
  exact beq_iff_eq.1 named

theorem name_checkFormat {v : Value} {f : ReportFormat} (h : checkFormat v = .ok f) :
    .string f.name = v := by
  unfold checkFormat at h
  split at h
  · rename_i g found
    cases h
    obtain ⟨text, written, named⟩ := Option.bind_eq_some_iff.1 found
    rw [string?_eq_some written, name_of_format named]
  · exact absurd h refuse_ne_ok

theorem name_checkVerbosity {v : Value} {level : Verbosity} (h : checkVerbosity v = .ok level) :
    .string level.name = v := by
  unfold checkVerbosity at h
  split at h
  · rename_i g found
    cases h
    obtain ⟨text, written, named⟩ := Option.bind_eq_some_iff.1 found
    rw [string?_eq_some written, name_of_verbosity named]
  · exact absurd h refuse_ne_ok

theorem string_checkEncoding {v : Value} {text : String} (h : checkEncoding v = .ok text) :
    .string text = v := by
  unfold checkEncoding at h
  split at h
  · split at h
    · cases h
    · split at h
      · cases h
      · cases h
        rfl
      · exact absurd h refuse_ne_ok
  · cases h

/-- The values that have passed are those of the table. -/
theorem value_check {t : Entries} {settings : Settings} (h : check t = .ok settings)
    (f : Setting) : settings.value f = valueIn t f := by
  obtain ⟨level, hlevel, h⟩ := bind_eq_ok.1 h
  obtain ⟨size, hsize, h⟩ := bind_eq_ok.1 h
  obtain ⟨format, hformat, h⟩ := bind_eq_ok.1 h
  obtain ⟨verbosity, hverbosity, h⟩ := bind_eq_ok.1 h
  obtain ⟨encoding, hencoding, h⟩ := bind_eq_ok.1 h
  obtain rfl := pure_eq_ok.1 h
  cases f with
  | languageLevel => exact toValue_checkLevel hlevel
  | maxFileSize => exact toValue_checkSize hsize
  | reportFormat => exact name_checkFormat hformat
  | verbosity => exact name_checkVerbosity hverbosity
  | encoding => exact string_checkEncoding hencoding
  | enablePreview | excludePatterns | followSymlinks => rfl

theorem check_congr {t u : Entries} (h : ∀ f, valueIn t f = valueIn u f) : check t = check u := by
  simp only [check, h]

theorem ofTable_congr {t u : Entries} (unknown : unknownKey? t = unknownKey? u)
    (values : ∀ f, valueIn t f = valueIn u f) : ofTable t = ofTable u := by
  rw [ofTable, ofTable, unknown, check_congr values]

/-! ## Loading -/

theorem layers_eq_ok {s : SettingsSources} {ls : List Entries} (h : layers s = .ok ls) :
    ls = [s.shown .globalFile, s.shown .projectFile, s.shown .namedFile,
      tableOf s.written? Setting.all, callerLayer s.overrides] := by
  obtain ⟨g, hg, h⟩ := bind_eq_ok.1 h
  obtain ⟨p, hp, h⟩ := bind_eq_ok.1 h
  obtain ⟨n, hn, h⟩ := bind_eq_ok.1 h
  obtain ⟨v, hv, h⟩ := bind_eq_ok.1 h
  obtain rfl := pure_eq_ok.1 h
  rw [optionalLayer_eq_ok hg, optionalLayer_eq_ok hp, namedLayer_eq_ok hn, variableLayer_eq_ok hv]
  rfl

theorem layers_fails (s : SettingsSources) : FailsAsConfig (layers s) := by
  apply (optionalLayer_fails _ _).bind
  intro g
  apply (optionalLayer_fails _ _).bind
  intro p
  apply (namedLayer_fails _).bind
  intro n
  apply (variableLayer_fails _).bind
  intro v
  exact failsAsConfig_ok _

theorem nodup_all : Setting.all.Nodup := by
  decide

theorem keys_layers {s : SettingsSources} (distinct : (s.overrides.map (·.1)).Nodup)
    {ls : List Entries} (h : layers s = .ok ls) : ∀ l ∈ ls, (l.map (·.1)).Nodup := by
  rw [layers_eq_ok h]
  simp only [List.forall_mem_cons]
  exact ⟨keys_shown .., keys_shown .., keys_shown .., nodup_tableOf nodup_all,
    keys_callerLayer distinct, List.forall_mem_nil _⟩

/-- The merged table has the value of the highest layer. -/
theorem valueIn_merged {s : SettingsSources} (distinct : (s.overrides.map (·.1)).Nodup)
    {ls : List Entries} (h : layers s = .ok ls) (f : Setting) :
    valueIn (ls.foldl overlay []) f = (s.highest? f).getD f.default := by
  rw [valueIn, lookup?_foldl_overlay (keys_layers distinct h), lookup?_nil, Option.or_none,
    layers_eq_ok h]
  simp only [List.reverse_cons, List.reverse_nil, List.nil_append, List.cons_append,
    List.findSome?_cons, lookup?_callerLayer distinct, lookup?_tableOf nodup_all f.mem_all]
  rfl

/-- The first stranger in a layer, the layers gone through from the lowest one on. -/
theorem unknownKey?_merged {s : SettingsSources} {ls : List Entries} (h : layers s = .ok ls) :
    unknownKey? (ls.foldl overlay []) =
      Layer.all.reverse.findSome? fun l => (s.strangers l).head? := by
  have shown (l : Layer) : unknownKey? (s.shown l) =
      (((s.shown l).map (·.1)).filter isStranger).head? := by
    rw [List.head?_filter, unknownKey?_eq]
  rw [unknownKey?_foldl_overlay, layers_eq_ok h]
  simp only [List.findSome?_cons, unknownKey?_tableOf, unknownKey?_callerLayer, shown]
  rfl

theorem ofTable_unknown {t : Entries} {key : String} (h : unknownKey? t = some key) :
    ∃ fault, ofTable t = .error fault ∧ ∃ failure, fault.error = .config failure := by
  refine ⟨if key = ownKey then .wrongKind else .unknown key, ?_, ?_⟩
  · rw [ofTable, h]
  · split
    · exact ⟨.wrongKind, rfl⟩
    · exact ⟨.unknownSetting key, rfl⟩

theorem load_eq {s : SettingsSources} (unnamed : lookup? namedFileKey s.overrides = none)
    {ls : List Entries} (h : layers s = .ok ls) :
    load s = match ofTable (ls.foldl overlay []) with
      | .ok settings => .ok settings
      | .error fault => .error fault.error := by
  unfold load
  rw [unnamed, h]
  rfl

theorem unnamed_of_load {s : SettingsSources} {settings : Settings} (h : load s = .ok settings) :
    lookup? namedFileKey s.overrides = none := by
  cases named : lookup? namedFileKey s.overrides with
  | none => rfl
  | some v =>
    unfold load at h
    rw [named] at h
    cases h

theorem value_load {s : SettingsSources} (distinct : (s.overrides.map (·.1)).Nodup)
    {settings : Settings} (h : load s = .ok settings) (f : Setting) :
    settings.value f = (s.highest? f).getD f.default := by
  have unnamed := unnamed_of_load h
  cases merged : layers s with
  | error e =>
    unfold load at h
    rw [unnamed, merged] at h
    cases h
  | ok ls =>
    rw [load_eq unnamed merged] at h
    split at h
    · rename_i checked
      cases h
      unfold ofTable at checked
      split at checked
      · cases checked
      · rw [value_check checked, valueIn_merged distinct merged]
    · cases h

theorem load_stranger {s : SettingsSources} (unnamed : lookup? namedFileKey s.overrides = none)
    {l : Layer} {key : String} (stranger : key ∈ s.strangers l) :
    ∃ failure, load s = .error (.config failure) := by
  cases merged : layers s with
  | error e =>
    obtain ⟨failure, rfl⟩ := layers_fails s e merged
    refine ⟨failure, ?_⟩
    unfold load
    rw [unnamed, merged]
    rfl
  | ok ls =>
    have first : ∃ k, (s.strangers l).head? = some k := by
      cases keys : s.strangers l with
      | nil =>
        rw [keys] at stranger
        cases stranger
      | cons k ks => exact ⟨k, rfl⟩
    have all : l ∈ Layer.all.reverse := by cases l <;> decide
    have unknown : (unknownKey? (ls.foldl overlay [])).isSome := by
      rw [unknownKey?_merged merged, List.findSome?_isSome_iff]
      exact ⟨l, all, Option.isSome_iff_exists.2 first⟩
    obtain ⟨k, unknown⟩ := Option.isSome_iff_exists.1 unknown
    obtain ⟨fault, refused, failure, told⟩ := ofTable_unknown unknown
    refine ⟨failure, ?_⟩
    rw [load_eq unnamed merged, refused]
    exact congrArg Except.error told

theorem layers_of_readable {s : SettingsSources} (h : s.Readable) : ∃ ls, layers s = .ok ls := by
  have optional (description : String) (l : Layer) :
      ∃ t, optionalLayer description (s.file? l) = .ok t := by
    cases file : s.file? l with
    | none => exact ⟨[], rfl⟩
    | some f =>
      obtain ⟨t, shown⟩ := h.files l f file
      exact ⟨t, fileLayer_eq_ok.2 shown⟩
  obtain ⟨g, hg⟩ := optional "global config" .globalFile
  obtain ⟨p, hp⟩ := optional "project config" .projectFile
  have named : ∃ t, namedLayer s.namedFile = .ok t := by
    cases file : s.namedFile with
    | none => exact ⟨[], rfl⟩
    | missing path => exact absurd file (h.present path)
    | present f =>
      have there : s.file? .namedFile = some f := by
        unfold SettingsSources.file?
        rw [file]
      obtain ⟨t, shown⟩ := h.files .namedFile f there
      exact ⟨t, fileLayer_eq_ok.2 shown⟩
  obtain ⟨n, hn⟩ := named
  have entries : ∀ f ∈ Setting.all, ∃ e, variableEntry s.environment f = .ok e := by
    intro f _
    unfold variableEntry
    cases found : s.environment.find? (·.1 == f.variableName) with
    | none => exact ⟨none, rfl⟩
    | some p =>
      obtain ⟨v, read⟩ := h.legible f p found
      exact ⟨v.map fun v => (f.key, v), by simp only [read]⟩
  obtain ⟨es, hes⟩ := exists_mapM_eq_ok entries
  refine ⟨[g, p, n, es.filterMap id, callerLayer s.overrides], ?_⟩
  have entered : variableLayer s.environment = .ok (es.filterMap id) := by
    rw [variableLayer, hes]
    rfl
  have global : optionalLayer "global config" s.globalFile = .ok g := hg
  have project : optionalLayer "project config" s.projectFile = .ok p := hp
  rw [layers, global, project, hn, entered]
  rfl

/-! ## Covered values -/

/-- Below the layer, the sources may differ in what they have for the setting; all else is alike. -/
structure AlikeAbove (f : Setting) (h : Layer) (s s' : SettingsSources) : Prop where
  values : ∀ l g, g ≠ f ∨ h.rank ≤ l.rank → s.sets? g l = s'.sets? g l
  strangers : ∀ l, s.strangers l = s'.strangers l

namespace AlikeAbove

variable {f : Setting} {h : Layer} {s s' : SettingsSources}

/-- Going down the layers, nothing below one that gives a value is looked at. -/
theorem findSome?_eq {α : Type} {g g' : Layer → Option α} {ls : List Layer}
    (sorted : ls.Pairwise fun l l' => l'.rank < l.rank) (hl : h ∈ ls) (set : (g h).isSome)
    (above : ∀ l, h.rank ≤ l.rank → g l = g' l) : ls.findSome? g = ls.findSome? g' := by
  induction ls with
  | nil => cases hl
  | cons l ls ih =>
    obtain ⟨lower, sorted⟩ := List.pairwise_cons.1 sorted
    rw [List.findSome?_cons, List.findSome?_cons]
    cases hl with
    | head =>
      obtain ⟨v, set⟩ := Option.isSome_iff_exists.1 set
      rw [← above h le_rfl, set]
    | tail _ hl => rw [← above l (lower h hl).le, ih sorted hl]

/-- What is alike down to a layer that sets the setting gives the setting the same value. -/
theorem highest?_eq (alike : AlikeAbove f h s s') (set : (s.sets? f h).isSome) (g : Setting) :
    s.highest? g = s'.highest? g := by
  unfold SettingsSources.highest?
  by_cases other : g = f
  · subst other
    have sorted : Layer.all.Pairwise fun l l' => l'.rank < l.rank := by decide
    have listed : h ∈ Layer.all := by cases h <;> decide
    exact findSome?_eq sorted listed set fun l covers => alike.values l g (.inr covers)
  · congr 1
    funext l
    exact alike.values l g (.inl other)

theorem load_eq (alike : AlikeAbove f h s s') (set : (s.sets? f h).isSome) (readable : s.Readable)
    (readable' : s'.Readable) : load s = load s' := by
  obtain ⟨ls, merged⟩ := layers_of_readable readable
  obtain ⟨ls', merged'⟩ := layers_of_readable readable'
  have same : ofTable (ls.foldl overlay []) = ofTable (ls'.foldl overlay []) := by
    apply ofTable_congr
    · rw [unknownKey?_merged merged, unknownKey?_merged merged']
      simp only [alike.strangers]
    · intro g
      rw [valueIn_merged readable.distinct merged, valueIn_merged readable'.distinct merged',
        alike.highest?_eq set]
  rw [Settings.load_eq readable.unnamed merged, Settings.load_eq readable'.unnamed merged', same]

end AlikeAbove

/-! ## The settings of a run -/

/-- Settings that are loaded have the values of the highest layers that set them. A key that is no
setting keeps them from being loaded. What a layer has for a setting that a higher one sets makes no
difference, be it valid or not. -/
theorem load_layers {s : SettingsSources} (distinct : (s.overrides.map (·.1)).Nodup) :
    (∀ settings, load s = .ok settings →
      ∀ f, settings.value f = (s.highest? f).getD f.default) ∧
    (lookup? namedFileKey s.overrides = none →
      ∀ l, ∀ key ∈ s.strangers l, ∃ failure, load s = .error (.config failure)) ∧
    ∀ s' f h, s.Readable → s'.Readable → (s.sets? f h).isSome → AlikeAbove f h s s' →
      load s = load s' := by
  refine ⟨?_, ?_, ?_⟩
  · intro settings loaded f
    exact value_load distinct loaded f
  · intro unnamed l key stranger
    exact load_stranger unnamed stranger
  · intro s' f h readable readable' set alike
    exact alike.load_eq set readable readable'

/-- The global file sets the level that is given; the environment sets it too. -/
def layered (level : String) (others : Entries) : SettingsSources where
  globalFile := some ⟨"global.toml", some ("language_level = " ++ level)⟩
  projectFile := some ⟨"project.toml", some "colour = 1\n[javameter]\nenable_preview = true"⟩
  namedFile := .present ⟨"named.toml", some "report_format = \"json\""⟩
  environment := [("JAVAMETER_LANGUAGE_LEVEL", "17"), ("JAVAMETER_EXCLUDE_PATTERNS", "*")]
  overrides :=
    [("quiet", .boolean true), ("verbose", .boolean true), ("report_format", .nothing)] ++ others

theorem distinct_layered (level : String) : ((layered level []).overrides.map (·.1)).Nodup := by
  show ["quiet", "verbose", "report_format"].Nodup
  decide

theorem readable_layered {level : String} (global : (layered level []).shown .globalFile ≠ []) :
    (layered level []).Readable where
  files := by
    intro l f file
    cases l with
    | globalFile =>
      cases file
      let file : SettingsFile := ⟨"global.toml", some ("language_level = " ++ level)⟩
      cases shown : file.visible? with
      | some t => exact ⟨t, rfl⟩
      | none =>
        refine absurd ?_ global
        show file.visible?.getD [] = []
        rw [shown]
        rfl
    | projectFile =>
      cases file
      apply Option.isSome_iff_exists.1
      decide +kernel
    | namedFile =>
      cases file
      apply Option.isSome_iff_exists.1
      decide +kernel
    | environment | caller => cases file
  present := nofun
  legible := by
    have read : ∀ f ∈ Setting.all,
        ∀ p ∈ (layered "" []).environment.find? (·.1 == f.variableName),
          (f.variableKind.read p.2).toOption.isSome := by
      decide +kernel
    intro f p found
    obtain ⟨v, h⟩ := Option.isSome_iff_exists.1 (read f f.mem_all p found)
    exact ⟨v, toOption_eq_some.1 h⟩
  unnamed := rfl
  distinct := distinct_layered level

theorem keys_layered : ∀ level ∈ ["5", "11"],
    ((layered level []).shown .globalFile).map (·.1) = ["language_level"] := by
  decide +kernel

theorem alike_layered :
    AlikeAbove .languageLevel .environment (layered "5" []) (layered "11" []) := by
  have keys := keys_layered "5" (by simp)
  have keys' := keys_layered "11" (by simp)
  constructor
  · intro l g h
    cases l with
    | globalFile =>
      have other : g ≠ .languageLevel := by
        rcases h with h | h
        · exact h
        · exact absurd h (by decide)
      have absent : g.key ∉ ["language_level"] := by
        rw [List.mem_singleton]
        exact Setting.key_injective.ne other
      show lookup? g.key _ = lookup? g.key _
      rw [Toml.lookup?_eq_none_iff.2 (keys ▸ absent), Toml.lookup?_eq_none_iff.2 (keys' ▸ absent)]
    | projectFile | namedFile | environment | caller => rfl
  · intro l
    cases l with
    | globalFile =>
      show List.filter _ _ = List.filter _ _
      rw [keys, keys']
    | projectFile | namedFile | environment | caller => rfl

theorem readable_layered_of {level : String} (listed : level ∈ ["5", "11"]) :
    (layered level []).Readable := by
  apply readable_layered
  intro empty
  have keys := keys_layered level listed
  rw [empty] at keys
  cases keys

/-- The environment covers a level in a file, valid or not. Quiet wins over verbose, and what is
nothing covers no format. A key that is no setting matters only where it shows. -/
theorem load_layers_layered :
    (∃ settings, load (layered "5" []) = .ok settings ∧
      settings.languageLevel = .integer 17 ∧ settings.verbosity.name = "quiet" ∧
      settings.reportFormat.name = "json" ∧ settings.encoding = "utf-8") ∧
    (∃ failure, load (layered "5" [("colour", .integer 1)]) = .error (.config failure)) ∧
    load (layered "5" []) = load (layered "11" []) := by
  refine ⟨?_, ?_, ?_⟩
  · have loads : (load (layered "5" [])).toOption.isSome := by decide +kernel
    obtain ⟨settings, loaded⟩ := Option.isSome_iff_exists.1 loads
    have loaded := toOption_eq_some.1 loaded
    have values := (load_layers (distinct_layered "5")).1 settings loaded
    have level : Quantity.ofValue? (settings.value .languageLevel) = some (.integer 17) := by
      rw [values]
      decide +kernel
    have verbosity : string? (settings.value .verbosity) = some "quiet" := by
      rw [values]
      decide +kernel
    have format : string? (settings.value .reportFormat) = some "json" := by
      rw [values]
      decide +kernel
    have encoding : string? (settings.value .encoding) = some "utf-8" := by
      rw [values]
      decide +kernel
    have level := (Quantity.ofValue?_toValue settings.languageLevel).symm.trans level
    exact ⟨settings, loaded, Option.some.inj level, Option.some.inj verbosity,
      Option.some.inj format, Option.some.inj encoding⟩
  · have distinct :
        ((layered "5" [("colour", .integer 1)]).overrides.map (·.1)).Nodup := by
      decide
    apply (load_layers distinct).2.1 rfl .caller "colour"
    decide
  · have readable : (layered "5" []).Readable := readable_layered_of (by simp)
    have readable' : (layered "11" []).Readable := readable_layered_of (by simp)
    have set : ((layered "5" []).sets? .languageLevel .environment).isSome := by decide +kernel
    exact (load_layers (distinct_layered "5")).2.2 _ _ _ readable readable' set alike_layered

end Settings

end JavaCensus
