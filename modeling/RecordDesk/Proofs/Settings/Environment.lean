import RecordDesk.Host.Disk
import RecordDesk.Settings.Action

/-
  Settings as variables of an environment. A program that is started with just the variables of some
  settings, and without a file, reads the address, the language and the directory back
  (`restored_eq`, `load_restored`). The timeout and the number of retries are given as variables
  too, but none of these is ever read. So all settings come back exactly if these two were the
  defaults (`restored_eq_iff`).
-/

namespace RecordDesk.Settings

/-- The settings where nothing is set but the variables of some settings. -/
def restored (s : Settings) : Settings :=
  default.underEnvironment fun name => s.environment.lookup name

/-- The texts of the settings are not empty, as far as they are there. -/
structure Filled (s : Settings) : Prop where
  baseUrl : s.baseUrl ≠ ""
  language : s.language ≠ some ""
  configDir : s.configDir ≠ some ""

variable {s : Settings}

/-! ## The variables -/

theorem nonempty_eq {text : Option String} (h : text ≠ some "") : nonempty text = text := by
  cases text with
  | none => rfl
  | some text =>
    have htext : text ≠ "" := fun e => h (congrArg some e)
    simp [nonempty, Option.filter, htext]

theorem lookup_url (s : Settings) : s.environment.lookup urlVariable = some s.baseUrl := rfl

theorem lookup_language (s : Settings) : s.environment.lookup languageVariable = s.language := by
  obtain ⟨configDir, baseUrl, timeout, maxRetries, language⟩ := s
  cases language <;> cases configDir <;> rfl

theorem lookup_configDir (s : Settings) : s.environment.lookup configDirVariable = s.configDir := by
  obtain ⟨configDir, baseUrl, timeout, maxRetries, language⟩ := s
  cases language <;> cases configDir <;> rfl

theorem lookup_file (s : Settings) : s.environment.lookup fileVariable = none := by
  obtain ⟨configDir, baseUrl, timeout, maxRetries, language⟩ := s
  cases language <;> cases configDir <;> rfl

/-- All settings come back but the timeout and the number of retries. -/
theorem restored_eq (h : s.Filled) :
    s.restored = { s with timeout := default.timeout, maxRetries := default.maxRetries } := by
  have hurl : nonempty (some s.baseUrl) = some s.baseUrl :=
    nonempty_eq fun e => h.baseUrl (Option.some.inj e)
  simp only [restored, underEnvironment, withVariables, lookup_url, lookup_language,
    lookup_configDir, hurl, nonempty_eq h.language, nonempty_eq h.configDir, Option.getD_some]
  simp [default]

/-! ## The program with these variables -/

/-- The machine has no file of settings in the place where one is looked for. -/
def NoFile (m : Machine) : Prop :=
  ∀ dir ∈ m.configDir, m.disk.isThere (Path.join (Path.join dir programName) "config.toml") = false

/-- The variables name no file of settings, so it is looked for in its usual place. -/
theorem file?_restored {m : Machine} (henv : m.environment = s.environment) :
    file? Machine.host none m =
      (m.configDir.map fun dir => Path.join (Path.join dir programName) "config.toml", m) := by
  have hvariable : Machine.host.env? fileVariable m = (none, m) := by
    change (m.environment.lookup fileVariable, m) = _
    rw [henv, lookup_file]
  simp only [file?, bind, StateT.bind, hvariable]
  rfl

/-- Where there is no file the settings have their defaults. -/
theorem fromFile_missing {m : Machine} {path? : Option String}
    (hfile : file? Machine.host none m = (path?, m))
    (h : ∀ path ∈ path?, m.disk.isThere path = false) :
    fromFile Machine.host none m = (.ok default, m) := by
  simp only [fromFile, bind, ExceptT.bind, ExceptT.mk, StateT.bind, liftM, monadLift,
    MonadLift.monadLift, ExceptT.lift, Functor.map, StateT.map, hfile]
  cases path? with
  | none => rfl
  | some path =>
    have hthere : Machine.host.isThere path m = (false, m) := congrArg (·, m) (h path rfl)
    simp only [pure, ExceptT.bindCont, StateT.bind, StateT.map, hthere, bind]
    rfl

/-- A program that has these variables and no file starts with the settings that come back. -/
theorem load_restored {m : Machine} (henv : m.environment = s.environment) (h : NoFile m) :
    load Machine.host none m = (s.restored.check, m) := by
  have hfile := fromFile_missing (file?_restored henv) (by simpa [NoFile] using h)
  simp only [load, bind, ExceptT.bind, ExceptT.mk, StateT.bind, hfile]
  change ((default.underEnvironment fun name => m.environment.lookup name).check, m) = _
  rw [henv]
  rfl

/-- The settings that come back from their variables are the same exactly if the timeout and the
number of retries are the defaults. All others always come back, and the program starts with what
has come back. -/
theorem restored_eq_iff (h : s.Filled) :
    (s.restored = s ↔ s.timeout = default.timeout ∧ s.maxRetries = default.maxRetries) ∧
      s.restored = { s with timeout := default.timeout, maxRetries := default.maxRetries } ∧
      ∀ m : Machine, m.environment = s.environment → NoFile m →
        load Machine.host none m = (s.restored.check, m) := by
  refine ⟨?_, restored_eq h, fun m henv hfile => load_restored henv hfile⟩
  rw [restored_eq h]
  constructor
  · intro heq
    exact ⟨(congrArg timeout heq).symm, (congrArg maxRetries heq).symm⟩
  · rintro ⟨htimeout, hretries⟩
    rw [← htimeout, ← hretries]

/-- The settings of a counter in a shop. -/
def shopSettings (timeout : Nat) : Settings :=
  ⟨some "/etc/shop", "http://backend:9000", timeout, 3, some "ja"⟩

theorem filled_shopSettings (timeout : Nat) : (shopSettings timeout).Filled :=
  ⟨by simp [shopSettings], by simp [shopSettings], by simp [shopSettings]⟩

/-- With the default timeout they come back, and a program on a machine without files starts with
them. -/
theorem restored_eq_iff_shopSettings :
    (shopSettings 30).Filled ∧ (shopSettings 30).restored = shopSettings 30 ∧
      let m : Machine := ⟨.empty, (shopSettings 30).environment, some "/home/shop/.config"⟩
      load Machine.host none m = (.ok (shopSettings 30), m) := by
  obtain ⟨hiff, -, hload⟩ := restored_eq_iff (filled_shopSettings 30)
  have hback : (shopSettings 30).restored = shopSettings 30 := hiff.2 ⟨rfl, rfl⟩
  have hfile : NoFile ⟨.empty, (shopSettings 30).environment, some "/home/shop/.config"⟩ := by
    rintro dir ⟨⟩
    rfl
  refine ⟨filled_shopSettings 30, hback, (hload _ rfl hfile).trans ?_⟩
  rw [hback]
  rfl

/-- A longer timeout does not come back. -/
theorem not_restored_shopSettings :
    (shopSettings 60).Filled ∧ (shopSettings 60).restored ≠ shopSettings 60 := by
  refine ⟨filled_shopSettings 60, fun heq => ?_⟩
  have htimeout : (shopSettings 60).restored.timeout = 60 := congrArg timeout heq
  revert htimeout
  decide

end RecordDesk.Settings
