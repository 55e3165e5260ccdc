import RecordDesk.Proofs.Host.Disk
import RecordDesk.Proofs.Toml.Assign
import RecordDesk.Settings.Action

/-
  Changing a key in the file of the settings. In a document, setting a dotted key is a lawful update
  that happens as a whole or not at all; and a change that the key or the settings in the document
  refuse leaves the machine with its file as it was (`change_lawful`).
-/

namespace RecordDesk.Settings

open Machine (run_bind run_lift run_except)

variable {m : Machine} {explicit : Option String} {path text : String} {v v' : Toml}
  {key value : String}

/-! ## Documents -/

/-- The key, or a value on the way, refuses the change. -/
theorem changed_of_assign_error {e : Toml.SetError}
    (h : v.assign key (Toml.ofTyped value) = (.error e, v')) :
    changed v key value = .error e.toError := by
  rw [changed, Toml.set, h]
  rfl

theorem changed_of_assign_ok (h : v.assign key (Toml.ofTyped value) = (.ok (), v')) :
    changed v key value = match ofToml? true v' with
      | some _ => .ok ((Toml.print? v').getD "")
      | none => .error (.config ("Invalid value for '" ++ key ++ "'")) := by
  rw [changed, Toml.set, h]
  rfl

/-! ## Files -/

/-- The file of the settings is there and has a text. -/
structure FileSays (m : Machine) (explicit : Option String) (path text : String) : Prop where
  found : (file? Machine.host explicit m).1 = some path
  read : m.disk.read path = .ok text

/-- To look for the file changes nothing. -/
theorem file?_snd (explicit : Option String) (m : Machine) :
    (file? Machine.host explicit m).2 = m := by
  cases explicit with
  | some path => rfl
  | none =>
    have hask : Machine.host.env? fileVariable m = (m.environment.lookup fileVariable, m) := rfl
    simp only [file?, bind, StateT.bind, hask]
    cases nonempty (m.environment.lookup fileVariable) <;> rfl

/-- Where the file has a document, the text of the changed document is written, if there is one. -/
theorem change_eq (hfile : FileSays m explicit path text)
    (hparse : Toml.parseNarrow? text = some v) :
    change Machine.host explicit key value m = match changed v key value with
      | .ok new => (do
          Machine.host.write path new
          return line ("Set " ++ key ++ " = " ++ value ++ " in " ++ path)) m
      | .error e => (.error e, m) := by
  have hthere : Machine.host.isThere path m = (true, m) :=
    congrArg (·, m) (Disk.isThere_of_read hfile.read)
  have hread : Machine.host.read path m = (.ok text, m) := by
    change ((m.disk.read path).mapError (Machine.failure path), m) = _
    rw [hfile.read]
    rfl
  have hdocument : parseFile path Toml.parseNarrow? text = .ok v := by rw [parseFile, hparse]
  rw [change, run_bind, run_lift, file?_snd, hfile.found]
  dsimp only
  rw [run_bind, run_except, known]
  dsimp only
  rw [run_bind, run_lift, hthere]
  dsimp only
  rw [Bool.not_true, if_neg Bool.false_ne_true, run_bind, hread]
  dsimp only
  rw [run_bind, run_except, hdocument]
  dsimp only
  rw [run_bind, run_except]
  cases changed v key value <;> rfl

/-- Setting a dotted key in a document is lawful. With a document in the file of the settings, a
change that the key refuses, or that the settings in the changed document refuse, fails and leaves
the machine as it was; any other is written, if the disk allows. -/
theorem change_lawful (hv : v.Ordered) (key : String) :
    v.Lawful key ∧
      ∀ (m : Machine) (explicit : Option String) (path text value : String),
        FileSays m explicit path text → Toml.parseNarrow? text = some v →
        (∀ e v', v.assign key (Toml.ofTyped value) = (.error e, v') →
          change Machine.host explicit key value m = (.error e.toError, m)) ∧
        (∀ v', v.assign key (Toml.ofTyped value) = (.ok (), v') → ofToml? true v' = none →
          change Machine.host explicit key value m =
            (.error (.config ("Invalid value for '" ++ key ++ "'")), m)) ∧
        ∀ v' s disk, v.assign key (Toml.ofTyped value) = (.ok (), v') → ofToml? true v' = some s →
          m.disk.write path ((Toml.print? v').getD "") = .ok disk →
          change Machine.host explicit key value m =
            (.ok (line ("Set " ++ key ++ " = " ++ value ++ " in " ++ path)), { m with disk }) := by
  refine ⟨Toml.lawful_assign hv key, fun m explicit path text value hfile hparse => ?_⟩
  refine ⟨fun e v' h => ?_, fun v' h hnone => ?_, fun v' s disk h hsome hwrite => ?_⟩
  · rw [change_eq hfile hparse, changed_of_assign_error h]
  · rw [change_eq hfile hparse, changed_of_assign_ok h, hnone]
  · have hchange : Machine.host.write path ((Toml.print? v').getD "") m =
        (.ok (), { m with disk }) := by
      simp only [Machine.host, Machine.change, hwrite]
    rw [change_eq hfile hparse, changed_of_assign_ok h, hsome]
    dsimp only
    rw [run_bind, hchange]
    rfl

/-- Settings in which an answer may take ten seconds. -/
def patientText : String := "[api]\ntimeout_secs = 10\n"

/-- A machine with these settings. -/
def patientMachine : Machine := ⟨⟨[(["config.toml"], .file patientText)]⟩, [], none⟩

/-- A timeout in words can be set, but what it leaves are no settings. -/
def refusesWords (v : Toml) : Bool :=
  let left := v.assign "api.timeout_secs" (Toml.ofTyped "ten")
  left.1.isOk && (ofToml? true left.2).isNone

/-- A timeout in words is refused, and nothing has happened. -/
theorem change_lawful_patient : ∃ v, Toml.parseNarrow? patientText = some v ∧ v.Ordered ∧
    v.Lawful "api.timeout_secs" ∧
    FileSays patientMachine (some "/config.toml") "/config.toml" patientText ∧
    change Machine.host (some "/config.toml") "api.timeout_secs" "ten" patientMachine =
      (.error (.config "Invalid value for 'api.timeout_secs'"), patientMachine) := by
  obtain ⟨v, hparse, hrefused⟩ :=
    (Option.any_eq_true refusesWords (Toml.parseNarrow? patientText)).1 (by decide +kernel)
  obtain ⟨hok, hnone⟩ := Bool.and_eq_true_iff.1 hrefused
  obtain ⟨⟨⟩, hassign⟩ := exists_of_isOk hok
  have hv : v.Ordered := Toml.ordered_of_parse? (Option.filter_eq_some_iff.1 hparse).1
  have hfile : FileSays patientMachine (some "/config.toml") "/config.toml" patientText :=
    ⟨rfl, rfl⟩
  obtain ⟨hlawful, hchange⟩ := change_lawful hv "api.timeout_secs"
  obtain ⟨-, hrefuses, -⟩ := hchange patientMachine _ _ _ "ten" hfile hparse
  refine ⟨v, hparse, hv, hlawful, hfile, hrefuses _ (Prod.ext hassign rfl) ?_⟩
  exact Option.isNone_iff_eq_none.1 hnone

end RecordDesk.Settings
