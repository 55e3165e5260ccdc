import RecordDesk.Proofs.Decimal.Spelling
import RecordDesk.Proofs.Settings.Change

/-
  Settings that are texts: the directory, the address and the language. A value is typed without
  quotes, so its kind is guessed from its spelling. A text setting takes what is typed exactly if it
  is not spelled as a flag or a number and nothing but tables stands on the way; it then has exactly
  this text, and all other settings have what they had (`TextKey.takes_iff`).
-/

namespace RecordDesk

/-! ## Typed texts -/

namespace Toml

/-- The text is spelled neither as a flag nor as a number. -/
def IsText (s : String) : Prop := s ≠ "true" ∧ s ≠ "false" ∧ ¬ Decimal.IsNumber s

instance (s : String) : Decidable (IsText s) := inferInstanceAs (Decidable (_ ∧ _ ∧ _))

theorem ofTyped_of_isText {s : String} (h : IsText s) : ofTyped s = string s := by
  obtain ⟨htrue, hfalse, hnumber⟩ := h
  have hinteger : Decimal.readInt64? s = none :=
    Option.eq_none_iff_forall_ne_some.2 fun n hn => hnumber (Decimal.isNumber_of_readInt64? hn)
  have hfloat : Decimal.readFloat? s = none :=
    Option.eq_none_iff_forall_ne_some.2 fun x hx =>
      hnumber (Decimal.exists_readFloat?_iff.1 ⟨x, hx⟩)
  rw [ofTyped, if_neg htrue, if_neg hfalse, hinteger, hfloat]

theorem isText_of_ofTyped {s text : String} (h : ofTyped s = string text) : IsText s := by
  unfold ofTyped at h
  split at h
  · cases h
  · next htrue =>
    split at h
    · cases h
    · next hfalse =>
      refine ⟨htrue, hfalse, fun hnumber => ?_⟩
      obtain ⟨x, hx⟩ := Decimal.exists_readFloat?_iff.2 hnumber
      cases hinteger : Decimal.readInt64? s with
      | some n => simp [hinteger] at h
      | none => simp [hinteger, hx] at h

end Toml

namespace Settings

open Toml (IsText Blocked assignAt)

variable {exact : Bool} {v v' new : Toml} {s old : Settings} {typed text : String}

theorem text?_ofTyped : text? (Toml.ofTyped typed) = some text ↔ IsText typed ∧ text = typed := by
  constructor
  · intro h
    cases hvalue : Toml.ofTyped typed with
    | string other =>
      have htext := Toml.isText_of_ofTyped hvalue
      rw [Toml.ofTyped_of_isText htext] at h
      exact ⟨htext, (Option.some.inj h).symm⟩
    | _ => simp [hvalue, text?] at h
  · rintro ⟨htext, rfl⟩
    rw [Toml.ofTyped_of_isText htext, text?]

/-! ## What a document says -/

/-- The part of a document with the settings of one kind; one that is left out is empty. -/
def part (name : String) (place : Nat) (v : Toml) : Toml := (slot? name place v).getD .empty

/-- The document says the settings: each part has the shape of its fields, and each field can be
read. -/
structure Says (exact : Bool) (v : Toml) (s : Settings) : Prop where
  record : isRecord exact 3 v = true
  api : isRecord exact 3 (part "api" 1 v) = true
  ui : isRecord exact 1 (part "ui" 2 v) = true
  configDir : field (fun v => (text? v).map some) none (slot? "config_dir" 0 v) = some s.configDir
  baseUrl : field text? default.baseUrl (slot? "base_url" 0 (part "api" 1 v)) = some s.baseUrl
  timeout : field count? default.timeout (slot? "timeout_secs" 1 (part "api" 1 v)) = some s.timeout
  maxRetries :
    field count? default.maxRetries (slot? "max_retries" 2 (part "api" 1 v)) = some s.maxRetries
  language :
    field (fun v => (text? v).map some) none (slot? "language" 0 (part "ui" 2 v)) = some s.language

theorem ofToml?_eq_some_iff : ofToml? exact v = some s ↔ Says exact v s := by
  constructor
  · intro h
    unfold ofToml? at h
    dsimp only at h
    split at h
    · cases h
    · next hrecords =>
      simp only [Bool.not_eq_true', Bool.not_eq_false, Bool.and_eq_true] at hrecords
      obtain ⟨⟨hrecord, hapi⟩, hui⟩ := hrecords
      obtain ⟨configDir, hconfigDir, h⟩ := Option.bind_eq_some_iff.1 h
      obtain ⟨baseUrl, hbaseUrl, h⟩ := Option.bind_eq_some_iff.1 h
      obtain ⟨timeout, htimeout, h⟩ := Option.bind_eq_some_iff.1 h
      obtain ⟨maxRetries, hmaxRetries, h⟩ := Option.bind_eq_some_iff.1 h
      obtain ⟨language, hlanguage, h⟩ := Option.bind_eq_some_iff.1 h
      obtain rfl := Option.some.inj h
      exact ⟨hrecord, hapi, hui, hconfigDir, hbaseUrl, htimeout, hmaxRetries, hlanguage⟩
  · rintro ⟨hrecord, hapi, hui, hconfigDir, hbaseUrl, htimeout, hmaxRetries, hlanguage⟩
    unfold part at *
    simp [ofToml?, hrecord, hapi, hui, hconfigDir, hbaseUrl, htimeout, hmaxRetries, hlanguage]

@[simp] theorem slot?_put (key : String) (place : Nat) (key' : String) (x : Toml)
    (entries : List (String × Toml)) : slot? key place (.table (Dict.put key' x entries)) =
      if key = key' then some x else slot? key place (.table entries) :=
  Dict.find?_put ..

@[simp] theorem isRecord_table (exact : Bool) (fields : Nat) (entries : List (String × Toml)) :
    isRecord exact fields (.table entries) = true :=
  rfl

@[simp] theorem field_some {α : Type} (read : Toml → Option α) (default : α) (v : Toml) :
    field read default (some v) = read v :=
  rfl

/-- A document can be changed if the value can be set and the settings can then be read. -/
theorem exists_changed_iff {key : String} : (∃ text, changed v key typed = .ok text) ↔
    ∃ v' s, v.set key (Toml.ofTyped typed) = .ok v' ∧ ofToml? true v' = some s := by
  rcases hassign : v.assign key (Toml.ofTyped typed) with ⟨e | done, new⟩
  · rw [changed_of_assign_error hassign, Toml.set, hassign]
    constructor
    · rintro ⟨text, h⟩
      cases h
    · rintro ⟨v', s, h, -⟩
      cases h
  · rw [changed_of_assign_ok hassign, Toml.set, hassign]
    cases hread : ofToml? true new with
    | some s => exact iff_of_true ⟨_, rfl⟩ ⟨new, s, rfl, hread⟩
    | none =>
      constructor
      · rintro ⟨text, h⟩
        cases h
      · rintro ⟨_, s, ⟨⟩, hs⟩
        rw [hread] at hs
        cases hs

/-! ## Keys of texts -/

/-- The settings that are texts. -/
inductive TextKey
  | configDir
  | baseUrl
  | language
deriving DecidableEq, Repr

namespace TextKey

/-- The dotted key of the setting. -/
def name : TextKey → String
  | configDir => "config_dir"
  | baseUrl => "api.base_url"
  | language => "ui.language"

/-- The keys on the way to the setting. -/
def way : TextKey → List String
  | configDir => ["config_dir"]
  | baseUrl => ["api", "base_url"]
  | language => ["ui", "language"]

/-- The text of the setting, if it has one. -/
def get? : TextKey → Settings → Option String
  | configDir, s => s.configDir
  | baseUrl, s => s.baseUrl
  | language, s => s.language

/-- The settings with another text for this one. -/
def put : TextKey → String → Settings → Settings
  | configDir, text, s => { s with configDir := some text }
  | baseUrl, text, s => { s with baseUrl := text }
  | language, text, s => { s with language := some text }

variable {key : TextKey}

theorem get?_put (key : TextKey) (text : String) (s : Settings) :
    key.get? (key.put text s) = some text := by
  cases key <;> rfl

theorem segments_name (key : TextKey) : Toml.segments key.name = key.way := by
  cases key <;> decide +kernel

theorem set_name_eq_ok_iff : v.set key.name new = .ok v' ↔
    ¬ Blocked key.way v ∧ v' = (assignAt key.way new v).2 := by
  have hempty : "" ∉ Toml.segments key.name := by
    rw [segments_name]
    cases key <;> decide
  rw [Toml.set, Toml.assign_of_not_mem hempty, segments_name,
    ← Toml.succeeds_assignAt_iff _ new]
  dsimp only
  cases (assignAt key.way new v).1 <;> simp [Except.map, eq_comm]

/-- Of settings that can be read, setting a text changes this text and nothing else; after anything
else has been set there, they can no longer be read. -/
theorem ofToml?_assignAt (hold : ofToml? exact v = some old)
    (h : (assignAt key.way new v).1 = .ok ()) :
    ofToml? exact (assignAt key.way new v).2 = (text? new).map (key.put · old) := by
  obtain ⟨-, hapi, hui, hconfigDir, hbaseUrl, htimeout, hmaxRetries, hlanguage⟩ :=
    ofToml?_eq_some_iff.1 hold
  obtain ⟨entries, rfl⟩ : v.IsTable := by
    cases key <;> exact Toml.isTable_of_assignAt h
  unfold part at *
  cases key with
  | configDir =>
    rw [way, Toml.assignAt_table, Toml.assignAt]
    cases htext : text? new <;>
      simp [ofToml?, htext, hapi, hui, hbaseUrl, htimeout, hmaxRetries, hlanguage, put]
  | baseUrl =>
    -- the part of the connection is a table too, for the walk has gone through it
    rw [way, Toml.assignAt_table] at h
    obtain ⟨fields, hfields⟩ := Toml.isTable_of_assignAt h
    have hpart : (slot? "api" 1 (.table entries)).getD .empty = .table fields := hfields
    rw [hpart] at htimeout hmaxRetries
    rw [way, Toml.assignAt_table, hfields, Toml.assignAt_table, Toml.assignAt]
    cases htext : text? new <;>
      simp [ofToml?, htext, hui, hconfigDir, htimeout, hmaxRetries, hlanguage, put]
  | language =>
    rw [way, Toml.assignAt_table] at h
    obtain ⟨fields, hfields⟩ := Toml.isTable_of_assignAt h
    rw [way, Toml.assignAt_table, hfields, Toml.assignAt_table, Toml.assignAt]
    cases htext : text? new <;>
      simp [ofToml?, htext, hapi, hconfigDir, hbaseUrl, htimeout, hmaxRetries, put]

theorem ofToml?_set_iff (hold : ofToml? exact v = some old)
    (h : v.set key.name (Toml.ofTyped typed) = .ok v') :
    ofToml? exact v' = some s ↔ IsText typed ∧ s = key.put typed old := by
  obtain ⟨hfree, rfl⟩ := set_name_eq_ok_iff.1 h
  rw [ofToml?_assignAt hold ((Toml.succeeds_assignAt_iff _ _ _).2 hfree), Option.map_eq_some_iff]
  constructor
  · rintro ⟨text, htext, rfl⟩
    obtain ⟨hspelled, rfl⟩ := text?_ofTyped.1 htext
    exact ⟨hspelled, rfl⟩
  · rintro ⟨hspelled, rfl⟩
    exact ⟨typed, text?_ofTyped.2 ⟨hspelled, rfl⟩, rfl⟩

/-- The document takes what is typed as the text of the setting: it can be set, the settings can
then be read, and this one is exactly what was typed. -/
def Takes (exact : Bool) (v : Toml) (key : TextKey) (typed : String) : Prop :=
  ∃ v' s, v.set key.name (Toml.ofTyped typed) = .ok v' ∧ ofToml? exact v' = some s ∧
    key.get? s = some typed

/-- A text setting takes what is typed exactly if it is spelled neither as a flag nor as a number,
and nothing but tables stands on the way; the document of a file can be changed exactly then. If the
settings can be read after a change, only this one has changed, into what was typed. -/
theorem takes_iff (key : TextKey) (typed : String) (hold : ofToml? exact v = some old) :
    (key.Takes exact v typed ↔ IsText typed ∧ ¬ Blocked key.way v) ∧
      (∀ v' s, v.set key.name (Toml.ofTyped typed) = .ok v' → ofToml? exact v' = some s →
        s = key.put typed old) ∧
      (exact = true →
        ((∃ text, changed v key.name typed = .ok text) ↔ key.Takes true v typed)) := by
  refine ⟨⟨?_, ?_⟩, ?_, ?_⟩
  · rintro ⟨v', s, hset, hread, -⟩
    exact ⟨((ofToml?_set_iff hold hset).1 hread).1, (set_name_eq_ok_iff.1 hset).1⟩
  · rintro ⟨hspelled, hfree⟩
    have hset : v.set key.name (Toml.ofTyped typed) = .ok _ := set_name_eq_ok_iff.2 ⟨hfree, rfl⟩
    exact ⟨_, _, hset, (ofToml?_set_iff hold hset).2 ⟨hspelled, rfl⟩, get?_put ..⟩
  · intro v' s hset hread
    exact ((ofToml?_set_iff hold hset).1 hread).2
  · rintro rfl
    rw [exists_changed_iff]
    constructor
    · rintro ⟨v', s, hset, hread⟩
      obtain ⟨-, rfl⟩ := (ofToml?_set_iff hold hset).1 hread
      exact ⟨v', _, hset, hread, get?_put ..⟩
    · rintro ⟨v', s, hset, hread, -⟩
      exact ⟨v', s, hset, hread⟩

/-- Settings with an address. -/
def addressed : Toml := .table [("api", .table [("base_url", .string "http://localhost")])]

/-- The German language is taken. -/
theorem takes_iff_german :
    ofToml? true addressed = some { default with baseUrl := "http://localhost" } ∧
      IsText "de" ∧ ¬ Blocked language.way addressed ∧ language.Takes true addressed "de" := by
  have hread : ofToml? true addressed = some { default with baseUrl := "http://localhost" } := rfl
  have hspelled : IsText "de" := by decide +kernel
  have hfree : ¬ Blocked language.way addressed :=
    (Toml.succeeds_assignAt_iff _ .empty _).1 rfl
  exact ⟨hread, hspelled, hfree, (takes_iff language "de" hread).1.2 ⟨hspelled, hfree⟩⟩

/-- Settings whose part for the screens is written as an array. -/
def inArray : Toml := .table [("ui", .array [])]

/-- A directory named by a year is refused, and no language can be set inside an array. -/
theorem not_takes_year :
    (ofToml? true .empty = some default ∧ ¬ configDir.Takes true .empty "2024") ∧
      (ofToml? true inArray = some default ∧ ¬ language.Takes true inArray "de") := by
  have hnumber : ¬ IsText "2024" := by decide +kernel
  have hblocked : Blocked language.way inArray :=
    ⟨["ui"], by decide, by decide, .array [], rfl, nofun⟩
  refine ⟨⟨rfl, ?_⟩, rfl, ?_⟩
  · rintro ⟨v', s, hset, hread, -⟩
    have hdefault : ofToml? true .empty = some default := rfl
    exact hnumber ((ofToml?_set_iff hdefault hset).1 hread).1
  · rintro ⟨v', s, hset, -⟩
    exact (set_name_eq_ok_iff.1 hset).1 hblocked

end TextKey

end Settings

end RecordDesk
