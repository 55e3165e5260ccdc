import RecordDesk.Desk.Tasks
import RecordDesk.Proofs.Config.Store
import RecordDesk.Proofs.Form.Current
import RecordDesk.Proofs.Lookups.Load

/-
  Tasks at a desk over a memory that only read. They leave the memory as it is, and done again with
  the store that they leave they come to the same. What is put together from such tasks only reads
  (`Reads.bind`), and so forms are opened and filled (`reads_openForm`).
-/

namespace RecordDesk

namespace ConfigStore

variable {store : ConfigStore (StateM Memory)} {s : Memory}

/-- A reload leaves the memory as the fetch does. -/
theorem reload_memory (store : ConfigStore (StateM Memory)) (s : Memory) :
    (store.reload s).2 = (fetch store.source store.language s).2 := by
  simp only [reload, bind, StateT.bind]
  rcases fetch store.source store.language s with ⟨_ | c, s'⟩ <;> rfl

/-- A load from a memory leaves it as it is. -/
theorem load_config (h : store.source = Memory.config) :
    store.load s = ((store.answer ⟨.load, s⟩, store.after ⟨.load, s⟩), s) := by
  have hfetch : (fetch store.source store.language s).2 = s := by rw [h]; rfl
  have hmemory : (store.load s).2 = s := by
    cases hkept : store.kept with
    | some c => rw [load_of_kept hkept]; rfl
    | none =>
      have hload : store.load = store.reload := call_of_fetching (v := ⟨.load, s⟩) (.inr hkept)
      rw [hload, reload_memory, hfetch]
  exact Prod.ext rfl hmemory

/-- A second load comes to the same as the first. -/
theorem load_after_load (h : store.source = Memory.config) :
    (store.after ⟨.load, s⟩).load s = ((store.answer ⟨.load, s⟩, store.after ⟨.load, s⟩), s) := by
  -- a load that keeps the store as it is can be done again; one that has fetched is kept
  rcases call_cases store ⟨.load, s⟩ with ⟨c, -, -, -, hafter⟩ |
    ⟨-, ⟨e, -, hafter⟩ | ⟨c, hanswer, hafter⟩⟩
  · rw [hafter, load_config h, hafter]
  · rw [hafter, load_config h, hafter]
  · rw [hanswer, hafter, load_of_kept rfl]
    rfl

end ConfigStore

namespace DeskTask

variable {α β : Type} {P : α → Prop} {Q : β → Prop} {x : DeskTask (StateM Memory) α}
  {f : α → DeskTask (StateM Memory) β} {store store' : ConfigStore (StateM Memory)} {s s' : Memory}

theorem bind_of_ok {a : α} (h : x store s = ((.ok a, store'), s')) :
    (x >>= f) store s = f a store' s' := by
  simp only [bind, ExceptT.bind, ExceptT.mk, StateT.bind, h]
  rfl

theorem bind_of_error {e : Failure} (h : x store s = ((.error e, store'), s')) :
    (x >>= f) store s = ((.error e, store'), s') := by
  simp only [bind, ExceptT.bind, ExceptT.mk, StateT.bind, h]
  rfl

theorem ok_of_mapError {r : Except Error α} {a : α} (h : r.mapError Failure.inner = .ok a) :
    r = .ok a := by
  cases r with
  | error e => cases h
  | ok b => exact congrArg Except.ok (Except.ok.inj h)

theorem exists_of_mapError {r : Except Error α} {e : Failure}
    (h : r.mapError Failure.inner = .error e) : ∃ e', r = .error e' ∧ .inner e' = e := by
  cases r with
  | error e' => exact ⟨e', rfl, Except.error.inj h⟩
  | ok b => cases h

/-! ## Tasks that only read -/

/-- A task that only reads has been done: the memory is as it was, the store as well or as a load
leaves it, and with that store it would have come to the same. -/
structure Done (x : DeskTask (StateM Memory) α) (store : ConfigStore (StateM Memory)) (s : Memory)
    (result : Except Failure α) (store' : ConfigStore (StateM Memory)) : Prop where
  run : x store s = ((result, store'), s)
  left : store' = store ∨ store' = store.after ⟨.load, s⟩
  loaded : x (store.after ⟨.load, s⟩) s = ((result, store.after ⟨.load, s⟩), s)

/-- A task that only reads; what it gives has a property. -/
def Reads (x : DeskTask (StateM Memory) α) (P : α → Prop) : Prop :=
  ∀ store s, store.source = Memory.config →
    ∃ result store', Done x store s result store' ∧ ∀ a, result = .ok a → P a

/-- Done again with the store that it leaves, the task comes to the same. -/
theorem Done.again {result : Except Failure α} (h : Done x store s result store') :
    x store' s = ((result, store'), s) := by
  rcases h.left with rfl | rfl
  · exact h.run
  · exact h.loaded

/-- One task after another only reads if either does. -/
theorem Reads.bind (hx : Reads x P) (hf : ∀ a, P a → Reads (f a) Q) : Reads (x >>= f) Q := by
  intro store s hsource
  obtain ⟨result, mid, hdone, hpost⟩ := hx store s hsource
  cases result with
  | error e =>
    exact ⟨.error e, mid, ⟨bind_of_error hdone.run, hdone.left, bind_of_error hdone.loaded⟩, nofun⟩
  | ok a =>
    obtain ⟨result, last, hnext, hpost⟩ := hf a (hpost a rfl) store s hsource
    have hloaded := (bind_of_ok hdone.loaded).trans hnext.loaded
    -- the first task may have loaded the configuration that the second finds
    rcases hdone.left with rfl | rfl
    · exact ⟨result, last, ⟨(bind_of_ok hdone.run).trans hnext.run, hnext.left, hloaded⟩, hpost⟩
    · exact ⟨result, _, ⟨(bind_of_ok hdone.run).trans hnext.loaded, .inr rfl, hloaded⟩, hpost⟩

theorem Reads.mono {P' : α → Prop} (hx : Reads x P) (h : ∀ a, P a → P' a) : Reads x P' := by
  intro store s hsource
  obtain ⟨result, store', hdone, hpost⟩ := hx store s hsource
  exact ⟨result, store', hdone, fun a ha => h a (hpost a ha)⟩

theorem reads_configuration : Reads configuration fun _ => True := by
  intro store s hsource
  refine ⟨(store.answer ⟨.load, s⟩).mapError .inner, _, ⟨?_, .inr rfl, ?_⟩, fun _ _ => trivial⟩
  · simp only [configuration, bind, StateT.bind, ConfigStore.load_config hsource]
    rfl
  · simp only [configuration, bind, StateT.bind, ConfigStore.load_after_load hsource]
    rfl

theorem reads_ask {answer : StateM Memory (Except Error α)} (hmemory : ∀ s, (answer s).2 = s)
    (hpost : ∀ s a, (answer s).1 = .ok a → P a) : Reads (ask answer) P := by
  intro store s _
  have hrun : ∀ store : ConfigStore (StateM Memory),
      ask answer store s = (((answer s).1.mapError .inner, store), s) :=
    fun store => Prod.ext rfl (hmemory s)
  exact ⟨_, store, ⟨hrun store, .inl rfl, hrun _⟩, fun a ha => hpost s a (ok_of_mapError ha)⟩

theorem reads_lift {r : Except Failure α} (hpost : ∀ a, r = .ok a → P a) :
    Reads (liftM r) P :=
  fun _ _ _ => ⟨r, _, ⟨rfl, .inl rfl, rfl⟩, hpost⟩

theorem reads_ofResult {r : Except Error α} (hpost : ∀ a, r = .ok a → P a) :
    Reads (ofResult r) P :=
  fun _ _ _ => ⟨_, _, ⟨rfl, .inl rfl, rfl⟩, fun a ha => hpost a (ok_of_mapError ha)⟩

end DeskTask

/-! ## Forms -/

namespace Session

/-- A form for a record: one that edits it under its key, or one for a new record. -/
inductive For (r : Record) (s : Session) : (edit : Bool) → Prop
  | new (hmode : s.mode = .create) : For r s false
  | edited {key : RecordKey} (hmode : s.mode = .edit) (hkey : s.key = some key)
      (hrecord : RecordKey.ofRecord r s.table.primaryKey = .ok key) : For r s true

variable {config : Configuration} {table : String} {s : Session}

theorem mode_of_create {lookups : Lookups} (h : create config table lookups = .ok s) :
    s.mode = .create := by
  obtain ⟨t, -, h⟩ := bind_eq_ok.1 h
  obtain ⟨plan, -, h⟩ := bind_eq_ok.1 h
  exact Except.ok.inj h ▸ rfl

theorem for_of_edit {r : Record} {lookups : Lookups} (h : edit config table r lookups = .ok s) :
    For r s true := by
  obtain ⟨t, htable, -⟩ := bind_eq_ok.1 h
  obtain ⟨p, key, -, hkey, rfl⟩ := edit_eq_ok htable h
  exact .edited rfl rfl hkey

/-- A form over a memory is opened with the lookups of its table, and the memory stays as it is. -/
theorem openFrom_records (config : Configuration) (table : String) (r : Option Record)
    (s : Memory) : openFrom Memory.records config table r s =
      ((do
        let t ← config.table table
        start config table r (Lookups.load Memory.records.findAll t s).1), s) := by
  rw [openFrom]
  cases config.table table with
  | error e => rfl
  | ok t =>
    exact Prod.ext rfl (Lookups.load_records t s)

end Session

namespace Desk

open DeskTask

/-- A desk over a memory, with files that are only read. -/
def overMemory (files : String → Except Error String) : Desk (StateM Memory) :=
  ⟨Memory.records, fun path => pure (files path)⟩

variable {files : String → Except Error String}

theorem reads_openForm (table : String) (r : Option Record) :
    Reads ((overMemory files).openForm table r) fun session =>
      ∃ config lookups, Session.start config table r lookups = .ok session := by
  refine reads_configuration.bind fun config _ => reads_ask (fun s => ?_) fun s session h => ?_
  · rw [overMemory, Session.openFrom_records]
  · rw [overMemory, Session.openFrom_records] at h
    obtain ⟨t, -, hstart⟩ := bind_eq_ok.1 h
    exact ⟨config, _, hstart⟩

/-- Fields that are set change nothing but the values. -/
theorem setFields_eq_ok {s s' : Session} {r : Record} (h : setFields s r = .ok s') :
    s' = { s with values := s'.values } := by
  refine foldlM_ok (motive := fun _ u => u = { s with values := u.values }) ?_ rfl h
  intro _ f u u' hu hstep
  split at hstep
  · next v hv =>
    cases hset : u.setValue f.name v with
    | error e => rw [hset] at hstep; cases hstep
    | ok result =>
      rw [hset] at hstep
      obtain rfl := Except.ok.inj hstep
      rw [(Session.setValue_eq_ok hset).2, hu]
      rfl
  · exact Except.ok.inj hstep ▸ hu

/-- The form that a record fills is one for this record. -/
theorem reads_fillForm (table : String) (r : Record) (edit : Bool) :
    Reads ((overMemory files).fillForm table r edit) (·.For r edit) := by
  cases edit with
  | true =>
    refine (reads_openForm table (some r)).mono ?_
    rintro session ⟨config, lookups, hstart⟩
    exact Session.for_of_edit hstart
  | false =>
    refine (reads_openForm table none).bind ?_
    rintro opened ⟨config, lookups, hstart⟩
    have hmode : opened.mode = .create := Session.mode_of_create hstart
    refine reads_ofResult fun session hset => .new ?_
    rw [setFields_eq_ok hset]
    exact hmode

theorem reads_readRecord (path : String) :
    Reads ((overMemory files).readRecord path) fun _ => True :=
  Reads.bind (P := fun _ => True) (reads_ask (fun _ => rfl) fun _ _ _ => trivial) fun _ _ =>
    reads_lift fun _ _ => trivial

end Desk

end RecordDesk
