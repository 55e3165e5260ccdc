import RecordDesk.Proofs.Steps
import RecordDesk.Config.Loaded

/-
  A loaded configuration has the plan of every one of its tables and of nothing else
  (`plan_of_make`, `exists_plan`).
-/

namespace RecordDesk

/-- One table, under the name that it carries. -/
def TableBook.only (t : Table) : TableBook :=
  { default with tables := Dict.empty.insert t.name t }

/-- The rule that one field of a table has a value. -/
def RuleBook.requiring (table field : String) : RuleBook :=
  let rules : FieldRules := ⟨field, [⟨.required, none, ""⟩], false⟩
  { default with tables := Dict.empty.insert table ⟨table, Dict.empty.insert field rules, []⟩ }

namespace Configuration

/-- The plans of tables are those of the entries so far. -/
def Planned (done : List (String × Table)) (plans : Dict Plan) : Prop :=
  (∀ name p, plans.get? name = some p → ∃ t, (name, t) ∈ done ∧ Plan.ofTable t = .ok p) ∧
    ∀ name t, (name, t) ∈ done → ∃ p, plans.get? name = some p

theorem planned_planAll {tables : TableBook} {plans : Dict Plan} (h : planAll tables = .ok plans) :
    Planned tables.tables.entries plans := by
  refine foldlM_ok (motive := Planned) ?_ ?_ h
  · rintro done ⟨name, t⟩ plans plans' ⟨hplans, hdone⟩ hstep
    obtain ⟨p, hp, heq⟩ := bind_eq_ok.1 hstep
    obtain rfl := Except.ok.inj heq
    constructor
    · intro other q hq
      rw [Dict.get?_insert] at hq
      split at hq
      · next hname =>
        obtain rfl := Option.some.inj hq
        exact ⟨t, by simp [hname], hp⟩
      · obtain ⟨t', ht', hq'⟩ := hplans other q hq
        exact ⟨t', List.mem_append_left _ ht', hq'⟩
    · intro other t' ht'
      rw [Dict.get?_insert]
      split
      · exact ⟨p, rfl⟩
      · next hname =>
        rcases List.mem_append.1 ht' with ht' | ht'
        · exact hdone other t' ht'
        · simp only [List.mem_singleton, Prod.mk.injEq] at ht'
          exact absurd ht'.1 hname
  · exact ⟨by simp, by simp⟩

variable {tables : TableBook} {rules : RuleBook} {messages : Catalog} {language : String}
  {config : Configuration}

theorem make_eq_ok (h : make tables rules messages language = .ok config) :
    config.tables = tables ∧ planAll tables = .ok config.plans := by
  obtain ⟨plans, hplans, heq⟩ := bind_eq_ok.1 h
  obtain rfl := Except.ok.inj heq
  exact ⟨rfl, hplans⟩

/-- The failure of the first table that has no plan. -/
def FirstUnplanned (tables : TableBook) (e : Error) : Prop :=
  ∃ before entry after, tables.tables.entries = before ++ entry :: after ∧
    (∀ other ∈ before, ∃ p, Plan.ofTable other.2 = .ok p) ∧ Plan.ofTable entry.2 = .error e

/-- Nothing else keeps documents from being put together. -/
theorem make_eq_error_iff {e : Error} :
    make tables rules messages language = .error e ↔ FirstUnplanned tables e := by
  have hplans : planAll tables = .error e ↔ FirstUnplanned tables e :=
    foldlM_eq_error (f := fun entry : String × Table => Plan.ofTable entry.2)
      (g := fun plans entry p => Dict.insert plans entry.1 p)
  rw [← hplans]
  constructor
  · intro h
    exact (bind_eq_error.1 h).resolve_right (by rintro ⟨plans, -, ⟨⟩⟩)
  · intro h
    exact bind_eq_error.2 (.inl h)

theorem make_eq_ok_iff : make tables rules messages language = .ok config ↔
    config.tables = tables ∧ config.rules = rules ∧ config.messages = messages ∧
      config.language = language ∧ planAll tables = .ok config.plans := by
  constructor
  · intro h
    obtain ⟨plans, hplans, heq⟩ := bind_eq_ok.1 h
    obtain rfl := Except.ok.inj heq
    exact ⟨rfl, rfl, rfl, rfl, hplans⟩
  · rintro ⟨rfl, rfl, rfl, rfl, hplans⟩
    exact bind_eq_ok.2 ⟨config.plans, hplans, rfl⟩

theorem rules_of_make (h : make tables rules messages language = .ok config) :
    config.rules = rules := by
  obtain ⟨plans, -, heq⟩ := bind_eq_ok.1 h
  obtain rfl := Except.ok.inj heq
  rfl

/-- Tables that have plans can be loaded, with any rules and messages in any language. -/
theorem exists_make_iff {tables : TableBook} (rules : RuleBook) (messages : Catalog)
    (language : String) : (∃ config, make tables rules messages language = .ok config) ↔
      ∀ entry ∈ tables.tables.entries, ∃ p, Plan.ofTable entry.2 = .ok p := by
  have hplans : (∃ plans, planAll tables = .ok plans) ↔
      ∀ entry ∈ tables.tables.entries, ∃ p, Plan.ofTable entry.2 = .ok p := by
    refine exists_foldlM_iff (fun plans entry _ => ?_) _
    constructor
    · rintro ⟨after, h⟩
      obtain ⟨p, hp, -⟩ := bind_eq_ok.1 h
      exact ⟨p, hp⟩
    · rintro ⟨p, hp⟩
      exact ⟨_, bind_eq_ok.2 ⟨p, hp, rfl⟩⟩
  rw [← hplans]
  constructor
  · rintro ⟨config, h⟩
    obtain ⟨plans, hplans, -⟩ := bind_eq_ok.1 h
    exact ⟨plans, hplans⟩
  · rintro ⟨plans, hplans⟩
    exact ⟨_, bind_eq_ok.2 ⟨plans, hplans, rfl⟩⟩

theorem table_eq_ok {name : String} {t : Table} :
    config.table name = .ok t ↔ (name, t) ∈ config.tables.tables.entries := by
  rw [← Dict.find?_eq_some_iff config.tables.tables.sorted]
  unfold table TableBook.table Dict.get?
  split
  · next t' h => simp [h]
  · next h => simp [h]

theorem plan_eq_ok {name : String} {p : Plan} :
    config.plan name = .ok p ↔ config.plans.get? name = some p := by
  unfold plan
  split
  · next p' h => simp [h]
  · next h => simp [h]

/-- The plan that a loaded configuration has under a name is that of the table of this name. -/
theorem plan_of_make (h : make tables rules messages language = .ok config) {name : String}
    {t : Table} {p : Plan} (ht : config.table name = .ok t) (hp : config.plan name = .ok p) :
    Plan.ofTable t = .ok p := by
  obtain ⟨rfl, hplans⟩ := make_eq_ok h
  obtain ⟨t', ht', hp'⟩ := (planned_planAll hplans).1 name p (plan_eq_ok.1 hp)
  have hsame : config.table name = .ok t' := table_eq_ok.2 ht'
  rw [ht] at hsame
  exact Except.ok.inj hsame ▸ hp'

/-- Every table of a loaded configuration has a plan. -/
theorem exists_plan (h : make tables rules messages language = .ok config) {name : String}
    {t : Table} (ht : config.table name = .ok t) :
    ∃ p, config.plan name = .ok p ∧ Plan.ofTable t = .ok p := by
  obtain ⟨rfl, hplans⟩ := make_eq_ok h
  obtain ⟨p, hp⟩ := (planned_planAll hplans).2 name t (table_eq_ok.1 ht)
  exact ⟨p, plan_eq_ok.2 hp, plan_of_make h ht (plan_eq_ok.2 hp)⟩

theorem table_of_only {t : Table} (h : make (.only t) rules messages language = .ok config) :
    config.table t.name = .ok t := by
  rw [table_eq_ok, (make_eq_ok h).1]
  exact List.mem_singleton_self _

end Configuration

end RecordDesk
