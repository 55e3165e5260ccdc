import RecordDesk.Config.Store
import RecordDesk.Proofs.Config.Loaded

/-
  A store of the configuration over a source that changes and fails as it likes. What a fetch gives
  is said by the rules of `Fetched` (`fetch_eq_iff`). However it was called, a store keeps the last
  configuration that was fetched, answers loads from it without asking the source, and stays as it
  is where a fetch fails (`call_after_run`).
-/

namespace RecordDesk

variable {σ : Type}

/-! ## Fetching -/

/-- What comes of a fetch that finds the source in a state. Tables, rules and a plan for each table
are needed; messages that cannot be fetched are left out. -/
inductive Fetched (source : ConfigSource (StateM σ)) (language : Option String) (s : σ) :
    Except Error Configuration → Prop
  | noTables {e : Error} {s₁ : σ} (htables : source.tables s = (.error e, s₁)) :
      Fetched source language s (.error e)
  | noRules {tables : TableBook} {e : Error} {s₁ s₂ : σ}
      (htables : source.tables s = (.ok tables, s₁)) (hrules : source.rules s₁ = (.error e, s₂)) :
      Fetched source language s (.error e)
  | noPlan {tables : TableBook} {rules : RuleBook} {e : Error} {s₁ s₂ : σ}
      (htables : source.tables s = (.ok tables, s₁)) (hrules : source.rules s₁ = (.ok rules, s₂))
      (hplans : Configuration.FirstUnplanned tables e) : Fetched source language s (.error e)
  | made {c : Configuration} {s₁ s₂ : σ} (htables : source.tables s = (.ok c.tables, s₁))
      (hrules : source.rules s₁ = (.ok c.rules, s₂))
      (hlanguage : c.language = language.getD c.defaultLanguage)
      (hmessages : c.messages = (source.messages c.language s₂).1.toOption.getD .empty)
      (hplans : Configuration.planAll c.tables = .ok c.plans) : Fetched source language s (.ok c)

namespace ConfigStore

variable {source : ConfigSource (StateM σ)} {language : Option String}

theorem fetch_of_noTables {e : Error} {s s₁ : σ} (htables : source.tables s = (.error e, s₁)) :
    (fetch source language s).1 = .error e := by
  simp only [fetch, bind, StateT.bind, htables]
  rfl

theorem fetch_of_noRules {tables : TableBook} {e : Error} {s s₁ s₂ : σ}
    (htables : source.tables s = (.ok tables, s₁)) (hrules : source.rules s₁ = (.error e, s₂)) :
    (fetch source language s).1 = .error e := by
  simp only [fetch, bind, StateT.bind, htables, hrules]
  rfl

/-- Tables and rules are put together with the messages, or with none if those cannot be had. -/
theorem fetch_of_rules (language : Option String) {tables : TableBook} {rules : RuleBook}
    {s s₁ s₂ : σ} (htables : source.tables s = (.ok tables, s₁))
    (hrules : source.rules s₁ = (.ok rules, s₂)) :
    (fetch source language s).1 = Configuration.make tables rules
      ((source.messages (language.getD tables.project.defaultLanguage) s₂).1.toOption.getD .empty)
      (language.getD tables.project.defaultLanguage) := by
  simp only [fetch, bind, StateT.bind, htables, hrules]
  rfl

theorem fetch_eq_iff {s : σ} {result : Except Error Configuration} :
    (fetch source language s).1 = result ↔ Fetched source language s result := by
  constructor
  · rintro rfl
    rcases htables : source.tables s with ⟨_ | tables, s₁⟩
    · exact fetch_of_noTables htables ▸ .noTables htables
    rcases hrules : source.rules s₁ with ⟨_ | rules, s₂⟩
    · exact fetch_of_noRules htables hrules ▸ .noRules htables hrules
    have hfetch := fetch_of_rules language htables hrules
    cases hmake : (fetch source language s).1 with
    | error e => exact .noPlan htables hrules (Configuration.make_eq_error_iff.1 (hfetch ▸ hmake))
    | ok c =>
      obtain ⟨rfl, rfl, hmessages, hlanguage, hplans⟩ :=
        Configuration.make_eq_ok_iff.1 (hfetch ▸ hmake)
      exact .made htables hrules hlanguage (hlanguage ▸ hmessages) hplans
  · intro h
    cases h with
    | noTables htables => exact fetch_of_noTables htables
    | noRules htables hrules => exact fetch_of_noRules htables hrules
    | noPlan htables hrules hplans =>
      rw [fetch_of_rules language htables hrules]
      exact Configuration.make_eq_error_iff.2 hplans
    | made htables hrules hlanguage hmessages hplans =>
      rw [fetch_of_rules language htables hrules]
      refine Configuration.make_eq_ok_iff.2 ⟨rfl, rfl, ?_, hlanguage, hplans⟩
      rw [hmessages, hlanguage]
      rfl

/-! ## Calls -/

/-- What a store is asked for. -/
inductive Call
  | load
  | reload
deriving DecidableEq

/-- A call, with the state in which it finds the source. -/
structure Visit (σ : Type) where
  call : Call
  state : σ

/-- What a call does. -/
def call (store : ConfigStore (StateM σ)) :
    Call → StateM σ (Except Error Configuration × ConfigStore (StateM σ))
  | .load => store.load
  | .reload => store.reload

/-- The answer to a call. -/
def answer (store : ConfigStore (StateM σ)) (v : Visit σ) : Except Error Configuration :=
  (store.call v.call v.state).1.1

/-- The store that a call leaves behind. -/
def after (store : ConfigStore (StateM σ)) (v : Visit σ) : ConfigStore (StateM σ) :=
  (store.call v.call v.state).1.2

/-- The store after calls one after another. Between them the source may change in any way. -/
def run (store : ConfigStore (StateM σ)) (visits : List (Visit σ)) : ConfigStore (StateM σ) :=
  visits.foldl after store

/-- The answers to calls one after another. -/
def answers (store : ConfigStore (StateM σ)) : List (Visit σ) → List (Except Error Configuration)
  | [] => []
  | v :: rest => store.answer v :: (store.after v).answers rest

/-- The configuration of the last success, among results of which the newest stands first. -/
def latest (results : List (Except Error Configuration)) : Option Configuration :=
  results.findSome? Except.toOption

/-- The results of the fetches that calls make, the newest first: a reload fetches always, a load
only as long as no fetch has succeeded. -/
def fetchResults (source : ConfigSource (StateM σ)) (language : Option String)
    (visits : List (Visit σ)) : List (Except Error Configuration) :=
  visits.foldl (fun results v =>
    if v.call = .load ∧ (latest results).isSome then results
    else (fetch source language v.state).1 :: results) []

variable {store : ConfigStore (StateM σ)}

theorem load_of_kept {c : Configuration} (h : store.kept = some c) :
    store.load = pure (.ok c, store) := by
  rw [load, h]

theorem call_of_fetching {v : Visit σ} (h : v.call = .reload ∨ store.kept = none) :
    store.call v.call = store.reload := by
  cases hcall : v.call with
  | reload => rfl
  | load =>
    have hnone := h.resolve_left (by rw [hcall]; exact Call.noConfusion)
    rw [call, load, hnone]

theorem reload_eq (s : σ) : (store.reload s).1 =
    match (fetch store.source store.language s).1 with
    | .ok c => (.ok c, { store with kept := some c, fetches := store.fetches + 1 })
    | .error e => (.error e, store) := by
  simp only [reload, bind, StateT.bind]
  rcases fetch store.source store.language s with ⟨_ | c, s'⟩ <;> rfl

/-- A call that has to fetch gives what the fetch gives. -/
theorem answer_of_fetching {v : Visit σ} (h : v.call = .reload ∨ store.kept = none) :
    store.answer v = (fetch store.source store.language v.state).1 := by
  rw [answer, call_of_fetching h, reload_eq]
  cases (fetch store.source store.language v.state).1 <;> rfl

/-- A call is answered from what is kept, or by a fetch, which leaves its configuration behind if it
succeeds and nothing if it fails. -/
theorem call_cases (store : ConfigStore (StateM σ)) (v : Visit σ) :
    (∃ c, v.call = .load ∧ store.kept = some c ∧ store.answer v = .ok c ∧ store.after v = store) ∨
    ((v.call = .reload ∨ store.kept = none) ∧
      ((∃ e, store.answer v = .error e ∧ store.after v = store) ∨
      ∃ c, store.answer v = .ok c ∧
        store.after v = { store with kept := some c, fetches := store.fetches + 1 })) := by
  by_cases hfetching : v.call = .reload ∨ store.kept = none
  · refine .inr ⟨hfetching, ?_⟩
    rw [answer, after, call_of_fetching hfetching, reload_eq]
    cases (fetch store.source store.language v.state).1 with
    | error e => exact .inl ⟨e, rfl, rfl⟩
    | ok c => exact .inr ⟨c, rfl, rfl⟩
  · obtain ⟨hcall, hkept⟩ := not_or.1 hfetching
    have hload : v.call = .load := by
      cases h : v.call with
      | load => rfl
      | reload => exact absurd h hcall
    obtain ⟨c, hc⟩ := Option.ne_none_iff_exists'.1 hkept
    refine .inl ⟨c, hload, hc, ?_⟩
    rw [answer, after, hload, call, load_of_kept hc]
    exact ⟨rfl, rfl⟩

/-- A call that fails leaves the store as it is. -/
theorem after_of_error {v : Visit σ} {e : Error} (h : store.answer v = .error e) :
    store.after v = store := by
  rcases call_cases store v with ⟨c, -, -, -, hafter⟩ | ⟨-, ⟨_, -, hafter⟩ | ⟨c, hanswer, -⟩⟩
  · exact hafter
  · exact hafter
  · rw [hanswer] at h
    cases h

/-- A configuration that is answered is kept. -/
theorem kept_of_ok {v : Visit σ} {c : Configuration} (h : store.answer v = .ok c) :
    (store.after v).kept = some c := by
  rcases call_cases store v with ⟨c', -, hkept, hanswer, hafter⟩ |
    ⟨-, ⟨e, hanswer, -⟩ | ⟨c', hanswer, hafter⟩⟩
  · obtain rfl := Except.ok.inj (hanswer.symm.trans h)
    rw [hafter, hkept]
  · rw [hanswer] at h
    cases h
  · obtain rfl := Except.ok.inj (hanswer.symm.trans h)
    rw [hafter]

/-! ## Runs -/

/-- A configuration has a plan for each of its tables, and is in the language that was chosen, or in
that of its own project where none was. -/
structure Sound (language : Option String) (c : Configuration) : Prop where
  language : c.language = language.getD c.defaultLanguage
  plans : ∀ name t, c.table name = .ok t → ∃ p, c.plan name = .ok p ∧ Plan.ofTable t = .ok p

theorem sound_of_fetch {s : σ} {c : Configuration} (h : (fetch source language s).1 = .ok c) :
    Sound language c := by
  cases fetch_eq_iff.1 h with
  | made htables hrules hlanguage hmessages hplans =>
    have hmake := Configuration.make_eq_ok_iff.2 ⟨rfl, rfl, rfl, rfl, hplans⟩
    exact ⟨hlanguage, fun name t ht => Configuration.exists_plan hmake ht⟩

/-- What holds of a store after fetches with these results. -/
structure Holds (source : ConfigSource (StateM σ)) (language : Option String)
    (results : List (Except Error Configuration)) (store : ConfigStore (StateM σ)) : Prop where
  sameSource : store.source = source
  sameLanguage : store.language = language
  kept : store.kept = latest results
  sound : ∀ c, store.kept = some c → Sound language c

/-- One call keeps that up. -/
theorem Holds.after {results : List (Except Error Configuration)}
    (h : Holds source language results store) (v : Visit σ) :
    Holds source language
      (if v.call = .load ∧ (latest results).isSome then results
        else (fetch source language v.state).1 :: results) (store.after v) := by
  rcases call_cases store v with ⟨c, hload, hkept, -, hafter⟩ | ⟨hfetching, hresult⟩
  · have hlatest : (latest results).isSome = true := by rw [← h.kept, hkept]; rfl
    rw [if_pos ⟨hload, hlatest⟩, hafter]
    exact h
  · -- a load that fetches does so because nothing is kept, so no fetch has succeeded
    have hcond : ¬ (v.call = .load ∧ (latest results).isSome = true) := by
      rintro ⟨hload, hlatest⟩
      rcases hfetching with hreload | hnone
      · rw [hreload] at hload
        cases hload
      · rw [← h.kept, hnone] at hlatest
        cases hlatest
    have hanswer := answer_of_fetching hfetching
    rw [h.sameSource, h.sameLanguage] at hanswer
    rw [if_neg hcond, ← hanswer]
    rcases hresult with ⟨e, he, hafter⟩ | ⟨c, hc, hafter⟩
    · rw [hafter, he]
      exact ⟨h.sameSource, h.sameLanguage, h.kept, h.sound⟩
    · rw [hafter, hc]
      refine ⟨h.sameSource, h.sameLanguage, rfl, fun c' hc' => ?_⟩
      obtain rfl := Option.some.inj hc'
      exact sound_of_fetch (hanswer.symm.trans hc)

theorem holds_run (source : ConfigSource (StateM σ)) (language : Option String)
    (visits : List (Visit σ)) :
    Holds source language (fetchResults source language visits)
      ((ofSource source language).run visits) :=
  foldl_related (motive := Holds source language)
    (fun v _ _ _ h => h.after v) ⟨rfl, rfl, rfl, nofun⟩

/-- Something is kept as soon as one call has been answered with success. -/
theorem kept_run_isSome_iff (store : ConfigStore (StateM σ)) (visits : List (Visit σ)) :
    (store.run visits).kept.isSome = true ↔
      store.kept.isSome = true ∨ ∃ c, .ok c ∈ store.answers visits := by
  induction visits generalizing store with
  | nil => simp [run, answers]
  | cons v rest ih =>
    have hstep : (store.after v).kept.isSome = true ↔
        store.kept.isSome = true ∨ ∃ c, store.answer v = .ok c := by
      rcases call_cases store v with ⟨c, -, hkept, hanswer, hafter⟩ |
        ⟨-, ⟨e, hanswer, hafter⟩ | ⟨c, hanswer, hafter⟩⟩
      · simp [hafter, hkept]
      · simp [hafter, hanswer]
      · simp [hafter, hanswer]
    rw [run, List.foldl_cons]
    refine (ih (store.after v)).trans ?_
    rw [hstep]
    simp only [answers, List.mem_cons, or_assoc, exists_or, eq_comm]

/-- However a store was called, over a source that changes and fails as it likes: what it keeps is
the configuration of the last fetch that succeeded, which there is once a call has succeeded, and
loads are then answered with it whatever has become of the source, which is not asked. Any other
call gives what a fetch gives. A call that fails leaves the store as it is, and a configuration that
is answered is kept, has a plan for each of its tables, and is in the language it should be in. -/
theorem call_after_run (source : ConfigSource (StateM σ)) (language : Option String)
    (visits : List (Visit σ)) :
    let store := (ofSource source language).run visits
    store.kept = latest (fetchResults source language visits) ∧
      (store.kept.isSome = true ↔ ∃ c, .ok c ∈ (ofSource source language).answers visits) ∧
      (∀ c, store.kept = some c → store.load = pure (.ok c, store)) ∧
      ∀ v, (v.call = .reload ∨ store.kept = none →
          ∀ result, store.answer v = result ↔ Fetched source language v.state result) ∧
        (∀ e, store.answer v = .error e → store.after v = store) ∧
        ∀ c, store.answer v = .ok c → (store.after v).kept = some c ∧ Sound language c := by
  intro store
  have hholds : Holds source language (fetchResults source language visits) store :=
    holds_run source language visits
  refine ⟨hholds.kept, ?_, fun c hc => load_of_kept hc, fun v => ⟨fun hfetching result => ?_,
    fun e he => after_of_error he, fun c hc => ⟨kept_of_ok hc, ?_⟩⟩⟩
  · rw [kept_run_isSome_iff]
    simp [ofSource]
  · rw [answer_of_fetching hfetching, hholds.sameSource, hholds.sameLanguage, fetch_eq_iff]
  · exact (hholds.after v).sound c (kept_of_ok hc)

end ConfigStore

end RecordDesk
