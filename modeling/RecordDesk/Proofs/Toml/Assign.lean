import RecordDesk.Proofs.Dict
import RecordDesk.Proofs.Toml.Ordered

/-
  Setting values in TOML documents. What is set at the end of a way is found there
  (`getAt?_assignAt`), what is found at the end of another way stays (`getAt?_assignAt_apart`), and
  of two values set at the same place the last one counts (`assignAt_assignAt`). A walk fails
  exactly if it meets a value that is no table (`fails_assignAt_iff`), and then it has not made any
  (`assignAt_error`). The laws of dotted keys are those of their ways (`lawful_assign`).
-/

namespace RecordDesk.Toml

variable {v new : Toml} {way other : List String} {key : String} {rest : List String}

/-- The value is a table. -/
def IsTable (v : Toml) : Prop := ∃ entries, v = table entries

theorem isTable_table (entries : List (String × Toml)) : IsTable (table entries) := ⟨entries, rfl⟩

/-! ## One step of a walk -/

/-- A step into a table sets the rest of the way in what stands under the key, or in a new table. -/
theorem assignAt_table (key : String) (rest : List String) (new : Toml)
    (entries : List (String × Toml)) :
    assignAt (key :: rest) new (table entries) =
      let inner := assignAt rest new ((Dict.find? entries key).getD empty)
      (inner.1, table (Dict.put key inner.2 entries)) := by
  cases rest <;> rfl

/-- There is no step into anything else. -/
theorem assignAt_not_table (h : ¬ IsTable v) (key : String) (rest : List String) (new : Toml) :
    ∃ e, assignAt (key :: rest) new v = (.error e, v) := by
  cases v with
  | table entries => exact absurd (isTable_table entries) h
  | _ => cases rest <;> exact ⟨_, rfl⟩

/-- A step that succeeds has gone into a table. -/
theorem isTable_of_assignAt (h : (assignAt (key :: rest) new v).1 = .ok ()) : IsTable v := by
  by_contra hnot
  obtain ⟨e, he⟩ := assignAt_not_table hnot key rest new
  rw [he] at h
  cases h

theorem getAt?_table (key : String) (rest : List String) (entries : List (String × Toml)) :
    getAt? (key :: rest) (table entries) = (Dict.find? entries key).bind (getAt? rest) :=
  rfl

/-- What a step into a table leaves under its key. -/
theorem getAt?_put (key : String) (inner : Toml) (entries : List (String × Toml))
    (rest : List String) :
    getAt? (key :: rest) (table (Dict.put key inner entries)) = getAt? rest inner := by
  rw [getAt?_table, Dict.find?_put, if_pos rfl, Option.bind_some]

/-! ## Walks -/

theorem getAt?_assignAt (h : (assignAt way new v).1 = .ok ()) :
    getAt? way (assignAt way new v).2 = some new := by
  induction way generalizing v with
  | nil => rfl
  | cons key rest ih =>
    by_cases hv : IsTable v
    · obtain ⟨entries, rfl⟩ := hv
      rw [assignAt_table] at h ⊢
      rw [getAt?_put]
      exact ih h
    · obtain ⟨e, he⟩ := assignAt_not_table hv key rest new
      rw [he] at h
      cases h

/-- Neither of two ways leads on from where the other ends. -/
def Apart (way other : List String) : Prop := ¬ way <+: other ∧ ¬ other <+: way

theorem apart_cons : Apart (key :: way) (key :: other) ↔ Apart way other := by
  simp [Apart, List.cons_prefix_cons]

/-- Other ways lead where they led, or nowhere as before. -/
theorem getAt?_assignAt_apart (h : Apart way other) (new v : Toml) :
    getAt? other (assignAt way new v).2 = getAt? other v := by
  induction way generalizing other v with
  | nil => exact absurd List.nil_prefix h.1
  | cons key rest ih =>
    cases other with
    | nil => exact absurd List.nil_prefix h.2
    | cons key' rest' =>
      by_cases hv : IsTable v
      · obtain ⟨entries, rfl⟩ := hv
        rw [assignAt_table]
        by_cases hkey : key' = key
        · subst hkey
          rw [getAt?_put, ih (apart_cons.1 h), getAt?_table]
          cases hfound : Dict.find? entries key' with
          | some x => rfl
          | none =>
            -- in a new table the other way leads nowhere either, for it does not end there
            cases rest' with
            | nil => exact absurd List.nil_prefix (apart_cons.1 h).2
            | cons => rfl
        · rw [getAt?_table, Dict.find?_put, if_neg hkey, getAt?_table]
      · obtain ⟨e, he⟩ := assignAt_not_table hv key rest new
        rw [he]

/-- Tables stay in order. -/
theorem ordered_assignAt (hnew : Ordered new) (hv : Ordered v) (way : List String) :
    Ordered (assignAt way new v).2 := by
  induction way generalizing v with
  | nil => exact hnew
  | cons key rest ih =>
    by_cases htable : IsTable v
    · obtain ⟨entries, rfl⟩ := htable
      have hinner : Ordered ((Dict.find? entries key).getD empty) := by
        cases hfound : Dict.find? entries key with
        | some x => exact hv.arranged.find? hfound
        | none => exact .table .nil nofun
      rw [assignAt_table]
      obtain ⟨hsorted, hentries⟩ := hv.arranged.put key (ih hinner)
      exact .table hsorted hentries
    · obtain ⟨e, he⟩ := assignAt_not_table htable key rest new
      rw [he]
      exact hv

/-- Of two values set at the end of one way the last one counts. -/
theorem assignAt_assignAt (way : List String) (new newer v : Toml) :
    assignAt way newer (assignAt way new v).2 = assignAt way newer v := by
  induction way generalizing v with
  | nil => rfl
  | cons key rest ih =>
    by_cases hv : IsTable v
    · obtain ⟨entries, rfl⟩ := hv
      simp only [assignAt_table, Dict.find?_put, if_pos, Option.getD_some, ih, Dict.put_put]
    · obtain ⟨e, he⟩ := assignAt_not_table hv key rest new
      rw [he]

/-! ## Failures -/

/-- In an empty table every way can be made. -/
theorem assignAt_empty (way : List String) (new : Toml) : (assignAt way new empty).1 = .ok () := by
  induction way with
  | nil => rfl
  | cons key rest ih =>
    rw [empty, assignAt_table]
    exact ih

/-- A walk that fails has made nothing: it fails before it comes to a table that is missing. -/
theorem assignAt_error {e : SetError} (hv : Ordered v) (h : (assignAt way new v).1 = .error e) :
    (assignAt way new v).2 = v := by
  induction way generalizing v with
  | nil => cases h
  | cons key rest ih =>
    by_cases htable : IsTable v
    · obtain ⟨entries, rfl⟩ := htable
      obtain ⟨hsorted, hentries⟩ := hv.arranged
      rw [assignAt_table] at h ⊢
      dsimp only at h ⊢
      cases hfound : Dict.find? entries key with
      | some x =>
        rw [hfound, Option.getD_some] at h
        rw [Option.getD_some, ih (hentries _ (Dict.mem_of_find? hfound)) h,
          Dict.put_of_find? hsorted hfound]
      | none =>
        rw [hfound, Option.getD_none, assignAt_empty] at h
        cases h
    · obtain ⟨e', he⟩ := assignAt_not_table htable key rest new
      rw [he]

/-- Some proper beginning of the way leads to a value that is no table. -/
def Blocked (way : List String) (v : Toml) : Prop :=
  ∃ front, front <+: way ∧ front ≠ way ∧ ∃ x, getAt? front v = some x ∧ ¬ IsTable x

theorem not_blocked_nil (v : Toml) : ¬ Blocked [] v := by
  rintro ⟨front, hfront, hne, -⟩
  exact hne (List.prefix_nil.1 hfront)

theorem blocked_not_table (h : ¬ IsTable v) (key : String) (rest : List String) :
    Blocked (key :: rest) v :=
  ⟨[], List.nil_prefix, (List.cons_ne_nil _ _).symm, v, rfl, h⟩

theorem blocked_table {entries : List (String × Toml)} : Blocked (key :: rest) (table entries) ↔
    ∃ x, Dict.find? entries key = some x ∧ Blocked rest x := by
  constructor
  · rintro ⟨front, hfront, hne, y, hy, htable⟩
    cases front with
    | nil =>
      obtain rfl := Option.some.inj hy
      exact absurd (isTable_table entries) htable
    | cons key' front =>
      obtain ⟨rfl, hrest⟩ := List.cons_prefix_cons.1 hfront
      obtain ⟨x, hx, hy⟩ := Option.bind_eq_some_iff.1 hy
      exact ⟨x, hx, front, hrest, fun heq => hne (heq ▸ rfl), y, hy, htable⟩
  · rintro ⟨x, hx, front, hfront, hne, y, hy, htable⟩
    refine ⟨key :: front, List.cons_prefix_cons.2 ⟨rfl, hfront⟩, ?_, y, ?_, htable⟩
    · exact fun heq => hne (List.cons.inj heq).2
    · rw [getAt?_table, hx]
      exact hy

theorem fails_assignAt_iff :
    (∃ e, (assignAt way new v).1 = .error e) ↔ Blocked way v := by
  induction way generalizing v with
  | nil => exact ⟨nofun, fun h => absurd h (not_blocked_nil v)⟩
  | cons key rest ih =>
    by_cases hv : IsTable v
    · obtain ⟨entries, rfl⟩ := hv
      rw [blocked_table, assignAt_table]
      dsimp only
      cases hfound : Dict.find? entries key with
      | some x => simp [ih]
      | none => simp [assignAt_empty]
    · obtain ⟨e, he⟩ := assignAt_not_table hv key rest new
      rw [he]
      exact ⟨fun _ => blocked_not_table hv key rest, fun _ => ⟨e, rfl⟩⟩

theorem succeeds_assignAt_iff (way : List String) (new v : Toml) :
    (assignAt way new v).1 = .ok () ↔ ¬ Blocked way v := by
  have hfails : (∃ e, (assignAt way new v).1 = .error e) ↔ Blocked way v := fails_assignAt_iff
  rw [← hfails]
  cases (assignAt way new v).1 <;> simp

/-! ## Dotted keys -/

/-- What setting a dotted key does to a document. -/
structure Lawful (v : Toml) (key : String) : Prop where
  /-- The key then has the value. -/
  get : ∀ new v', v.assign key new = (.ok (), v') → v'.get? key = some new
  /-- Keys elsewhere have what they had. -/
  frame : ∀ new v', v.assign key new = (.ok (), v') →
    ∀ other, Apart (segments key) (segments other) → v'.get? other = v.get? other
  /-- Setting the key once more is as if it had not been set before. -/
  again : ∀ new v', v.assign key new = (.ok (), v') →
    ∀ newer, v'.assign key newer = v.assign key newer
  /-- Tables stay in order. -/
  ordered : ∀ new v', v.assign key new = (.ok (), v') → new.Ordered → v'.Ordered
  /-- A failure leaves the document as it was. -/
  atomic : ∀ new e v', v.assign key new = (.error e, v') → v' = v
  /-- The key has an empty part, or it leads through a value that is no table. -/
  fails_iff : ∀ new, (∃ e v', v.assign key new = (.error e, v')) ↔
    "" ∈ segments key ∨ Blocked (segments key) v

theorem assign_of_mem (h : "" ∈ segments key) (v new : Toml) :
    v.assign key new = (.error (.invalidKey key), v) :=
  if_pos (List.any_eq_true.2 ⟨_, h, rfl⟩)

theorem assign_of_not_mem (h : "" ∉ segments key) (v new : Toml) :
    v.assign key new = assignAt (segments key) new v := by
  refine if_neg fun hany => ?_
  obtain ⟨part, hpart, hempty⟩ := List.any_eq_true.1 hany
  obtain rfl : part = "" := by simpa using hempty
  exact h hpart

theorem lawful_assign (hv : Ordered v) (key : String) : Lawful v key := by
  by_cases hempty : "" ∈ segments key
  · have hfails := assign_of_mem hempty v
    have hnever : ∀ new v', v.assign key new ≠ (.ok (), v') := by
      intro new v' h
      rw [hfails] at h
      cases h
    refine ⟨fun new v' h => absurd h (hnever new v'), fun new v' h => absurd h (hnever new v'),
      fun new v' h => absurd h (hnever new v'), fun new v' h => absurd h (hnever new v'), ?_, ?_⟩
    · intro new e v' h
      rw [hfails] at h
      exact (Prod.mk.inj h).2.symm
    · exact fun new => ⟨fun _ => .inl hempty, fun _ => ⟨_, v, hfails new⟩⟩
  · have hassign := assign_of_not_mem hempty
    refine ⟨?_, ?_, ?_, ?_, ?_, ?_⟩
    · intro new v' h
      rw [hassign] at h
      have hget := getAt?_assignAt (congrArg Prod.fst h)
      rwa [h] at hget
    · intro new v' h other hapart
      have hother := getAt?_assignAt_apart hapart new v
      rwa [← hassign, h] at hother
    · intro new v' h newer
      have hagain := assignAt_assignAt (segments key) new newer v
      rwa [← hassign, ← hassign, ← hassign, h] at hagain
    · intro new v' h hnew
      have hordered := ordered_assignAt hnew hv (segments key)
      rwa [← hassign, h] at hordered
    · intro new e v' h
      rw [hassign] at h
      have hsame := assignAt_error hv (congrArg Prod.fst h)
      rwa [h] at hsame
    · intro new
      have hiff : (∃ e, (v.assign key new).1 = .error e) ↔ Blocked (segments key) v := by
        rw [hassign]
        exact fails_assignAt_iff
      constructor
      · rintro ⟨e, v', h⟩
        exact .inr (hiff.1 ⟨e, congrArg Prod.fst h⟩)
      · intro h
        obtain ⟨e, he⟩ := hiff.2 (h.resolve_left hempty)
        exact ⟨e, _, Prod.ext he rfl⟩

end RecordDesk.Toml
