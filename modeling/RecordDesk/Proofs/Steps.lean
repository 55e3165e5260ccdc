import Mathlib.Data.List.Forall2

/-
  Steps taken one after another: what they keep, and what is known of each of them when all of them
  could have failed but have succeeded.
-/

namespace RecordDesk

variable {ε α β σ : Type}

/-- What every step keeps, in view of the items before it, holds when all steps are done. -/
theorem foldl_done {step : σ → α → σ} {motive : List α → σ → Prop} {items : List α}
    (hstep : ∀ done a rest s, items = done ++ a :: rest → motive done s →
      motive (done ++ [a]) (step s a))
    {s : σ} (hs : motive [] s) : motive items (items.foldl step s) := by
  have upto : ∀ rest done s, items = done ++ rest → motive done s →
      motive items (rest.foldl step s) := by
    intro rest
    induction rest with
    | nil =>
      intro done s hsplit hs
      rw [hsplit, List.append_nil]
      exact hs
    | cons a rest ih =>
      intro done s hsplit hs
      exact ih (done ++ [a]) (step s a) (by simpa using hsplit) (hstep done a rest s hsplit hs)
  exact upto items [] s rfl hs

/-- What two kinds of steps keep between them holds when all steps are done on either side. -/
theorem foldl_related {τ : Type} {step : σ → α → σ} {step' : τ → α → τ} {motive : σ → τ → Prop}
    {items : List α}
    (hstep : ∀ a ∈ items, ∀ s t, motive s t → motive (step s a) (step' t a)) {s : σ} {t : τ}
    (h : motive s t) : motive (items.foldl step s) (items.foldl step' t) := by
  induction items generalizing s t with
  | nil => exact h
  | cons a rest ih =>
    exact ih (fun b hb => hstep b (List.mem_cons_of_mem _ hb)) (hstep a List.mem_cons_self s t h)

theorem bind_eq_ok {x : Except ε α} {f : α → Except ε β} {b : β} :
    x >>= f = .ok b ↔ ∃ a, x = .ok a ∧ f a = .ok b := by
  cases x with
  | ok a =>
    constructor
    · intro h; exact ⟨a, rfl, h⟩
    · rintro ⟨_, ⟨⟩, h⟩; exact h
  | error e =>
    constructor
    · intro h; cases h
    · rintro ⟨_, ⟨⟩, _⟩

theorem bind_eq_some {x : Option α} {f : α → Option β} {b : β} :
    x >>= f = some b ↔ ∃ a, x = some a ∧ f a = some b :=
  Option.bind_eq_some_iff

theorem bind_eq_error {x : Except ε α} {f : α → Except ε β} {e : ε} :
    x >>= f = .error e ↔ x = .error e ∨ ∃ a, x = .ok a ∧ f a = .error e := by
  cases x with
  | ok a =>
    constructor
    · intro h; exact .inr ⟨a, rfl, h⟩
    · rintro (⟨⟨⟩⟩ | ⟨_, ⟨⟩, h⟩); exact h
  | error e' =>
    constructor
    · intro h; exact .inl (Except.error.inj h ▸ rfl)
    · rintro (⟨⟨⟩⟩ | ⟨_, ⟨⟩, _⟩); rfl

theorem exists_of_isOk {x : Except ε α} (h : x.isOk = true) : ∃ a, x = .ok a := by
  cases x with
  | ok a => exact ⟨a, rfl⟩
  | error e => cases h

theorem exists_of_any {x : Except ε α} {p : α → Bool} (h : x.toOption.any p = true) :
    ∃ a, x = .ok a ∧ p a = true := by
  cases x with
  | ok a => exact ⟨a, rfl, h⟩
  | error e => cases h

/-- A check of every item has passed exactly if it passes for each. -/
theorem forM_eq_ok {items : List α} {check : α → Except ε Unit} :
    items.forM check = .ok () ↔ ∀ a ∈ items, check a = .ok () := by
  induction items with
  | nil => exact ⟨fun _ _ h => absurd h List.not_mem_nil, fun _ => rfl⟩
  | cons a rest ih =>
    change check a >>= (fun _ => rest.forM check) = .ok () ↔ _
    rw [bind_eq_ok]
    constructor
    · rintro ⟨⟨⟩, ha, hrest⟩ b hb
      rcases List.mem_cons.1 hb with rfl | hb
      · exact ha
      · exact ih.1 hrest b hb
    · intro h
      exact ⟨(), h a List.mem_cons_self, ih.2 fun b hb => h b (List.mem_cons_of_mem _ hb)⟩

/-- Everything on the right has something on the left that it belongs to. -/
theorem exists_of_forall₂ {R : α → β → Prop} {items : List α} {others : List β}
    (h : List.Forall₂ R items others) {b : β} (hb : b ∈ others) : ∃ a ∈ items, R a b := by
  induction h with
  | nil => cases hb
  | cons hab _ ih =>
    rcases List.mem_cons.1 hb with rfl | hb
    · exact ⟨_, List.mem_cons_self, hab⟩
    · obtain ⟨a, ha, hab⟩ := ih hb
      exact ⟨a, List.mem_cons_of_mem _ ha, hab⟩

/-- Every item has given its answer exactly if each gives it. -/
theorem mapM_eq_ok {f : α → Except ε β} {items : List α} {answers : List β} :
    items.mapM f = .ok answers ↔ List.Forall₂ (fun a b => f a = .ok b) items answers := by
  induction items generalizing answers with
  | nil =>
    rw [List.forall₂_nil_left_iff]
    exact ⟨fun h => (Except.ok.inj h).symm, fun h => h ▸ rfl⟩
  | cons a rest ih =>
    rw [List.mapM_cons, bind_eq_ok, List.forall₂_cons_left_iff]
    constructor
    · rintro ⟨b, hb, h⟩
      obtain ⟨bs, hbs, heq⟩ := bind_eq_ok.1 h
      exact ⟨b, bs, hb, ih.1 hbs, (Except.ok.inj heq).symm⟩
    · rintro ⟨b, bs, hb, hbs, rfl⟩
      exact ⟨b, hb, bind_eq_ok.2 ⟨bs, ih.2 hbs, rfl⟩⟩

/-- Every item has an answer exactly if each has one, and these are the answers. -/
theorem mapM_eq_some {f : α → Option β} {items : List α} {answers : List β} :
    items.mapM f = some answers ↔ List.Forall₂ (fun a b => f a = some b) items answers := by
  induction items generalizing answers with
  | nil =>
    rw [List.forall₂_nil_left_iff]
    exact ⟨fun h => (Option.some.inj h).symm, fun h => h ▸ rfl⟩
  | cons a rest ih =>
    rw [List.mapM_cons, List.forall₂_cons_left_iff]
    constructor
    · intro h
      obtain ⟨b, hb, h⟩ := Option.bind_eq_some_iff.1 h
      obtain ⟨bs, hbs, heq⟩ := Option.bind_eq_some_iff.1 h
      exact ⟨b, bs, hb, ih.1 hbs, (Option.some.inj heq).symm⟩
    · rintro ⟨b, bs, hb, hbs, rfl⟩
      exact Option.bind_eq_some_iff.2 ⟨b, hb, Option.bind_eq_some_iff.2 ⟨bs, ih.2 hbs, rfl⟩⟩

/-- What every step keeps, in view of the items before it, holds when all steps have succeeded. -/
theorem foldlM_ok {step : σ → α → Except ε σ} {motive : List α → σ → Prop} {items : List α}
    (hstep : ∀ done a s s', motive done s → step s a = .ok s' → motive (done ++ [a]) s')
    {s s' : σ} (hs : motive [] s) (h : items.foldlM step s = .ok s') : motive items s' := by
  have upto : ∀ rest done s, items = done ++ rest → motive done s →
      rest.foldlM step s = .ok s' → motive items s' := by
    intro rest
    induction rest with
    | nil =>
      intro done s hsplit hs h
      obtain rfl : s = s' := Except.ok.inj h
      rw [hsplit, List.append_nil]
      exact hs
    | cons a rest ih =>
      intro done s hsplit hs h
      rw [List.foldlM_cons] at h
      obtain ⟨mid, hmid, hrest⟩ := bind_eq_ok.1 h
      exact ih (done ++ [a]) mid (by simpa using hsplit) (hstep done a s mid hs hmid) hrest
  exact upto items [] s rfl hs h

/-- What every step keeps holds when none has failed. -/
theorem foldlM_some {step : σ → α → Option σ} {motive : σ → Prop} {items : List α}
    (hstep : ∀ a ∈ items, ∀ s s', motive s → step s a = some s' → motive s')
    {s s' : σ} (hs : motive s) (h : items.foldlM step s = some s') : motive s' := by
  induction items generalizing s with
  | nil => exact Option.some.inj h ▸ hs
  | cons a rest ih =>
    rw [List.foldlM_cons] at h
    obtain ⟨mid, hmid, hrest⟩ := bind_eq_some.1 h
    exact ih (fun b hb => hstep b (List.mem_cons_of_mem _ hb))
      (hstep a List.mem_cons_self s mid hs hmid) hrest

/-- Steps that succeed or fail by their item alone all succeed exactly if each item lets them. -/
theorem exists_foldlM_iff {step : σ → α → Except ε σ} {passes : α → Prop} {items : List α}
    (hstep : ∀ s, ∀ a ∈ items, (∃ s', step s a = .ok s') ↔ passes a) (s : σ) :
    (∃ s', items.foldlM step s = .ok s') ↔ ∀ a ∈ items, passes a := by
  induction items generalizing s with
  | nil => exact ⟨fun _ _ h => absurd h List.not_mem_nil, fun _ => ⟨s, rfl⟩⟩
  | cons a rest ih =>
    have hrest := ih fun s b hb => hstep s b (List.mem_cons_of_mem _ hb)
    have hfirst := hstep s a List.mem_cons_self
    rw [List.foldlM_cons, List.forall_mem_cons]
    constructor
    · rintro ⟨s', h⟩
      obtain ⟨mid, hmid, h⟩ := bind_eq_ok.1 h
      exact ⟨hfirst.1 ⟨mid, hmid⟩, (hrest mid).1 ⟨s', h⟩⟩
    · rintro ⟨ha, h⟩
      obtain ⟨mid, hmid⟩ := hfirst.2 ha
      obtain ⟨s', h⟩ := (hrest mid).2 h
      exact ⟨s', bind_eq_ok.2 ⟨mid, hmid, h⟩⟩

/-- Steps that need an answer for their item fail with the first item that has none. -/
theorem foldlM_eq_error {f : α → Except ε β} {g : σ → α → β → σ} {items : List α} {s : σ}
    {e : ε} : items.foldlM (fun s a => do return g s a (← f a)) s = .error e ↔
      ∃ before a after, items = before ++ a :: after ∧ (∀ b ∈ before, ∃ y, f b = .ok y) ∧
        f a = .error e := by
  induction items generalizing s with
  | nil =>
    constructor
    · intro h; cases h
    · rintro ⟨before, a, after, h, -⟩
      exact absurd h (List.append_ne_nil_of_right_ne_nil _ (List.cons_ne_nil _ _)).symm
  | cons first rest ih =>
    rw [List.foldlM_cons, bind_eq_error]
    constructor
    · rintro (h | ⟨mid, hmid, h⟩)
      · rcases bind_eq_error.1 h with h | ⟨y, -, h⟩
        · exact ⟨[], first, rest, rfl, nofun, h⟩
        · cases h
      · obtain ⟨y, hy, -⟩ := bind_eq_ok.1 hmid
        obtain ⟨before, a, after, rfl, hbefore, ha⟩ := ih.1 h
        exact ⟨first :: before, a, after, rfl, List.forall_mem_cons.2 ⟨⟨y, hy⟩, hbefore⟩, ha⟩
    · rintro ⟨before, a, after, hsplit, hbefore, ha⟩
      cases before with
      | nil =>
        obtain ⟨rfl, rfl⟩ := List.cons_eq_cons.1 hsplit
        exact .inl (bind_eq_error.2 (.inl ha))
      | cons head before =>
        obtain ⟨rfl, rfl⟩ := List.cons_eq_cons.1 hsplit
        obtain ⟨⟨y, hy⟩, hbefore⟩ := List.forall_mem_cons.1 hbefore
        exact .inr ⟨_, bind_eq_ok.2 ⟨y, hy, rfl⟩, ih.2 ⟨before, a, after, rfl, hbefore, ha⟩⟩

/-- What is known of every failing step is known of the failure. -/
theorem foldlM_error {step : σ → α → Except ε σ} {motive : ε → Prop} {items : List α}
    (hstep : ∀ s a e, step s a = .error e → motive e) {s : σ} {e : ε}
    (h : items.foldlM step s = .error e) : motive e := by
  induction items generalizing s with
  | nil => cases h
  | cons a rest ih =>
    rw [List.foldlM_cons] at h
    rcases bind_eq_error.1 h with ha | ⟨mid, -, hrest⟩
    · exact hstep s a e ha
    · exact ih hrest

end RecordDesk
