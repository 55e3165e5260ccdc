import RecordDesk.Proofs.Derive.Pass
import RecordDesk.Proofs.Formula.Defined

/-
  The fields of a formula, against the tree that it is. `Expr.At` says what stands where in a tree,
  and places are ordered from left to right. The references of an expression are its field nodes in
  this order (`Expr.lists_references`), so the fields of a formula are these, each where it stands
  first. They are all that the formula reads, and it has no number where one of them is blank
  (`fields_read`).
-/

namespace RecordDesk

namespace Formula

/-- An expression stands in a tree at a place: the number of the operand or argument to go to, one
for each step down. -/
inductive Expr.At : Expr → List Nat → Expr → Prop
  | here (e : Expr) : At e [] e
  | neg {e sub : Expr} {place : List Nat} (h : At e place sub) : At (.neg e) (0 :: place) sub
  | left {op : Operator} {left right sub : Expr} {place : List Nat} (h : At left place sub) :
      At (.binary op left right) (0 :: place) sub
  | right {op : Operator} {left right sub : Expr} {place : List Nat} (h : At right place sub) :
      At (.binary op left right) (1 :: place) sub
  | argument {f : Function} {args : List Expr} {i : Nat} {e sub : Expr} {place : List Nat}
      (hi : args[i]? = some e) (h : At e place sub) : At (.call f args) (i :: place) sub

/-! ## Names by place -/

/-- The names are those that stand somewhere, from left to right. -/
def Lists (names : List String) (stands : List Nat → String → Prop) : Prop :=
  ∃ placed : List (List Nat × String), placed.map Prod.snd = names ∧
    placed.Pairwise (fun a b => a.1 < b.1) ∧
    ∀ place name, (place, name) ∈ placed ↔ stands place name

namespace Lists

variable {names others : List String} {stands stands' : List Nat → String → Prop} {name : String}

theorem congr (h : Lists names stands)
    (hsame : ∀ place name, stands place name ↔ stands' place name) : Lists names stands' := by
  obtain ⟨placed, hnames, hsorted, hmem⟩ := h
  exact ⟨placed, hnames, hsorted, fun place name => (hmem place name).trans (hsame place name)⟩

theorem empty (h : ∀ place name, ¬ stands place name) : Lists [] stands :=
  ⟨[], rfl, .nil, fun place name => iff_of_false List.not_mem_nil (h place name)⟩

/-- What stands further to the right comes behind. -/
theorem append (h : Lists names stands) (h' : Lists others stands')
    (hleft : ∀ p a q b, stands p a → stands' q b → p < q) :
    Lists (names ++ others) fun place name => stands place name ∨ stands' place name := by
  obtain ⟨placed, rfl, hsorted, hmem⟩ := h
  obtain ⟨placed', rfl, hsorted', hmem'⟩ := h'
  refine ⟨placed ++ placed', List.map_append, List.pairwise_append.2 ⟨hsorted, hsorted', ?_⟩,
    fun place name => by rw [List.mem_append, hmem, hmem']⟩
  rintro ⟨p, a⟩ ha ⟨q, b⟩ hb
  exact hleft p a q b ((hmem p a).1 ha) ((hmem' q b).1 hb)

/-- The names one step further down. -/
theorem below (h : Lists names stands) (i : Nat) :
    Lists names fun place name => ∃ rest, place = i :: rest ∧ stands rest name := by
  obtain ⟨placed, rfl, hsorted, hmem⟩ := h
  refine ⟨placed.map fun entry => (i :: entry.1, entry.2), by simp, ?_, fun place name => ?_⟩
  · refine List.pairwise_map.2 (hsorted.imp fun {a b} hlt => ?_)
    exact List.cons_lt_cons_iff.2 (.inr ⟨rfl, hlt⟩)
  · simp only [List.mem_map, Prod.exists, Prod.mk.injEq, ← hmem]
    constructor
    · rintro ⟨rest, other, hin, rfl, rfl⟩
      exact ⟨rest, rfl, hin⟩
    · rintro ⟨rest, rfl, hin⟩
      exact ⟨rest, name, hin, rfl, rfl⟩

theorem mem_iff (h : Lists names stands) : name ∈ names ↔ ∃ place, stands place name := by
  obtain ⟨placed, rfl, -, hmem⟩ := h
  simp [← hmem]

/-- Of two names that are left, the one in front has a place before all places of the other. -/
theorem distinct (h : Lists names stands) :
    (Formula.distinct names).Pairwise fun a b =>
      ∃ place, stands place a ∧ ∀ other, stands other b → place < other := by
  obtain ⟨placed, rfl, hsorted, hmem⟩ := h
  simp only [← hmem]
  clear hmem
  induction placed with
  | nil => exact .nil
  | cons first rest ih =>
    obtain ⟨hfirst, hrest⟩ := List.pairwise_cons.1 hsorted
    rw [List.map_cons, Formula.distinct, List.pairwise_cons]
    -- a name that is left behind the first one is another one, so its places are in the rest
    have hin : ∀ {place name}, name ≠ first.2 → (place, name) ∈ first :: rest →
        (place, name) ∈ rest := by
      rintro place name hne hmem
      rcases List.mem_cons.1 hmem with rfl | hmem
      · exact absurd rfl hne
      · exact hmem
    constructor
    · intro name hname
      have hne : name ≠ first.2 := by simpa using (List.mem_filter.1 hname).2
      exact ⟨first.1, List.mem_cons_self, fun other hother => hfirst _ (hin hne hother)⟩
    · refine List.Pairwise.imp_of_mem ?_ ((ih hrest).filter _)
      rintro a b - hb ⟨place, hplace, hbefore⟩
      have hne : b ≠ first.2 := by simpa using (List.mem_filter.1 hb).2
      exact ⟨place, List.mem_cons_of_mem _ hplace, fun other hother =>
        hbefore other (hin hne hother)⟩

end Lists

namespace Expr

variable {e left right : Expr} {op : Operator} {f : Function} {args : List Expr}
  {place : List Nat} {name : String}

theorem at_number {x : Float} : ¬ At (.number x) place (.field name) := nofun

theorem at_field {text : String} :
    At (.field text) place (.field name) ↔ place = [] ∧ name = text := by
  constructor
  · rintro ⟨⟩
    exact ⟨rfl, rfl⟩
  · rintro ⟨rfl, rfl⟩
    exact .here _

theorem at_neg :
    At (.neg e) place (.field name) ↔ ∃ rest, place = 0 :: rest ∧ At e rest (.field name) := by
  constructor
  · rintro ⟨⟩
    exact ⟨_, rfl, ‹_›⟩
  · rintro ⟨rest, rfl, h⟩
    exact .neg h

theorem at_binary : At (.binary op left right) place (.field name) ↔
    (∃ rest, place = 0 :: rest ∧ At left rest (.field name)) ∨
      ∃ rest, place = 1 :: rest ∧ At right rest (.field name) := by
  constructor
  · rintro ⟨⟩
    · exact .inl ⟨_, rfl, ‹_›⟩
    · exact .inr ⟨_, rfl, ‹_›⟩
  · rintro (⟨rest, rfl, h⟩ | ⟨rest, rfl, h⟩)
    · exact .left h
    · exact .right h

theorem at_call : At (.call f args) place (.field name) ↔
    ∃ i e, args[i]? = some e ∧ ∃ rest, place = i :: rest ∧ At e rest (.field name) := by
  constructor
  · rintro ⟨⟩
    exact ⟨_, _, ‹_›, _, rfl, ‹_›⟩
  · rintro ⟨i, e, hi, rest, rfl, h⟩
    exact .argument hi h

mutual

/-- The references of an expression are its fields from left to right. -/
theorem lists_references :
    ∀ e : Expr, Lists e.references fun place name => At e place (.field name)
  | number x => .empty fun _ _ => at_number
  | field text => by
    refine ⟨[([], text)], rfl, List.pairwise_singleton _ _, fun place name => ?_⟩
    simp only [at_field, List.mem_singleton, Prod.mk.injEq]
  | neg e => ((lists_references e).below 0).congr fun _ _ => at_neg.symm
  | binary op left right => by
    refine Lists.congr (.append ((lists_references left).below 0)
      ((lists_references right).below 1) ?_) fun _ _ => at_binary.symm
    rintro p a q b ⟨p, rfl, -⟩ ⟨q, rfl, -⟩
    exact List.cons_lt_cons_iff.2 (.inl Nat.zero_lt_one)
  | call f args => by
    refine (lists_referencesOfAll args 0).congr fun place name => ?_
    simp only [at_call, Nat.zero_add]

/-- The references of arguments, numbered from some number on. -/
theorem lists_referencesOfAll : ∀ (args : List Expr) (first : Nat),
    Lists (referencesOfAll args) fun place name => ∃ i e, args[i]? = some e ∧
      ∃ rest, place = (first + i) :: rest ∧ At e rest (.field name)
  | [], _ => .empty fun _ _ => by simp
  | e :: args, first => by
    refine Lists.congr (.append ((lists_references e).below first)
      (lists_referencesOfAll args (first + 1)) ?_) fun place name => ?_
    · rintro p a q b ⟨p, rfl, -⟩ ⟨i, -, -, q, rfl, -⟩
      exact List.cons_lt_cons_iff.2 (.inl (by omega))
    · constructor
      · rintro (⟨rest, rfl, h⟩ | ⟨i, sub, hi, rest, rfl, h⟩)
        · exact ⟨0, e, rfl, rest, rfl, h⟩
        · exact ⟨i + 1, sub, hi, rest, by rw [Nat.add_assoc, Nat.add_comm 1 i], h⟩
      · rintro ⟨i, sub, hi, rest, rfl, h⟩
        cases i with
        | zero =>
          obtain rfl := Option.some.inj hi
          exact .inl ⟨rest, rfl, h⟩
        | succ i => exact .inr ⟨i, sub, hi, rest, by rw [Nat.add_assoc, Nat.add_comm 1 i], h⟩

end

end Expr

/-! ## Formulas -/

variable {f : Formula} {r : Record}

theorem lists_fields (f : Formula) :
    Lists f.expr.references fun place name => f.expr.At place (.field name) :=
  f.expr.lists_references

theorem nodup_fields (f : Formula) : f.fields.Nodup := by
  refine (lists_fields f).distinct.imp ?_
  rintro name _ ⟨place, hplace, hbefore⟩ rfl
  exact List.lt_irrefl place (hbefore place hplace)

/-- A formula has no number where one of its fields is blank. -/
theorem evaluate_ne_some_of_blank {name : String} (hname : name ∈ f.fields)
    (hblank : Value.isBlank (r.lookup name) = true) (x : Float) : f.evaluate r ≠ .ok (some x) := by
  intro h
  obtain ⟨v, y, hv, hy⟩ := numeric_of_evaluate h name hname
  rw [hv, not_isBlank_of_number? hy] at hblank
  cases hblank

/-- A calculation that gives no number leaves null. -/
theorem lookup_calculate_of_ne_some (pass : Plan.Pass) (c : Calculated)
    (h : ∀ x, c.formula.evaluate pass.working ≠ .ok (some x)) :
    (Plan.calculate pass c).working.lookup c.target = some .null := by
  rw [Plan.lookup_calculate_self, Plan.calculatedValue]
  split
  · next x hx => exact absurd hx (h x)
  · rfl
  · rfl

/-- A formula lists the fields in its tree, each once, and of two of them first the one that has a
place before all places of the other. Records on which these fields read alike give it the same
value, or the same fault. Where one of them is missing, null or empty it has no number, and what it
calculates becomes null. -/
theorem fields_read (f : Formula) :
    f.fields.Nodup ∧
    (∀ name, name ∈ f.fields ↔ ∃ place, f.expr.At place (.field name)) ∧
    (f.fields.Pairwise fun a b => ∃ place, f.expr.At place (.field a) ∧
      ∀ other, f.expr.At other (.field b) → place < other) ∧
    (∀ r s : Record, (∀ name ∈ f.fields, r.lookup name = s.lookup name) →
      f.evaluate r = f.evaluate s) ∧
    ∀ r : Record, ∀ name ∈ f.fields, r.lookup name ∈ [none, some .null, some (.str "")] →
      (∀ x, f.evaluate r ≠ .ok (some x)) ∧
      ∀ (result : ChangeSet) (target : String) (triggers : List String),
        (Plan.calculate ⟨r, result⟩ ⟨target, f, triggers⟩).working.lookup target = some .null := by
  refine ⟨nodup_fields f, fun name => ?_, (lists_fields f).distinct,
    fun r s => evaluate_congr, fun r name hname hblank => ?_⟩
  · exact mem_distinct.trans (lists_fields f).mem_iff
  · have hisBlank : Value.isBlank (r.lookup name) = true := by
      simp only [List.mem_cons, List.not_mem_nil, or_false] at hblank
      rcases hblank with h | h | h <;> rw [h] <;> rfl
    have hnone := evaluate_ne_some_of_blank hname hisBlank
    exact ⟨hnone, fun result target triggers =>
      lookup_calculate_of_ne_some ⟨r, result⟩ ⟨target, f, triggers⟩ hnone⟩

/-- Without the discount nothing is known of what is to be paid. -/
theorem fields_read_discount :
    ∃ f, parse "price * count - max(discount, price / 10)" = .ok f ∧
      f.fields = ["price", "count", "discount"] ∧
      ∀ x, f.evaluate (.ofList [("price", .int 30), ("COUNT", .int 2), ("discount", .str "")]) ≠
        .ok (some x) := by
  obtain ⟨f, hparse, hfields⟩ := exists_of_any
    (x := parse "price * count - max(discount, price / 10)")
    (p := fun f => f.fields == ["price", "count", "discount"]) (by decide +kernel)
  have hfields := beq_iff_eq.1 hfields
  have hblank : (Record.ofList [("price", .int 30), ("COUNT", .int 2),
      ("discount", .str "")]).lookup "discount" = some (.str "") := by rfl
  refine ⟨f, hparse, hfields, ((fields_read f).2.2.2.2 _ "discount" ?_ ?_).1⟩
  · rw [hfields]
    decide
  · rw [hblank]
    simp

end Formula

end RecordDesk
