import Mathlib.Data.List.Nodup
import RecordDesk.Json.Written
import RecordDesk.Record.Basic

/-
  A value that was read is read again when it is written down (`value?_settled`): its objects have
  no name twice, so every field finds the place that it stands in.
-/

namespace RecordDesk

namespace Written

theorem ofValues_eq (items : List Value) : ofValues items = items.map ofValue := by
  induction items with
  | nil => rfl
  | cons v rest ih => rw [ofValues, ih, List.map_cons]

theorem ofFields_eq (fields : List (String × Value)) :
    ofFields fields = fields.map fun field => (field.1, ofValue field.2) := by
  induction fields with
  | nil => rfl
  | cons field rest ih => rw [ofFields, ih, List.map_cons]

theorem eq_null_of_value? {w : Written} (h : w.value? = some .null) : w = null := by
  cases w with
  | null => rfl
  | arr items =>
    obtain ⟨vs, -, heq⟩ := Option.map_eq_some_iff.1 h
    cases heq
  | obj fields =>
    obtain ⟨fs, -, heq⟩ := Option.map_eq_some_iff.1 h
    cases heq
  | _ => cases h

/-- The value is read as it is when it is written down. -/
def Settled (v : Value) : Prop := (ofValue v).value? = some v

/-- Fields with names of their own, whose values are read as they are. -/
structure SettledFields (fields : List (String × Value)) : Prop where
  nodup : (fields.map Prod.fst).Nodup
  values : ∀ field ∈ fields, Settled field.2

theorem SettledFields.putField {fields : List (String × Value)} (h : SettledFields fields)
    (name : String) {v : Value} (hv : Settled v) :
    SettledFields (Value.putField name v fields) where
  nodup := Value.nodup_putField name v h.nodup
  values field hfield := by
    rcases Value.mem_putField hfield with rfl | hfield
    · exact hv
    · exact h.values field hfield

/-- Settled fields, written down, are put behind those that are there already. -/
theorem fields?_ofFields {done fields : List (String × Value)}
    (hnodup : ((done ++ fields).map Prod.fst).Nodup) (h : ∀ field ∈ fields, Settled field.2) :
    fields? done (ofFields fields) = some (done ++ fields) := by
  induction fields generalizing done with
  | nil => rw [List.append_nil]; rfl
  | cons field rest ih =>
    obtain ⟨name, v⟩ := field
    have hsplit : done ++ (name, v) :: rest = done ++ [(name, v)] ++ rest := by simp
    have hname : name ∉ done.map Prod.fst := by
      rw [List.map_append, List.map_cons] at hnodup
      exact fun hmem => (List.nodup_middle.1 hnodup).notMem (List.mem_append_left _ hmem)
    have hv : (ofValue v).value? = some v := h _ List.mem_cons_self
    rw [ofFields, fields?, hv, hsplit]
    rw [hsplit] at hnodup
    change fields? (Value.putField name v done) (ofFields rest) = _
    rw [Value.putField_of_not_mem hname]
    exact ih hnodup fun field hfield => h field (List.mem_cons_of_mem _ hfield)

mutual

/-- What is read is settled. -/
theorem settled_of_value? : ∀ {w : Written} {v : Value}, w.value? = some v → Settled v
  | .null, _, h => Option.some.inj h ▸ rfl
  | .bool _, _, h => Option.some.inj h ▸ rfl
  | .int _, _, h => Option.some.inj h ▸ rfl
  | .float _, _, h => Option.some.inj h ▸ rfl
  | .str _, _, h => Option.some.inj h ▸ rfl
  | .arr items, v, h => by
    obtain ⟨vs, hvs, rfl⟩ := Option.map_eq_some_iff.1 h
    exact Option.map_eq_some_iff.2 ⟨vs, settled_of_values? hvs, rfl⟩
  | .obj fields, v, h => by
    obtain ⟨fs, hfs, rfl⟩ := Option.map_eq_some_iff.1 h
    have hsettled := settled_of_fields? hfs ⟨List.nodup_nil, fun _ h => absurd h List.not_mem_nil⟩
    exact Option.map_eq_some_iff.2 ⟨fs, fields?_ofFields hsettled.nodup hsettled.values, rfl⟩

/-- Items that are read are settled, one by one. -/
theorem settled_of_values? : ∀ {ws : List Written} {vs : List Value}, values? ws = some vs →
    values? (ofValues vs) = some vs
  | [], _, h => Option.some.inj h ▸ rfl
  | w :: rest, _, h => by
    obtain ⟨v, hv, vs, hvs, heq⟩ : ∃ v, w.value? = some v ∧ ∃ vs, values? rest = some vs ∧
        _ := by simpa only [values?, Option.bind_eq_bind, Option.bind_eq_some_iff] using h
    obtain rfl := Option.some.inj heq
    have hv' : (ofValue v).value? = some v := settled_of_value? hv
    rw [ofValues, values?, hv', settled_of_values? hvs]
    rfl

/-- Fields that are read are settled. -/
theorem settled_of_fields? : ∀ {ws : List (String × Written)} {done fields : List (String × Value)},
    fields? done ws = some fields → SettledFields done → SettledFields fields
  | [], _, _, h, hdone => Option.some.inj h ▸ hdone
  | (name, w) :: rest, done, fields, h, hdone => by
    obtain ⟨v, hv, hrest⟩ := Option.bind_eq_some_iff.1 h
    exact settled_of_fields? hrest (hdone.putField name (settled_of_value? hv))

end

/-- An object that is read has no name twice. -/
theorem nodup_of_value? {w : Written} {fields : List (String × Value)}
    (h : w.value? = some (.obj fields)) : (fields.map Prod.fst).Nodup := by
  cases w with
  | obj ws =>
    obtain ⟨fs, hfs, heq⟩ := Option.map_eq_some_iff.1 h
    obtain rfl := Value.obj.inj heq
    exact (settled_of_fields? hfs ⟨List.nodup_nil, fun _ h => absurd h List.not_mem_nil⟩).nodup
  | arr items =>
    obtain ⟨vs, -, heq⟩ := Option.map_eq_some_iff.1 h
    cases heq
  | _ => cases h

end Written

end RecordDesk
