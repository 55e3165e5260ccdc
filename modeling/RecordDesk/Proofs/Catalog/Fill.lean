import RecordDesk.Validation
import RecordDesk.Proofs.Decimal.Text
import RecordDesk.Proofs.Text.Replace

/-
  Messages with several parameters. Parameters are meant to be filled in at once (`fillAtOnce`):
  the template is scanned from left to right, and what comes from a parameter is not scanned again.
  `resolve` fills them in one after another. One more parameter keeps the two equal exactly if it
  finds its placeholder where the template has it and nowhere else, or stands for it
  (`resolve_concat_iff`), so a message with one parameter is always right (`message_at_once`), but
  of two the first can name the second (`not_at_once_range`).
-/

namespace RecordDesk.Catalog

open Text

/-! ## Filling in at once -/

/-- The parameter whose placeholder the text starts with. -/
def hole? (params : List String) (cs : List Char) : Option (String × Nat) :=
  params.zipIdx.find? fun entry => (placeholder entry.2).toList.isPrefixOf cs

/-- Fills in the placeholders of a template from left to right; `skip` characters belong to the
placeholder just filled in and are passed over. -/
def scan (params : List String) : Nat → List Char → List Char
  | _, [] => []
  | skip + 1, _ :: cs => scan params skip cs
  | 0, c :: cs =>
    match hole? params (c :: cs) with
    | some (param, i) => param.toList ++ scan params ((placeholder i).toList.length - 1) cs
    | none => c :: scan params 0 cs

/-- The template with each of its placeholders filled in, all other text unchanged. -/
def fillAtOnce (template : String) (params : List String) : String :=
  String.ofList (scan params 0 template.toList)

/-! ## Placeholders -/

/-- What follows the opening brace of a placeholder. -/
def closing (i : Nat) : List Char := Nat.toDigits 10 i ++ ['\x7d']

theorem toList_placeholder (i : Nat) : (placeholder i).toList = '\x7b' :: closing i := by
  have hdigits : (toString i).toList = Nat.toDigits 10 i := Nat.toList_repr
  rw [placeholder, String.toList_append, String.toList_append, hdigits]
  rfl

theorem brace_notMem_closing (i : Nat) : '\x7b' ∉ closing i := by
  intro hmem
  rcases List.mem_append.1 hmem with hmem | hmem
  · exact absurd (Decimal.toDigits_digits i _ hmem) (by decide)
  · exact absurd (List.mem_singleton.1 hmem) (by decide)

theorem takeWhile_closing (i : Nat) (xs : List Char) :
    (closing i ++ xs).takeWhile Char.isDigit = Nat.toDigits 10 i := by
  rw [closing, List.append_assoc, List.takeWhile_append_of_pos (Decimal.toDigits_digits i),
    List.singleton_append, List.takeWhile_cons_of_neg (by decide), List.append_nil]

/-- No placeholder is the start of another one. -/
theorem eq_of_prefix_placeholder {i j : Nat} {xs : List Char}
    (h : (placeholder i).toList <+: (placeholder j).toList ++ xs) : i = j := by
  obtain ⟨ys, hys⟩ := h
  rw [toList_placeholder, toList_placeholder, List.cons_append, List.cons_append] at hys
  have hdigits := congrArg (List.takeWhile Char.isDigit) (List.cons.inj hys).2
  rw [takeWhile_closing, takeWhile_closing] at hdigits
  rw [← Nat.ofDigitChars_ten_toDigits (n := i), hdigits, Nat.ofDigitChars_ten_toDigits]

section Scan

variable {params : List String} {param : String} {i : Nat} {c : Char} {cs front : List Char}

theorem of_hole?_eq_some (h : hole? params cs = some (param, i)) :
    params[i]? = some param ∧ (placeholder i).toList <+: cs := by
  rw [hole?] at h
  have hstart := List.find?_some h
  exact ⟨List.mem_zipIdx_iff_getElem?.1 (List.mem_of_find?_eq_some h),
    List.isPrefixOf_iff_prefix.1 hstart⟩

theorem hole?_placeholder (h : params[i]? = some param) (rest : List Char) :
    hole? params ((placeholder i).toList ++ rest) = some (param, i) := by
  cases hhole : hole? params ((placeholder i).toList ++ rest) with
  | none =>
    have hmem : (param, i) ∈ params.zipIdx := List.mem_zipIdx_iff_getElem?.2 h
    have hstart : (placeholder i).toList.isPrefixOf ((placeholder i).toList ++ rest) = true :=
      List.isPrefixOf_iff_prefix.2 (List.prefix_append _ _)
    rw [hole?] at hhole
    exact absurd hstart (List.find?_eq_none.1 hhole (param, i) hmem)
  | some entry =>
    obtain ⟨q, j⟩ := entry
    obtain ⟨hq, hstart⟩ := of_hole?_eq_some hhole
    obtain rfl := eq_of_prefix_placeholder hstart
    rw [Option.some.inj (hq.symm.trans h)]

/-- The placeholder of one of the parameters. -/
def IsPlaceholder (params : List String) (mark : List Char) : Prop :=
  ∃ i, i < params.length ∧ mark = (placeholder i).toList

theorem scan_skip (params : List String) (n : Nat) (cs : List Char) :
    scan params n cs = scan params 0 (cs.drop n) := by
  induction cs generalizing n with
  | nil => cases n <;> rfl
  | cons c cs ih =>
    cases n with
    | zero => rfl
    | succ n => exact ih n

/-- A placeholder gives way to its parameter. -/
theorem scan_placeholder (h : params[i]? = some param) (rest : List Char) :
    scan params 0 ((placeholder i).toList ++ rest) = param.toList ++ scan params 0 rest := by
  have hhole := hole?_placeholder h rest
  rw [toList_placeholder, List.cons_append] at hhole ⊢
  rw [scan, hhole]
  dsimp only
  rw [scan_skip, toList_placeholder, List.length_cons, Nat.add_sub_cancel, List.drop_left]

theorem scan_text (h : ∀ mark, IsPlaceholder params mark → ¬ mark <+: c :: cs) :
    scan params 0 (c :: cs) = c :: scan params 0 cs := by
  have hhole : hole? params (c :: cs) = none := by
    rw [Option.eq_none_iff_forall_ne_some]
    rintro ⟨q, i⟩ hsome
    obtain ⟨hq, hstart⟩ := of_hole?_eq_some hsome
    exact h _ ⟨i, (List.getElem?_eq_some_iff.1 hq).1, rfl⟩ hstart
  rw [scan, hhole]

/-- No placeholder starts in text without an opening brace. -/
theorem scan_apart (h : '\x7b' ∉ front) (cs : List Char) :
    scan params 0 (front ++ cs) = front ++ scan params 0 cs := by
  induction front with
  | nil => rfl
  | cons d front ih =>
    obtain ⟨hne, hfront⟩ := not_or.1 fun hmem => h (List.mem_cons.2 hmem)
    rw [List.cons_append, List.cons_append, scan_text, ih hfront]
    rintro mark ⟨i, -, rfl⟩
    rw [toList_placeholder]
    exact not_prefix_of_ne hne

/-- A placeholder without a parameter stays. -/
theorem scan_unfilled (h : params.length ≤ i) (rest : List Char) :
    scan params 0 ((placeholder i).toList ++ rest) =
      (placeholder i).toList ++ scan params 0 rest := by
  have hnone : ∀ mark, IsPlaceholder params mark → ¬ mark <+: (placeholder i).toList ++ rest := by
    rintro mark ⟨j, hj, rfl⟩ hstart
    rw [eq_of_prefix_placeholder hstart] at hj
    omega
  rw [toList_placeholder, List.cons_append] at hnone ⊢
  rw [scan_text hnone, scan_apart (brace_notMem_closing i), List.cons_append]

theorem occurrences_placeholder_of_ne {j : Nat} (h : j ≠ i) (rest : List Char) :
    occurrences (placeholder j).toList ((placeholder i).toList ++ rest) =
      occurrences (placeholder j).toList rest := by
  have hstart : ¬ (placeholder j).toList <+: (placeholder i).toList ++ rest := fun hstart =>
    h (eq_of_prefix_placeholder hstart)
  rw [toList_placeholder i, List.cons_append] at hstart ⊢
  rw [occurrences_keep hstart, toList_placeholder j, occurrences_apart (brace_notMem_closing i)]

/-- With one more parameter each of its placeholders in the template gives way. -/
theorem replaces_scan (params : List String) (param : String) (cs : List Char) :
    Replaces (placeholder params.length).toList param.toList
      (occurrences (placeholder params.length).toList cs) (scan params 0 cs)
      (scan (params ++ [param]) 0 cs) := by
  -- the cases of the longer scan: its placeholders are those of the shorter one and the new one
  induction cs using marks_cases (IsPlaceholder (params ++ [param])) with
  | hne mark hmark =>
    obtain ⟨i, -, rfl⟩ := hmark
    rw [toList_placeholder]
    exact List.cons_ne_nil _ _
  | hnil => exact .done
  | hmark mark rest hmark ih =>
    obtain ⟨i, hi, rfl⟩ := hmark
    rw [List.length_append, List.length_singleton] at hi
    rcases Nat.lt_succ_iff_lt_or_eq.1 hi with hi | rfl
    · have hold : params[i]? = some params[i] := List.getElem?_eq_getElem hi
      have hboth : (params ++ [param])[i]? = some params[i] := by
        rw [List.getElem?_append_left hi, hold]
      rw [occurrences_placeholder_of_ne (Nat.ne_of_gt hi), scan_placeholder hold,
        scan_placeholder hboth]
      exact ih.keep_all _
    · rw [scan_unfilled (Nat.le_refl _), scan_placeholder List.getElem?_concat_length]
      rw [toList_placeholder] at ih ⊢
      rw [occurrences_mark (brace_notMem_closing _)]
      exact ih.replace
  | hkeep c cs hnone ih =>
    have hlast : IsPlaceholder (params ++ [param]) (placeholder params.length).toList :=
      ⟨params.length, by rw [List.length_append]; exact Nat.lt_succ_self _, rfl⟩
    have hold : ∀ mark, IsPlaceholder params mark → ¬ mark <+: c :: cs := by
      rintro mark ⟨i, hi, rfl⟩
      exact hnone _ ⟨i, by rw [List.length_append]; exact Nat.lt_succ_of_lt hi, rfl⟩
    rw [occurrences_keep (hnone _ hlast), scan_text hold, scan_text hnone]
    exact ih.keep c

end Scan

/-! ## Filling in one after another -/

theorem fill_concat (template : String) (i : Nat) (params : List String) (param : String) :
    fill template i (params ++ [param]) =
      Text.replace (fill template i params) (placeholder (i + params.length)) param := by
  induction params generalizing template i with
  | nil => rfl
  | cons p params ih =>
    rw [List.cons_append, fill, ih, fill, List.length_cons, Nat.add_right_comm,
      Nat.add_assoc]

theorem resolve_nil (c : Catalog) (key : String) : c.resolve key [] = (c.get? key).getD key := rfl

theorem resolve_concat (c : Catalog) (key : String) (params : List String) (param : String) :
    c.resolve key (params ++ [param]) =
      Text.replace (c.resolve key params) (placeholder params.length) param := by
  rw [resolve, fill_concat, Nat.zero_add, resolve]

theorem fillAtOnce_nil (template : String) : fillAtOnce template [] = template := by
  have hscan : ∀ cs, scan [] 0 cs = cs := by
    intro cs
    induction cs with
    | nil => rfl
    | cons c cs ih =>
      rw [scan_text, ih]
      rintro mark ⟨i, hi, -⟩
      exact absurd hi (Nat.not_lt_zero i)
  rw [fillAtOnce, hscan, String.ofList_toList]

/-- The parameters so far have brought no placeholder of the next one into the message: it stands
there as often as in the template. -/
def NoneAdded (c : Catalog) (key : String) (params : List String) : Prop :=
  occurrences (placeholder params.length).toList (c.resolve key params).toList =
    occurrences (placeholder params.length).toList ((c.get? key).getD key).toList

/-- Where the parameters so far are filled in as if at once, one more is exactly if it is the text
of its own placeholder, or those before it have brought no further one. -/
theorem resolve_concat_iff {c : Catalog} {key : String} {params : List String}
    (h : c.resolve key params = fillAtOnce ((c.get? key).getD key) params) (param : String) :
    c.resolve key (params ++ [param]) =
        fillAtOnce ((c.get? key).getD key) (params ++ [param]) ↔
      param = placeholder params.length ∨ NoneAdded c key params := by
  have hreplaces := replaces_scan params param ((c.get? key).getD key).toList
  rw [toList_placeholder] at hreplaces
  have hiff := hreplaces.eq_all_iff (brace_notMem_closing _)
  rw [← toList_placeholder, String.toList_inj] at hiff
  rw [resolve_concat, NoneAdded, h, Text.replace, fillAtOnce, fillAtOnce, String.toList_ofList,
    String.ofList_inj]
  exact eq_comm.trans (hiff.trans (or_congr_right eq_comm))

/-- Parameters, as many as there are, are filled in as if at once exactly if each is the text of its
own placeholder or finds no more of them than the template has. -/
theorem resolve_at_once_iff (c : Catalog) (key : String) (params : List String) :
    (∀ ps, ps <+: params → c.resolve key ps = fillAtOnce ((c.get? key).getD key) ps) ↔
      ∀ ps p, ps ++ [p] <+: params → p = placeholder ps.length ∨ NoneAdded c key ps := by
  constructor
  · intro h ps p hps
    exact (resolve_concat_iff (h ps ((List.prefix_append ps [p]).trans hps)) p).1 (h _ hps)
  · intro h ps hps
    induction ps using List.reverseRecOn with
    | nil => rw [resolve_nil, fillAtOnce_nil]
    | append_singleton ps p ih =>
      have hfront := ih ((List.prefix_append ps [p]).trans hps)
      exact (resolve_concat_iff hfront p).2 (h ps p hps)

/-- A catalog with a message of two parameters. -/
def rangeMessages : Catalog := empty.insert "range" "between {0} and {1}"

/-- The first parameter is taken for the place of the second. -/
theorem not_at_once_range :
    rangeMessages.resolve "range" ["{1}", "9"] ≠
      fillAtOnce ((rangeMessages.get? "range").getD "range") ["{1}", "9"] := by
  decide +kernel

/-- A single parameter finds the template as it is. -/
theorem resolve_at_once_of_length_le_one (c : Catalog) (key : String) {params : List String}
    (h : params.length ≤ 1) :
    c.resolve key params = fillAtOnce ((c.get? key).getD key) params := by
  match params, h with
  | [], _ => rw [resolve_nil, fillAtOnce_nil]
  | [p], _ =>
    have hnil : c.resolve key [] = fillAtOnce ((c.get? key).getD key) [] := by
      rw [resolve_nil, fillAtOnce_nil]
    exact (resolve_concat_iff hnil p).2 (.inr rfl)

end RecordDesk.Catalog

namespace RecordDesk.Validator

/-- The value of a rule is filled into its message as if at once, whatever its text. -/
theorem message_at_once (v : Validator) (r : Rule) :
    v.message r =
      let key := if r.message.isEmpty then r.defaultKey else r.message
      Catalog.fillAtOnce ((v.messages.get? key).getD key) (r.value.map Value.display).toList :=
  Catalog.resolve_at_once_of_length_le_one _ _ Option.length_toList_le

end RecordDesk.Validator
