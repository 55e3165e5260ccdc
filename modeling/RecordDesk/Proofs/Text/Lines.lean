import Mathlib.Algebra.GroupWithZero.Nat
import Mathlib.Data.List.TakeWhile
import RecordDesk.Text.Blank
import RecordDesk.Text.Search

/-
  Text cut into lines. Text that is put together from pieces, each with a line feed after it, has
  the lines of the pieces (`lines_ended`).
-/

namespace RecordDesk.Text

variable {splits : Char → Bool} {cs ds : List Char} {c : Char}

/-! ## Pieces -/

theorem splitChars_ne_nil (splits : Char → Bool) (cs : List Char) : splitChars splits cs ≠ [] := by
  cases cs with
  | nil => exact List.cons_ne_nil _ _
  | cons c cs =>
    rw [splitChars]
    split
    · exact List.cons_ne_nil _ _
    · split <;> exact List.cons_ne_nil _ _

theorem splitChars_cons_of_pos (h : splits c = true) (cs : List Char) :
    splitChars splits (c :: cs) = [] :: splitChars splits cs := by
  rw [splitChars, if_pos h]

theorem splitChars_cons_of_neg (h : ¬ splits c = true) (cs : List Char) :
    ∃ piece rest, splitChars splits cs = piece :: rest ∧
      splitChars splits (c :: cs) = (c :: piece) :: rest := by
  obtain ⟨piece, rest, hcs⟩ := List.exists_cons_of_ne_nil (splitChars_ne_nil splits cs)
  exact ⟨piece, rest, hcs, by rw [splitChars, hcs, if_neg h]⟩

/-- Where a character splits, the pieces before it and after it are cut on their own. -/
theorem splitChars_append (h : splits c = true) (cs ds : List Char) :
    splitChars splits (cs ++ c :: ds) = splitChars splits cs ++ splitChars splits ds := by
  induction cs with
  | nil => exact splitChars_cons_of_pos h ds
  | cons d cs ih =>
    by_cases hd : splits d = true
    · rw [List.cons_append, splitChars_cons_of_pos hd, ih, splitChars_cons_of_pos hd,
        List.cons_append]
    · obtain ⟨piece, rest, hcs, hcons⟩ := splitChars_cons_of_neg hd cs
      rw [hcons, List.cons_append, splitChars, if_neg hd, ih, hcs]
      rfl

/-- What does not split belongs to the last piece. -/
theorem splitChars_append_of_none (h : ∀ d ∈ ds, splits d = false) (cs : List Char) :
    ∃ front last, splitChars splits cs = front ++ [last] ∧
      splitChars splits (cs ++ ds) = front ++ [last ++ ds] := by
  induction cs with
  | nil =>
    refine ⟨[], [], rfl, ?_⟩
    change splitChars splits ds = [ds]
    induction ds with
    | nil => rfl
    | cons d ds ih =>
      have hd : ¬ splits d = true := by simp [h d List.mem_cons_self]
      rw [splitChars, if_neg hd, ih fun e he => h e (List.mem_cons_of_mem _ he)]
  | cons c cs ih =>
    obtain ⟨front, last, hcs, happend⟩ := ih
    by_cases hc : splits c = true
    · refine ⟨[] :: front, last, ?_, ?_⟩
      · rw [splitChars_cons_of_pos hc, hcs, List.cons_append]
      · rw [List.cons_append, splitChars_cons_of_pos hc, happend, List.cons_append]
    · cases front with
      | nil =>
        refine ⟨[], c :: last, ?_, ?_⟩
        · rw [splitChars, if_neg hc, hcs]; rfl
        · rw [List.cons_append, splitChars, if_neg hc, happend]; rfl
      | cons piece front =>
        refine ⟨(c :: piece) :: front, last, ?_, ?_⟩
        · rw [splitChars, if_neg hc, hcs]; rfl
        · rw [List.cons_append, splitChars, if_neg hc, happend]; rfl

theorem splitChars_of_none (h : ∀ c ∈ cs, splits c = false) : splitChars splits cs = [cs] := by
  obtain ⟨front, last, hnil, happend⟩ := splitChars_append_of_none h []
  obtain ⟨rfl, hlast⟩ := List.append_eq_singleton_iff.1 hnil.symm |>.resolve_right
    (fun h => List.cons_ne_nil _ _ h.2)
  obtain rfl := List.singleton_inj.1 hlast
  exact happend

/-- The pieces hold all characters but those that split. -/
theorem sum_length_splitChars (splits : Char → Bool) (cs : List Char) :
    ((splitChars splits cs).map List.length).sum + cs.countP splits = cs.length := by
  induction cs with
  | nil => rfl
  | cons c cs ih =>
    by_cases hc : splits c = true
    · rw [splitChars_cons_of_pos hc, List.countP_cons_of_pos hc]
      simp only [List.map_cons, List.sum_cons, List.length_nil, List.length_cons]
      omega
    · obtain ⟨piece, rest, hcs, hcons⟩ := splitChars_cons_of_neg hc cs
      rw [hcons, List.countP_cons_of_neg hc]
      rw [hcs] at ih
      simp only [List.map_cons, List.sum_cons, List.length_cons] at ih ⊢
      omega

/-! ## Lines -/

/-- The lines of text that a line feed follows. -/
def endedLines (cs : List Char) : List (List Char) :=
  (splitChars (· == '\n') cs).map withoutReturn

theorem length_withoutReturn_le (line : List Char) :
    (withoutReturn line).length ≤ line.length := by
  unfold withoutReturn
  split
  · rw [List.length_dropLast]
    exact Nat.sub_le _ _
  · exact Nat.le_refl _

theorem lines_ended (pieces : List (List Char)) :
    (lines (String.ofList (pieces.flatMap (· ++ ['\n'])))).map String.toList =
      pieces.flatMap endedLines := by
  have hsplit : splitChars (· == '\n') (pieces.flatMap (· ++ ['\n'])) =
      pieces.flatMap (splitChars (· == '\n')) ++ [[]] := by
    induction pieces with
    | nil => rfl
    | cons piece rest ih =>
      rw [List.flatMap_cons, List.append_assoc, List.singleton_append,
        splitChars_append (by rfl), ih, List.flatMap_cons, List.append_assoc]
  have hended : (pieces.flatMap (splitChars (· == '\n'))).map withoutReturn =
      pieces.flatMap endedLines := List.map_flatMap
  have hid : String.toList ∘ String.ofList = id := funext fun _ => String.toList_ofList
  unfold lines
  rw [String.toList_ofList, hsplit]
  simp only [List.dropLast_concat, List.getLast?_concat, Option.getD_some, List.isEmpty_nil,
    if_true, hended]
  rw [List.map_map, hid, List.map_id]

/-- A line is what is left of it, and a carriage return or nothing. -/
theorem exists_withoutReturn (line : List Char) : ∃ more, withoutReturn line ++ more = line := by
  unfold withoutReturn
  split
  · next h =>
    obtain ⟨front, rfl⟩ := List.getLast?_eq_some_iff.1 h
    exact ⟨['\r'], by rw [List.dropLast_concat]⟩
  · exact ⟨[], List.append_nil line⟩

/-- The lines of text, as lists of characters. -/
def charLines (cs : List Char) : List (List Char) := (lines (String.ofList cs)).map String.toList

theorem charLines_eq (cs : List Char) :
    charLines cs = (splitChars (· == '\n') cs).dropLast.map withoutReturn ++
      [(splitChars (· == '\n') cs).getLast?.getD []].filter (!·.isEmpty) := by
  have hid : String.toList ∘ String.ofList = id := funext fun _ => String.toList_ofList
  unfold charLines lines
  rw [String.toList_ofList, List.map_map, hid, List.map_id]
  cases (splitChars (· == '\n') cs).getLast?.getD [] <;> simp

/-- Behind a line feed the lines start afresh. -/
theorem charLines_ended (cs ds : List Char) :
    charLines (cs ++ '\n' :: ds) = endedLines cs ++ charLines ds := by
  have hsplit : splitChars (· == '\n') (cs ++ '\n' :: ds) =
      splitChars (· == '\n') cs ++ splitChars (· == '\n') ds := splitChars_append (by rfl) cs ds
  obtain ⟨front, last, hds⟩ : ∃ front last, splitChars (· == '\n') ds = front ++ [last] := by
    have hnone : ∀ d ∈ [], (d == '\n') = false := nofun
    obtain ⟨front, last, hds, -⟩ := splitChars_append_of_none hnone ds
    exact ⟨front, last, hds⟩
  rw [charLines_eq, charLines_eq, hsplit, hds, ← List.append_assoc, List.dropLast_concat,
    List.dropLast_concat, List.getLast?_concat, List.getLast?_concat, List.map_append,
    List.append_assoc]
  rfl

/-- The text is empty or ends in a line feed. -/
def Ended (cs : List Char) : Prop := cs = [] ∨ cs.getLast? = some '\n'

instance (cs : List Char) : Decidable (Ended cs) := inferInstanceAs (Decidable (_ ∨ _))

theorem charLines_append (h : Ended cs) (ds : List Char) :
    charLines (cs ++ ds) = charLines cs ++ charLines ds := by
  rcases h with rfl | h
  · rfl
  · obtain ⟨front, rfl⟩ := List.getLast?_eq_some_iff.1 h
    rw [List.append_assoc, List.singleton_append, charLines_ended, charLines_ended,
      List.append_assoc]
    rfl

/-- Text without a line feed is one line, or none if it is empty. -/
theorem charLines_of_none (h : '\n' ∉ cs) : charLines cs = ([cs].filter (!·.isEmpty)) := by
  have hnone : ∀ c ∈ cs, (c == '\n') = false := fun c hc =>
    beq_eq_false_iff_ne.2 (ne_of_mem_of_not_mem hc h)
  rw [charLines_eq, splitChars_of_none hnone]
  cases cs <;> rfl

theorem endedLines_of_none (h : '\n' ∉ cs) : endedLines cs = [withoutReturn cs] := by
  have hnone : ∀ c ∈ cs, (c == '\n') = false := fun c hc =>
    beq_eq_false_iff_ne.2 (ne_of_mem_of_not_mem hc h)
  rw [endedLines, splitChars_of_none hnone, List.map_singleton]

/-! ## Blanks -/

/-- Only the blanks in front of a character that is none go. -/
theorem dropBlank_append (h : isBlank c = false) (cs ds : List Char) :
    dropBlank (cs ++ c :: ds) = dropBlank cs ++ c :: ds := by
  induction cs with
  | nil => rw [List.nil_append, dropBlank, List.dropWhile_cons_of_neg (by simp [h])]; rfl
  | cons d cs ih =>
    by_cases hd : isBlank d = true
    · rw [List.cons_append, dropBlank, List.dropWhile_cons_of_pos hd, dropBlank,
        List.dropWhile_cons_of_pos hd]
      exact ih
    · rw [List.cons_append, dropBlank, List.dropWhile_cons_of_neg hd, dropBlank,
        List.dropWhile_cons_of_neg hd, List.cons_append]

theorem dropBlank_cons (h : isBlank c = false) (cs : List Char) : dropBlank (c :: cs) = c :: cs :=
  List.dropWhile_cons_of_neg (by simp [h])

theorem dropBlankEnd_concat (h : isBlank c = false) (cs : List Char) :
    dropBlankEnd (cs ++ [c]) = cs ++ [c] := by
  rw [dropBlankEnd, List.reverse_append, List.reverse_singleton, List.singleton_append,
    List.dropWhile_cons_of_neg (by simp [h]), List.reverse_cons, List.reverse_reverse]

/-- Behind a character that is no blank, nothing more is dropped. -/
theorem dropBlank_append_of_ne_nil (h : dropBlank cs ≠ []) (ds : List Char) :
    dropBlank (cs ++ ds) = dropBlank cs ++ ds := by
  unfold dropBlank at h ⊢
  rw [List.dropWhile_append, if_neg (by simpa using h)]

theorem dropBlank_eq_nil_of_append (h : dropBlank (cs ++ ds) = []) : dropBlank cs = [] := by
  refine Decidable.byContradiction fun hne => ?_
  rw [dropBlank_append_of_ne_nil hne] at h
  exact hne (List.append_eq_nil_iff.1 h).1

theorem dropBlank_append_of_eq_nil (h : dropBlank cs = []) (ds : List Char) :
    dropBlank (cs ++ ds) = dropBlank ds := by
  unfold dropBlank at h ⊢
  rw [List.dropWhile_append, if_pos (by simpa using h)]

theorem length_dropBlank_le (cs : List Char) : (dropBlank cs).length ≤ cs.length :=
  (List.dropWhile_sublist _).length_le

theorem length_dropBlankEnd_le (cs : List Char) : (dropBlankEnd cs).length ≤ cs.length := by
  rw [dropBlankEnd, List.length_reverse]
  have h := (List.dropWhile_sublist (l := cs.reverse) isBlank).length_le
  rwa [List.length_reverse] at h

/-- The blanks around a text that has none are dropped. -/
theorem trim_around {front back : List Char} (hfront : ∀ c ∈ front, isBlank c = true)
    (hback : ∀ c ∈ back, isBlank c = true) (hcs : ∀ c ∈ cs, isBlank c = false) :
    trim (String.ofList (front ++ (cs ++ back))) = String.ofList cs := by
  rw [trim, String.toList_ofList, dropBlank_append_of_eq_nil (List.dropWhile_eq_nil_iff.2 hfront)]
  rcases List.eq_nil_or_concat cs with rfl | ⟨start, last, rfl⟩
  · rw [List.nil_append, dropBlank, List.dropWhile_eq_nil_iff.2 hback]
    rfl
  · rw [List.concat_eq_append] at hcs ⊢
    have hstart : dropBlank (start ++ [last] ++ back) = start ++ [last] ++ back := by
      obtain ⟨c, rest, hc⟩ := List.exists_cons_of_ne_nil (List.concat_ne_nil last start)
      rw [hc] at hcs ⊢
      exact dropBlank_cons (hcs c List.mem_cons_self) _
    have hlast : isBlank last = false := hcs last (by simp)
    rw [hstart, dropBlankEnd, List.reverse_append,
      List.dropWhile_append_of_pos fun c hc => hback c (List.mem_reverse.1 hc)]
    exact congrArg String.ofList (dropBlankEnd_concat hlast start)

end RecordDesk.Text
