import Mathlib.Data.List.Infix
import RecordDesk.Text.Search

/-
  Replacing a mark in a text. A mark starts with a character that does not come again in it, so its
  occurrences never overlap and each can give way or stay (`Replaces`). To replace a mark is to
  replace all of its occurrences (`replaces_all`), and where fewer of them give way the text is
  another one, unless the mark gives way to itself (`Replaces.eq_all_iff`).
-/

namespace RecordDesk.Text

/-- How many times a pattern stands in a text. -/
def occurrences (pattern : List Char) : List Char → Nat
  | [] => 0
  | c :: cs => (if pattern.isPrefixOf (c :: cs) then 1 else 0) + occurrences pattern cs

/-- So many occurrences of the pattern in the first text, apart from each other, have given way to
the replacement in the second. -/
inductive Replaces (pattern replacement : List Char) : Nat → List Char → List Char → Prop
  | done : Replaces pattern replacement 0 [] []
  | keep {n : Nat} {xs ys : List Char} (c : Char) (h : Replaces pattern replacement n xs ys) :
      Replaces pattern replacement n (c :: xs) (c :: ys)
  | replace {n : Nat} {xs ys : List Char} (h : Replaces pattern replacement n xs ys) :
      Replaces pattern replacement (n + 1) (pattern ++ xs) (replacement ++ ys)

section Marks

variable {first c : Char} {tail replacement xs ys zs : List Char} {n : Nat}

theorem replaceFrom_skip (pattern replacement xs : List Char) (n : Nat) :
    replaceFrom pattern replacement n xs = replaceFrom pattern replacement 0 (xs.drop n) := by
  induction xs generalizing n with
  | nil => cases n <;> rfl
  | cons x xs ih =>
    cases n with
    | zero => rfl
    | succ n => exact ih n

/-- The mark gives way where it stands. -/
theorem replaceFrom_mark (first : Char) (tail replacement xs : List Char) :
    replaceFrom (first :: tail) replacement 0 ((first :: tail) ++ xs) =
      replacement ++ replaceFrom (first :: tail) replacement 0 xs := by
  have hstart : (first :: tail).isPrefixOf (first :: (tail ++ xs)) = true :=
    List.isPrefixOf_iff_prefix.2 ⟨xs, rfl⟩
  rw [List.cons_append, replaceFrom, if_pos hstart, replaceFrom_skip, List.length_cons,
    Nat.add_sub_cancel, List.drop_left]

theorem replaceFrom_keep {pattern : List Char} (h : ¬ pattern <+: c :: xs) :
    replaceFrom pattern replacement 0 (c :: xs) = c :: replaceFrom pattern replacement 0 xs := by
  rw [replaceFrom, if_neg fun hstart => h (List.isPrefixOf_iff_prefix.1 hstart)]

theorem occurrences_keep {pattern : List Char} (h : ¬ pattern <+: c :: xs) :
    occurrences pattern (c :: xs) = occurrences pattern xs := by
  rw [occurrences, if_neg fun hstart => h (List.isPrefixOf_iff_prefix.1 hstart), Nat.zero_add]

theorem not_prefix_of_ne (h : first ≠ c) : ¬ first :: tail <+: c :: xs := fun hstart =>
  h (List.cons_prefix_cons.1 hstart).1

/-- No mark stands in characters without its first one. -/
theorem occurrences_apart {front : List Char} (h : first ∉ front) :
    occurrences (first :: tail) (front ++ xs) = occurrences (first :: tail) xs := by
  induction front with
  | nil => rfl
  | cons d front ih =>
    obtain ⟨hne, hfront⟩ := not_or.1 fun hmem => h (List.mem_cons.2 hmem)
    rw [List.cons_append, occurrences_keep (not_prefix_of_ne hne), ih hfront]

theorem occurrences_mark (htail : first ∉ tail) :
    occurrences (first :: tail) ((first :: tail) ++ xs) =
      occurrences (first :: tail) xs + 1 := by
  have hstart : (first :: tail).isPrefixOf (first :: (tail ++ xs)) = true :=
    List.isPrefixOf_iff_prefix.2 ⟨xs, rfl⟩
  rw [List.cons_append, occurrences, if_pos hstart, occurrences_apart htail, Nat.add_comm]

/-- A text is empty, a mark and a rest, or has one character more than a text, where no mark starts
at that character. -/
theorem marks_cases {motive : List Char → Prop} (IsMark : List Char → Prop)
    (hne : ∀ mark, IsMark mark → mark ≠ []) (hnil : motive [])
    (hmark : ∀ mark xs, IsMark mark → motive xs → motive (mark ++ xs))
    (hkeep : ∀ c xs, (∀ mark, IsMark mark → ¬ mark <+: c :: xs) → motive xs → motive (c :: xs)) :
    ∀ xs, motive xs := by
  intro xs
  induction hlength : xs.length using Nat.strong_induction_on generalizing xs with
  | h n ih =>
    subst hlength
    cases xs with
    | nil => exact hnil
    | cons c xs =>
      by_cases hstarts : ∃ mark, IsMark mark ∧ mark <+: c :: xs
      · obtain ⟨mark, hmem, rest, hrest⟩ := hstarts
        have hpos := List.length_pos_iff.2 (hne mark hmem)
        rw [← hrest]
        refine hmark mark rest hmem (ih rest.length ?_ rest rfl)
        rw [← hrest, List.length_append]
        omega
      · exact hkeep c xs (fun mark hmem hstart => hstarts ⟨mark, hmem, hstart⟩)
          (ih xs.length (Nat.lt_add_one _) xs rfl)

/-- The cases of a text with a single mark. -/
theorem mark_cases {motive : List Char → Prop} (first : Char) (tail : List Char) (hnil : motive [])
    (hmark : ∀ xs, motive xs → motive ((first :: tail) ++ xs))
    (hkeep : ∀ c xs, ¬ first :: tail <+: c :: xs → motive xs → motive (c :: xs)) :
    ∀ xs, motive xs := by
  refine marks_cases (· = first :: tail) ?_ hnil ?_ fun c xs h => hkeep c xs (h _ rfl)
  · rintro mark rfl
    exact List.cons_ne_nil _ _
  · rintro mark xs rfl
    exact hmark xs

/-- To replace a mark is to replace all of its occurrences. -/
theorem replaces_all (htail : first ∉ tail) (replacement xs : List Char) :
    Replaces (first :: tail) replacement (occurrences (first :: tail) xs) xs
      (replaceFrom (first :: tail) replacement 0 xs) := by
  induction xs using mark_cases first tail with
  | hnil => exact .done
  | hmark xs ih =>
    rw [occurrences_mark htail, replaceFrom_mark]
    exact .replace ih
  | hkeep c xs hstart ih =>
    rw [occurrences_keep hstart, replaceFrom_keep hstart]
    exact .keep c ih

namespace Replaces

theorem length_eq {pattern : List Char} (h : Replaces pattern replacement n xs ys) :
    ys.length + n * pattern.length = xs.length + n * replacement.length := by
  induction h with
  | done => rw [Nat.zero_mul, Nat.zero_mul]
  | keep c _ ih =>
    simp only [List.length_cons]
    omega
  | replace _ ih =>
    simp only [List.length_append, Nat.succ_mul]
    omega

/-- Replaced by itself a pattern stays. -/
theorem eq_of_self {pattern : List Char} (h : Replaces pattern pattern n xs ys) : ys = xs := by
  induction h with
  | done => rfl
  | keep c _ ih => rw [ih]
  | replace _ ih => rw [ih]

theorem keep_all {pattern : List Char} (front : List Char)
    (h : Replaces pattern replacement n xs ys) :
    Replaces pattern replacement n (front ++ xs) (front ++ ys) := by
  induction front with
  | nil => exact h
  | cons c front ih => exact .keep c ih

/-- A character that no mark starts at has stayed. -/
theorem of_keep (hstart : ¬ first :: tail <+: c :: xs)
    (h : Replaces (first :: tail) replacement n (c :: xs) ys) :
    ∃ zs, ys = c :: zs ∧ Replaces (first :: tail) replacement n xs zs := by
  generalize htext : c :: xs = text at h
  cases h with
  | done => cases htext
  | keep d h =>
    obtain ⟨rfl, rfl⟩ := List.cons.inj htext
    exact ⟨_, rfl, h⟩
  | replace h => exact absurd ⟨_, htext.symm⟩ hstart

theorem of_apart {front : List Char} (hfront : first ∉ front)
    (h : Replaces (first :: tail) replacement n (front ++ xs) ys) :
    ∃ zs, ys = front ++ zs ∧ Replaces (first :: tail) replacement n xs zs := by
  induction front generalizing ys with
  | nil => exact ⟨ys, rfl, h⟩
  | cons d front ih =>
    obtain ⟨hne, hfront⟩ := not_or.1 fun hmem => hfront (List.mem_cons.2 hmem)
    obtain ⟨zs, rfl, hzs⟩ := h.of_keep (not_prefix_of_ne hne)
    obtain ⟨rest, rfl, hrest⟩ := ih hfront hzs
    exact ⟨rest, rfl, hrest⟩

/-- A mark in front of a text has stayed or given way. -/
theorem of_mark (htail : first ∉ tail)
    (h : Replaces (first :: tail) replacement n ((first :: tail) ++ xs) ys) :
    (∃ zs, ys = (first :: tail) ++ zs ∧ Replaces (first :: tail) replacement n xs zs) ∨
      ∃ m zs, n = m + 1 ∧ ys = replacement ++ zs ∧
        Replaces (first :: tail) replacement m xs zs := by
  generalize htext : (first :: tail) ++ xs = text at h
  cases h with
  | done => cases htext
  | keep d h =>
    obtain ⟨rfl, rfl⟩ := List.cons.inj htext
    obtain ⟨zs, rfl, hzs⟩ := of_apart htail h
    exact .inl ⟨zs, rfl, hzs⟩
  | replace h =>
    obtain rfl := List.append_cancel_left htext
    exact .inr ⟨_, _, rfl, rfl, h⟩

/-- At most all occurrences have given way. -/
theorem le_occurrences (htail : first ∉ tail)
    (h : Replaces (first :: tail) replacement n xs ys) : n ≤ occurrences (first :: tail) xs := by
  induction xs using mark_cases first tail generalizing n ys with
  | hnil =>
    cases h with
    | done => exact Nat.le_refl 0
  | hmark xs ih =>
    rw [occurrences_mark htail]
    rcases h.of_mark htail with ⟨zs, -, h⟩ | ⟨m, zs, rfl, -, h⟩
    · exact Nat.le_succ_of_le (ih h)
    · exact Nat.succ_le_succ (ih h)
  | hkeep c xs hstart ih =>
    obtain ⟨zs, -, h⟩ := h.of_keep hstart
    rw [occurrences_keep hstart]
    exact ih h

/-- Where all occurrences have given way the text is the one with all of them replaced. -/
theorem eq_all (htail : first ∉ tail)
    (h : Replaces (first :: tail) replacement (occurrences (first :: tail) xs) xs ys) :
    ys = replaceFrom (first :: tail) replacement 0 xs := by
  induction xs using mark_cases first tail generalizing ys with
  | hnil =>
    cases h with
    | done => rfl
  | hmark xs ih =>
    rw [occurrences_mark htail] at h
    rw [replaceFrom_mark]
    rcases h.of_mark htail with ⟨zs, -, h⟩ | ⟨m, zs, hm, rfl, h⟩
    · exact absurd (h.le_occurrences htail) (Nat.not_succ_le_self _)
    · obtain rfl := Nat.succ.inj hm
      rw [ih h]
  | hkeep c xs hstart ih =>
    obtain ⟨zs, rfl, hzs⟩ := h.of_keep hstart
    rw [occurrences_keep hstart] at hzs
    rw [replaceFrom_keep hstart, ih hzs]

/-- A mark that has stayed cannot be taken for one that has given way: what comes behind is longer
or shorter by as much as the occurrences that have stayed, so both are of one length and equal. -/
theorem eq_of_append_eq (htail : first ∉ tail)
    (h : Replaces (first :: tail) replacement n xs ys)
    (heq : (first :: tail) ++ ys =
      replacement ++ replaceFrom (first :: tail) replacement 0 xs) :
    replacement = first :: tail := by
  have hys := h.length_eq
  have hall := (replaces_all htail replacement xs).length_eq
  have hlength := congrArg List.length heq
  rw [List.length_append, List.length_append] at hlength
  obtain ⟨k, hk⟩ := Nat.exists_eq_add_of_le (h.le_occurrences htail)
  rw [hk, Nat.add_mul, Nat.add_mul] at hall
  have hsame : (k + 1) * (first :: tail).length = (k + 1) * replacement.length := by
    rw [Nat.succ_mul, Nat.succ_mul]
    omega
  exact (List.append_inj heq (Nat.eq_of_mul_eq_mul_left (Nat.succ_pos k) hsame)).1.symm

/-- The text is the one with all occurrences replaced exactly if all of them have given way, or the
mark gives way to itself. -/
theorem eq_all_iff (htail : first ∉ tail) (h : Replaces (first :: tail) replacement n xs ys) :
    ys = replaceFrom (first :: tail) replacement 0 xs ↔
      replacement = first :: tail ∨ n = occurrences (first :: tail) xs := by
  constructor
  · intro heq
    rw [or_iff_not_imp_left]
    intro hne
    induction xs using mark_cases first tail generalizing n ys with
    | hnil =>
      cases h with
      | done => rfl
    | hmark xs ih =>
      rw [replaceFrom_mark] at heq
      rw [occurrences_mark htail]
      rcases h.of_mark htail with ⟨zs, rfl, hzs⟩ | ⟨m, zs, rfl, rfl, hzs⟩
      · exact absurd (hzs.eq_of_append_eq htail heq) hne
      · rw [ih hzs (List.append_cancel_left heq)]
    | hkeep c xs hstart ih =>
      obtain ⟨zs, rfl, hzs⟩ := h.of_keep hstart
      rw [replaceFrom_keep hstart] at heq
      rw [occurrences_keep hstart]
      exact ih hzs (List.cons.inj heq).2
  · rintro (rfl | rfl)
    · rw [h.eq_of_self, (replaces_all htail (first :: tail) xs).eq_of_self]
    · exact h.eq_all htail

end Replaces

end Marks

end RecordDesk.Text
