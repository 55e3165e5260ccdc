import RecordDesk.Catalog.Properties
import RecordDesk.Proofs.Dict
import RecordDesk.Proofs.Text.Lines

/-
  Properties text read piece by piece. Where the last line of each piece is not continued, the
  entries of the text are those of its pieces one after another (`ofProperties_ended`). The key of
  an entry is never longer than what it was read from, and it is shorter unless it stands there as
  it is (`splitEntry_append`, `unescape_eq_or_lt`).
-/

namespace RecordDesk.Catalog

open Text

variable {c : Char} {cs ds : List Char}

/-! ## Continued lines -/

theorem trailingBackslashes_append (h : c ≠ '\\') (cs ds : List Char) :
    trailingBackslashes (cs ++ c :: ds) = trailingBackslashes ds := by
  have hstop : ∀ front back : List Char,
      (front ++ c :: back).takeWhile (· == '\\') = front.takeWhile (· == '\\') := by
    intro front back
    induction front with
    | nil => exact List.takeWhile_cons_of_neg (by simpa using h)
    | cons d front ih =>
      rw [List.cons_append, List.takeWhile_cons, List.takeWhile_cons, ih]
  unfold trailingBackslashes
  rw [List.reverse_append, List.reverse_cons, List.append_assoc, List.singleton_append, hstop]

/-- The line is not continued, with the blanks in front of it or without them. -/
structure Closes (line : List Char) : Prop where
  whole : trailingBackslashes line % 2 = 0
  trimmed : trailingBackslashes (dropBlank line) % 2 = 0

theorem closes_append (hblank : isBlank c = false) (hc : c ≠ '\\')
    (hds : trailingBackslashes ds % 2 = 0) (cs : List Char) : Closes (cs ++ c :: ds) where
  whole := by rw [trailingBackslashes_append hc, hds]
  trimmed := by rw [dropBlank_append hblank, trailingBackslashes_append hc, hds]

/-- The part of a line that is joined to the line before. -/
def part (pending : Option (List Char)) (line : List Char) : List Char :=
  if pending.isSome then dropBlank line else line

theorem length_part_le (pending : Option (List Char)) (line : List Char) :
    (part pending line).length ≤ line.length := by
  unfold part
  split
  · exact length_dropBlank_le line
  · exact Nat.le_refl _

theorem joinLines_cons (pending : Option (List Char)) (line : List Char)
    (rest : List (List Char)) :
    joinLines pending (line :: rest) =
      if trailingBackslashes (part pending line) % 2 = 1 then
        joinLines (some (pending.getD [] ++ (part pending line).dropLast)) rest
      else (pending.getD [] ++ part pending line) :: joinLines none rest :=
  rfl

theorem joinLines_closes {last : List Char} (h : Closes last) (pending : Option (List Char))
    (rest : List (List Char)) :
    joinLines pending (last :: rest) =
      (pending.getD [] ++ part pending last) :: joinLines none rest := by
  have heven : ¬ trailingBackslashes (part pending last) % 2 = 1 := by
    unfold part
    split
    · rw [h.trimmed]; decide
    · rw [h.whole]; decide
  rw [joinLines_cons, if_neg heven]

/-- Behind a line that is not continued, lines are joined afresh. -/
theorem joinLines_append {last : List Char} (h : Closes last) (front rest : List (List Char))
    (pending : Option (List Char)) :
    joinLines pending (front ++ last :: rest) =
      joinLines pending (front ++ [last]) ++ joinLines none rest := by
  induction front generalizing pending with
  | nil =>
    rw [List.nil_append, List.nil_append, joinLines_closes h, joinLines_closes h]
    rfl
  | cons line front ih =>
    rw [List.cons_append, List.cons_append, joinLines_cons, joinLines_cons, ih, ih]
    split
    · rfl
    · rw [List.cons_append]

/-! ## Pieces of text -/

/-- The last line of the text is not continued. -/
def Complete (cs : List Char) : Prop :=
  ∃ front last, endedLines cs = front ++ [last] ∧ Closes last

/-- What is read of text that a line feed follows. -/
def entriesIn (cs : List Char) : List (String × String) :=
  (joinLines none (endedLines cs)).filterMap entryOf?

/-- The last line of text, from a character on that ends no line. -/
theorem endedLines_append (hc : c ≠ '\n') (hreturn : c ≠ '\r') (hds : '\n' ∉ ds) (hds' : '\r' ∉ ds)
    (cs : List Char) :
    ∃ front last, splitChars (· == '\n') cs = front ++ [last] ∧
      endedLines (cs ++ c :: ds) = front.map withoutReturn ++ [last ++ c :: ds] := by
  have hnone : ∀ d ∈ c :: ds, (d == '\n') = false := by
    intro d hd
    rw [beq_eq_false_iff_ne]
    rcases List.mem_cons.1 hd with rfl | hd
    · exact hc
    · exact ne_of_mem_of_not_mem hd hds
  obtain ⟨front, last, hcs, happend⟩ := splitChars_append_of_none hnone cs
  have hlast : withoutReturn (last ++ c :: ds) = last ++ c :: ds := by
    refine if_neg fun h => ?_
    have hmem : '\r' ∈ c :: ds := by
      rw [List.getLast?_append_of_ne_nil _ (List.cons_ne_nil _ _)] at h
      exact List.mem_of_getLast? h
    rcases List.mem_cons.1 hmem with h | h
    · exact hreturn h.symm
    · exact hds' h
  refine ⟨front, last, hcs, ?_⟩
  rw [endedLines, happend, List.map_append, List.map_singleton, hlast]

theorem complete_append (hblank : isBlank c = false) (hc : c ≠ '\\') (hds : '\n' ∉ ds)
    (hds' : '\r' ∉ ds) (heven : trailingBackslashes ds % 2 = 0) (cs : List Char) :
    Complete (cs ++ c :: ds) := by
  have hfeed : c ≠ '\n' := by rintro rfl; cases hblank
  have hreturn : c ≠ '\r' := by rintro rfl; cases hblank
  obtain ⟨front, last, -, hlines⟩ := endedLines_append hfeed hreturn hds hds' cs
  exact ⟨_, _, hlines, closes_append hblank hc heven last⟩

/-- Text without a line feed that is not continued is one entry at most. -/
theorem entriesIn_line (hblank : isBlank c = false) (hc : c ≠ '\\') (hcs : '\n' ∉ cs)
    (hds : '\n' ∉ ds) (hds' : '\r' ∉ ds) (heven : trailingBackslashes ds % 2 = 0) :
    entriesIn (cs ++ c :: ds) = (entryOf? (cs ++ c :: ds)).toList := by
  have hfeed : c ≠ '\n' := by rintro rfl; cases hblank
  have hreturn : c ≠ '\r' := by rintro rfl; cases hblank
  obtain ⟨front, last, hsplit, hlines⟩ := endedLines_append hfeed hreturn hds hds' cs
  have hnone : ∀ d ∈ cs, (d == '\n') = false := fun d hd =>
    beq_eq_false_iff_ne.2 (ne_of_mem_of_not_mem hd hcs)
  rw [splitChars_of_none hnone] at hsplit
  obtain ⟨rfl, hlast⟩ := List.append_eq_singleton_iff.1 hsplit.symm |>.resolve_right
    (fun h => List.cons_ne_nil _ _ h.2)
  obtain rfl := List.singleton_inj.1 hlast
  rw [entriesIn, hlines, List.map_nil, List.nil_append,
    joinLines_closes (closes_append hblank hc heven last), joinLines, List.filterMap_cons]
  cases h : entryOf? (last ++ c :: ds) <;> simp [part, h]

theorem joinLines_ended {pieces : List (List Char)} (h : ∀ piece ∈ pieces, Complete piece) :
    joinLines none (pieces.flatMap endedLines) =
      pieces.flatMap fun piece => joinLines none (endedLines piece) := by
  induction pieces with
  | nil => rfl
  | cons piece rest ih =>
    obtain ⟨front, last, hlines, hlast⟩ := h piece List.mem_cons_self
    rw [List.flatMap_cons, List.flatMap_cons, hlines, List.append_assoc, List.singleton_append,
      joinLines_append hlast, ih fun p hp => h p (List.mem_cons_of_mem _ hp)]

/-- Text of complete pieces, each with a line feed after it, is read piece by piece. -/
theorem ofProperties_ended {pieces : List (List Char)} (h : ∀ piece ∈ pieces, Complete piece) :
    ofProperties (String.ofList (pieces.flatMap (· ++ ['\n']))) =
      ⟨.ofList (pieces.flatMap entriesIn)⟩ := by
  simp only [ofProperties, lines_ended, joinLines_ended h, List.filterMap_flatMap]
  rfl

/-! ## Keys -/

/-- The text before the separator is not longer than what stands before a separator that nothing
escapes; it is as long only if there is none before. -/
theorem splitEntry_append (hc : c ≠ '\\') (escaped : Bool) (cs ds : List Char) :
    (splitEntry escaped (cs ++ [c]) = (cs ++ [c], []) ∧
      splitEntry escaped (cs ++ [c] ++ '=' :: ds) = (cs ++ [c], ds)) ∨
    (splitEntry escaped (cs ++ [c] ++ '=' :: ds)).1.length < (cs ++ [c]).length ∧
      (splitEntry escaped (cs ++ [c])).1.length < (cs ++ [c]).length := by
  have hunescaped : (c == '\\') = false := beq_eq_false_iff_ne.2 hc
  induction cs generalizing escaped with
  | nil =>
    cases escaped with
    | true => exact .inl ⟨rfl, rfl⟩
    | false =>
      by_cases hsep : c = '=' ∨ c = ':'
      · right
        simp [splitEntry, hsep]
      · left
        simp [splitEntry, hsep, hunescaped]
  | cons d cs ih =>
    cases escaped with
    | true =>
      simp only [List.cons_append, splitEntry, if_true, List.length_cons, Nat.succ_lt_succ_iff,
        Prod.mk.injEq, List.cons.injEq, true_and]
      have h := ih false
      simp only [Prod.ext_iff] at h
      exact h
    | false =>
      by_cases hsep : d = '=' ∨ d = ':'
      · right
        simp [splitEntry, hsep]
      · simp only [List.cons_append, splitEntry, hsep, if_false, Bool.false_eq_true,
          List.length_cons, Nat.succ_lt_succ_iff, Prod.mk.injEq, List.cons.injEq, true_and]
        have h := ih (d == '\\')
        simp only [Prod.ext_iff] at h
        exact h

theorem length_splitEntry_le (escaped : Bool) (cs : List Char) :
    (splitEntry escaped cs).1.length ≤ cs.length := by
  fun_induction splitEntry escaped cs <;> simp_all

theorem unescape_cons (hc : c ≠ '\\') (cs : List Char) : unescape (c :: cs) = c :: unescape cs := by
  rw [unescape]
  all_goals simp [hc]

theorem unescape_escape (hc : c ≠ 'u') (cs : List Char) :
    unescape ('\\' :: c :: cs) = simpleEscape c :: unescape cs := by
  rw [unescape]
  all_goals simp [hc]

theorem length_unicodeEscape_le (digits : List Char) :
    unicodeEscape digits = '\\' :: 'u' :: digits ∨ (unicodeEscape digits).length = 1 := by
  unfold unicodeEscape
  split
  · exact .inr rfl
  · exact .inl rfl

/-- Text is shorter without its escapes, unless they stand for themselves. -/
theorem unescape_eq_or_lt (cs : List Char) :
    unescape cs = cs ∨ (unescape cs).length < cs.length := by
  fun_induction unescape cs with
  | case1 => exact .inl rfl
  | case2 a b c d cs ih =>
    rcases length_unicodeEscape_le [a, b, c, d] with h | h
    · rcases ih with ih | ih
      · left; rw [h, ih]; rfl
      · right; rw [h]; simpa using ih
    · right
      rw [List.length_append, h]
      rcases ih with ih | ih
      · rw [ih]; simp only [List.length_cons]; omega
      · simp only [List.length_cons]; omega
  | case3 cs =>
    rcases length_unicodeEscape_le cs with h | h
    · exact .inl h
    · right; rw [h]; simp only [List.length_cons]; omega
  | case4 => right; decide
  | case5 c cs =>
    right
    rename_i ih
    rcases ih with ih | ih
    · simp only [List.length_cons, ih]; omega
    · simp only [List.length_cons]; omega
  | case6 c cs =>
    rename_i ih
    rcases ih with ih | ih
    · left; rw [ih]
    · right; simpa using ih

theorem length_unescape_le (cs : List Char) : (unescape cs).length ≤ cs.length := by
  rcases unescape_eq_or_lt cs with h | h
  · exact Nat.le_of_eq (congrArg List.length h)
  · exact Nat.le_of_lt h

/-! ## The size of keys -/

/-- The size of the keys of entries. -/
def keySize (entries : List (String × String)) : Nat :=
  (entries.map fun entry => entry.1.toList.length).sum

theorem keySize_append (entries others : List (String × String)) :
    keySize (entries ++ others) = keySize entries + keySize others := by
  rw [keySize, List.map_append, List.sum_append]
  rfl

theorem keySize_filterMap_cons (line : List Char) (rest : List (List Char)) :
    keySize ((line :: rest).filterMap entryOf?) =
      keySize (entryOf? line).toList + keySize (rest.filterMap entryOf?) := by
  rw [List.filterMap_cons]
  cases entryOf? line with
  | none => exact (Nat.zero_add _).symm
  | some entry => exact keySize_append [entry] _

theorem keySize_entry_le_split (line : List Char) :
    keySize (entryOf? line).toList ≤ (splitEntry false (dropBlank line)).1.length := by
  unfold entryOf?
  generalize dropBlank line = text
  cases text with
  | nil => exact Nat.zero_le _
  | cons c cs =>
    dsimp only
    split
    · exact Nat.zero_le _
    · split
      · exact Nat.zero_le _
      · rw [keySize, Option.toList_some, List.map_singleton, List.sum_singleton,
          String.toList_ofList]
        exact Nat.le_trans (length_unescape_le _) (length_dropBlankEnd_le _)

theorem keySize_entry_le (line : List Char) : keySize (entryOf? line).toList ≤ line.length :=
  calc keySize (entryOf? line).toList
      ≤ (splitEntry false (dropBlank line)).1.length := keySize_entry_le_split line
    _ ≤ (dropBlank line).length := length_splitEntry_le _ _
    _ ≤ line.length := length_dropBlank_le line

/-- The key of a line ends at a separator at the latest that nothing escapes. -/
theorem keySize_entry_append_le (hblank : isBlank c = false) (hc : c ≠ '\\') (cs ds : List Char) :
    keySize (entryOf? (cs ++ c :: '=' :: ds)).toList ≤ cs.length + 1 := by
  have hle := keySize_entry_le_split (cs ++ c :: '=' :: ds)
  rw [dropBlank_append hblank] at hle
  have hdrop := length_dropBlank_le cs
  have hsplit : (splitEntry false (dropBlank cs ++ c :: '=' :: ds)).1.length ≤
      (dropBlank cs).length + 1 := by
    have h := splitEntry_append hc false (dropBlank cs) ds
    rw [List.append_assoc, List.singleton_append, List.length_append, List.length_singleton] at h
    rcases h with ⟨-, h⟩ | ⟨h, -⟩
    · exact Nat.le_of_eq (by rw [h, List.length_append, List.length_singleton])
    · exact Nat.le_of_lt h
  omega

/-- Joining lines does not make their keys longer, and what follows the last separator that nothing
escapes is in no key. -/
theorem keySize_joinLines_le (hblank : isBlank c = false) (hc : c ≠ '\\')
    (heven : trailingBackslashes ds % 2 = 0) (cs : List Char) (front : List (List Char))
    (pending : Option (List Char)) :
    keySize ((joinLines pending (front ++ [cs ++ c :: '=' :: ds])).filterMap entryOf?) ≤
      (pending.getD []).length + (front.map List.length).sum + (cs.length + 1) := by
  induction front generalizing pending with
  | nil =>
    have hclose : Closes (cs ++ c :: '=' :: ds) := by
      have h := closes_append (c := '=') (by decide) (by decide) heven (cs ++ [c])
      rwa [List.append_assoc, List.singleton_append] at h
    obtain ⟨cs', hcs', hlast⟩ : ∃ cs' : List Char, cs'.length ≤ cs.length ∧
        part pending (cs ++ c :: '=' :: ds) = cs' ++ c :: '=' :: ds := by
      unfold part
      split
      · exact ⟨_, length_dropBlank_le cs, dropBlank_append hblank cs _⟩
      · exact ⟨cs, Nat.le_refl _, rfl⟩
    rw [List.nil_append, joinLines_closes hclose, hlast, ← List.append_assoc]
    have hle := keySize_entry_append_le hblank hc (pending.getD [] ++ cs') ds
    rw [keySize_filterMap_cons, joinLines]
    simp only [List.filterMap_nil, keySize, List.map_nil, List.sum_nil, List.length_append]
      at hle ⊢
    omega
  | cons line front ih =>
    have hline := length_part_le pending line
    rw [List.cons_append, joinLines_cons, List.map_cons, List.sum_cons]
    split
    · have h := ih (some (pending.getD [] ++ (part pending line).dropLast))
      rw [Option.getD_some, List.length_append, List.length_dropLast] at h
      omega
    · have h := ih none
      have hentry := keySize_entry_le (pending.getD [] ++ part pending line)
      rw [keySize_filterMap_cons]
      rw [List.length_append] at hentry
      simp only [Option.getD_none, List.length_nil] at h
      omega

/-! ## Messages -/

/-- The key of a message neither starts nor ends with a blank, starts no comment, and leaves the
separator behind it as it is. -/
structure Framed (key : List Char) : Prop where
  first : ∃ c ∈ key.head?, isBlank c = false ∧ c ≠ '#' ∧ c ≠ '!'
  last : ∃ c ∈ key.getLast?, isBlank c = false ∧ c ≠ '\\'

theorem framed_iff {key : List Char} : Framed key ↔
    (key.head?.any fun c => !isBlank c && c != '#' && c != '!') = true ∧
      (key.getLast?.any fun c => !isBlank c && c != '\\') = true := by
  simp only [Option.any_eq_true, Bool.and_eq_true, Bool.not_eq_true', bne_iff_ne, and_assoc]
  exact ⟨fun ⟨first, last⟩ => ⟨first, last⟩, fun ⟨first, last⟩ => ⟨first, last⟩⟩

instance (key : List Char) : Decidable (Framed key) := decidable_of_iff _ framed_iff.symm

/-- The key stands on one line, no separator in it is without a backslash, and its escapes stand for
themselves. -/
structure PlainKey (key : List Char) : Prop where
  oneLine : '\n' ∉ key
  unsplit : splitEntry false key = (key, [])
  unescaped : unescape key = key

instance (key : List Char) : Decidable (PlainKey key) :=
  decidable_of_iff ('\n' ∉ key ∧ splitEntry false key = (key, []) ∧ unescape key = key)
    ⟨fun ⟨oneLine, unsplit, unescaped⟩ => ⟨oneLine, unsplit, unescaped⟩,
      fun ⟨oneLine, unsplit, unescaped⟩ => ⟨oneLine, unsplit, unescaped⟩⟩

variable {key : List Char}

theorem Framed.eq_concat (h : Framed key) :
    ∃ cs c, key = cs ++ [c] ∧ isBlank c = false ∧ c ≠ '\\' := by
  obtain ⟨c, hlast, hblank, hc⟩ := h.last
  obtain ⟨cs, rfl⟩ := List.getLast?_eq_some_iff.1 hlast
  exact ⟨cs, c, rfl, hblank, hc⟩

/-- What a message may have behind the separator. -/
structure Tail (ds : List Char) : Prop where
  oneLine : '\n' ∉ ds
  noReturn : '\r' ∉ ds
  even : trailingBackslashes ds % 2 = 0

theorem complete_message (hds : Tail ds) (key : List Char) : Complete (key ++ '=' :: ds) :=
  complete_append (by decide) (by decide) hds.oneLine hds.noReturn hds.even key

/-- Keys do not grow when a message is read, and each line feed is lost. -/
theorem keySize_message_le (hkey : Framed key) (hds : Tail ds) :
    keySize (entriesIn (key ++ '=' :: ds)) + key.count '\n' ≤ key.length := by
  obtain ⟨cs, c, rfl, hblank, hc⟩ := hkey.eq_concat
  have hfeed : c ≠ '\n' := by rintro rfl; cases hblank
  have hreturn : c ≠ '\r' := by rintro rfl; cases hblank
  have hline : '\n' ∉ '=' :: ds := by simpa using hds.oneLine
  have hline' : '\r' ∉ '=' :: ds := by simpa using hds.noReturn
  obtain ⟨front, last, hcs, hlines⟩ := endedLines_append hfeed hreturn hline hline' cs
  have hsum := sum_length_splitChars (· == '\n') cs
  have hfront : ((front.map withoutReturn).map List.length).sum ≤ (front.map List.length).sum := by
    clear hcs hlines
    induction front with
    | nil => exact Nat.le_refl _
    | cons line front ih =>
      have hle := length_withoutReturn_le line
      simp only [List.map_cons, List.sum_cons]
      omega
  have hjoin := keySize_joinLines_le hblank hc hds.even last (front.map withoutReturn) none
  rw [hcs, List.map_append, List.sum_append, List.map_singleton, List.sum_singleton] at hsum
  rw [List.append_assoc, List.singleton_append, entriesIn, hlines, List.count_append,
    List.count_singleton, List.length_append, List.length_singleton]
  have hcount : cs.count '\n' = cs.countP (· == '\n') := rfl
  have hone : (c == '\n') = false := beq_eq_false_iff_ne.2 hfeed
  simp only [hone, Option.getD_none, List.length_nil, Bool.false_eq_true, if_false] at hjoin ⊢
  omega

/-- A message on one line is read as one entry at most. -/
theorem entriesIn_message (hkey : Framed key) (hline : '\n' ∉ key) (hds : Tail ds) :
    entriesIn (key ++ '=' :: ds) =
      (if (splitEntry false (key ++ '=' :: ds)).1.isEmpty then [] else
        [(String.ofList (unescape (dropBlankEnd (splitEntry false (key ++ '=' :: ds)).1)),
          String.ofList (unescape (dropBlank (splitEntry false (key ++ '=' :: ds)).2)))]) := by
  have hentries := entriesIn_line (c := '=') (by decide) (by decide) hline hds.oneLine hds.noReturn
    hds.even
  obtain ⟨c, hfirst, hblank, hhash, hmark⟩ := hkey.first
  obtain ⟨cs, rfl⟩ := List.head?_eq_some_iff.1 hfirst
  rw [hentries, entryOf?, List.cons_append, dropBlank_cons hblank]
  dsimp only
  rw [if_neg (by simp [hhash, hmark])]
  generalize splitEntry false (c :: (cs ++ '=' :: ds)) = entry
  obtain ⟨name, value⟩ := entry
  dsimp only
  split <;> rfl

/-- A plain key is read as it stands. -/
theorem entriesIn_plain (hkey : Framed key) (hplain : PlainKey key) (hds : Tail ds) :
    entriesIn (key ++ '=' :: ds) =
      [(String.ofList key, String.ofList (unescape (dropBlank ds)))] := by
  rw [entriesIn_message hkey hplain.oneLine hds]
  obtain ⟨cs, c, rfl, hblank, hc⟩ := hkey.eq_concat
  rcases splitEntry_append hc false cs ds with ⟨-, h⟩ | ⟨-, h⟩
  · rw [h, dropBlankEnd_concat hblank, hplain.unescaped, if_neg (by simp)]
  · rw [hplain.unsplit] at h
    exact absurd h (Nat.lt_irrefl _)

/-- A key that is not plain is not read, or is cut. -/
theorem keySize_message_lt (hkey : Framed key) (hplain : ¬ PlainKey key) (hds : Tail ds) :
    keySize (entriesIn (key ++ '=' :: ds)) < key.length := by
  by_cases hline : '\n' ∈ key
  · have hle := keySize_message_le hkey hds
    have hpos := List.count_pos_iff.2 hline
    omega
  · have hpos : 0 < key.length := by
      obtain ⟨cs, c, rfl, -⟩ := hkey.eq_concat
      simp
    rw [entriesIn_message hkey hline hds]
    split
    · exact hpos
    · rw [keySize, List.map_singleton, List.sum_singleton, String.toList_ofList]
      obtain ⟨cs, c, rfl, hblank, hc⟩ := hkey.eq_concat
      rcases splitEntry_append hc false cs ds with ⟨hunsplit, h⟩ | ⟨h, -⟩
      · rw [h, dropBlankEnd_concat hblank]
        exact (unescape_eq_or_lt _).resolve_left fun hunescaped =>
          hplain ⟨hline, hunsplit, hunescaped⟩
      · exact Nat.lt_of_le_of_lt
          (Nat.le_trans (length_unescape_le _) (length_dropBlankEnd_le _)) h

end RecordDesk.Catalog
