import RecordDesk.Proofs.Catalog.Properties

/-
  Blank lines and comments of properties text. A blank line can be left out of any text. A comment
  that ends in an odd number of backslashes goes on with the next line, so it takes the entry after
  it away; it can be left out exactly if there is no such entry, or the message that it takes away
  is written again later or was there before (`ofProperties_without_iff`).
-/

namespace RecordDesk.Catalog

open Text

variable {line start before ending after : List Char} {rest : List (List Char)}

/-! ## Continuation -/

/-- Blanks in front do not count for what stands at the end. -/
theorem trailingBackslashes_dropBlank (line : List Char) :
    trailingBackslashes (dropBlank line) = trailingBackslashes line := by
  induction line with
  | nil => rfl
  | cons c cs ih =>
    by_cases hblank : isBlank c = true
    · have hc : c ≠ '\\' := by rintro rfl; cases hblank
      have hcons := trailingBackslashes_append hc [] cs
      rw [List.nil_append] at hcons
      rw [dropBlank, List.dropWhile_cons_of_pos hblank, hcons]
      exact ih
    · rw [dropBlank_cons (by simpa using hblank)]

theorem trailingBackslashes_part (pending : Option (List Char)) (line : List Char) :
    trailingBackslashes (part pending line) = trailingBackslashes line := by
  unfold part
  split
  · exact trailingBackslashes_dropBlank line
  · rfl

theorem closes_of_even (h : trailingBackslashes line % 2 = 0) : Closes line :=
  ⟨h, by rw [trailingBackslashes_dropBlank, h]⟩

/-- How the first line begins has no bearing on the others. -/
theorem tail_joinLines (pending other : Option (List Char)) (rest : List (List Char)) :
    (joinLines pending rest).tail = (joinLines other rest).tail := by
  induction rest generalizing pending other with
  | nil => rcases pending with _ | _ | _ <;> rcases other with _ | _ | _ <;> rfl
  | cons line rest ih =>
    rw [joinLines_cons, joinLines_cons, trailingBackslashes_part, trailingBackslashes_part]
    split
    · exact ih _ _
    · rfl

/-- What a line goes on with is the start of the next one; behind that the lines are the same. -/
theorem exists_joinLines_some (hstart : start ≠ []) (rest : List (List Char)) :
    ∃ more, joinLines (some start) rest = (start ++ more) :: (joinLines none rest).tail := by
  induction rest generalizing start with
  | nil =>
    obtain ⟨c, cs, rfl⟩ := List.exists_cons_of_ne_nil hstart
    exact ⟨[], by rw [List.append_nil]; rfl⟩
  | cons line rest ih =>
    rw [joinLines_cons, joinLines_cons, trailingBackslashes_part, trailingBackslashes_part,
      Option.getD_some]
    split
    · have hnext : start ++ (part (some start) line).dropLast ≠ [] := by simp [hstart]
      obtain ⟨more, hmore⟩ := ih hnext
      refine ⟨(part (some start) line).dropLast ++ more, ?_⟩
      rw [hmore, List.append_assoc, tail_joinLines]
    · exact ⟨part (some start) line, rfl⟩

/-! ## Blank lines and comments -/

/-- The line is blank, or its first character that is no blank makes it a comment. -/
def Inert (line : List Char) : Prop := ∀ c ∈ (dropBlank line).head?, c = '#' ∨ c = '!'

theorem inert_iff :
    Inert line ↔ ((dropBlank line).head?.all fun c => c == '#' || c == '!') = true := by
  simp [Inert, Option.all_eq_true]

instance (line : List Char) : Decidable (Inert line) := decidable_of_iff _ inert_iff.symm

theorem Inert.entryOf? (h : Inert line) : entryOf? line = none := by
  unfold Catalog.entryOf?
  unfold Inert at h
  cases hline : dropBlank line with
  | nil => rfl
  | cons c cs =>
    rw [hline] at h
    exact if_pos (h c rfl)

/-- What follows a comment on its line belongs to it. -/
theorem Inert.append (h : Inert line) (hline : dropBlank line ≠ []) (more : List Char) :
    Inert (line ++ more) := by
  unfold Inert at h ⊢
  rwa [dropBlank_append_of_ne_nil hline, List.head?_append_of_ne_nil _ hline]

/-- What stands in front of the end of a blank line or comment is one too. -/
theorem Inert.of_append {more : List Char} (h : Inert (line ++ more)) : Inert line := by
  unfold Inert at h ⊢
  by_cases hline : dropBlank line = []
  · rw [hline]
    exact nofun
  · rwa [dropBlank_append_of_ne_nil hline, List.head?_append_of_ne_nil _ hline] at h

theorem Inert.withoutReturn (h : Inert line) : Inert (withoutReturn line) := by
  obtain ⟨more, hmore⟩ := exists_withoutReturn line
  have hwhole : Inert (Text.withoutReturn line ++ more) := by rwa [hmore]
  exact hwhole.of_append

/-- A blank line does not end in a backslash. -/
theorem trailingBackslashes_of_blank (h : dropBlank line = []) :
    trailingBackslashes (Text.withoutReturn line) = 0 := by
  obtain ⟨more, hmore⟩ := exists_withoutReturn line
  have hwhole : dropBlank (Text.withoutReturn line ++ more) = [] := by rwa [hmore]
  rw [← trailingBackslashes_dropBlank, dropBlank_eq_nil_of_append hwhole]
  rfl

/-- A comment that goes on takes the next line away. -/
theorem joinLines_inert (h : Inert line) (rest : List (List Char)) :
    (joinLines none (line :: rest)).filterMap entryOf? =
      (if trailingBackslashes line % 2 = 1 then (joinLines none rest).tail
        else joinLines none rest).filterMap entryOf? := by
  rw [joinLines_cons, trailingBackslashes_part, Option.getD_none]
  split
  · next hodd =>
    -- the line ends in a backslash, and in front of it there is the mark of the comment
    obtain ⟨start, rfl⟩ : ∃ start, line = start ++ ['\\'] := by
      rcases List.eq_nil_or_concat line with rfl | ⟨start, c, rfl⟩
      · cases hodd
      · by_cases hc : c = '\\'
        · exact ⟨start, by rw [hc, List.concat_eq_append]⟩
        · rw [List.concat_eq_append, trailingBackslashes_append hc] at hodd
          cases hodd
    have hmark : dropBlank start ≠ [] := by
      intro hblank
      unfold Inert at h
      rw [dropBlank_append_of_eq_nil hblank] at h
      have := h '\\' rfl
      revert this
      decide
    have hstart : start ≠ [] := by rintro rfl; exact hmark rfl
    obtain ⟨more, hmore⟩ := exists_joinLines_some hstart rest
    have hpart : (part none (start ++ ['\\'])).dropLast = start := List.dropLast_concat
    have hcomment : Inert (start ++ more) := h.of_append.append hmark more
    rw [hpart, List.nil_append, hmore, List.filterMap_cons, hcomment.entryOf?]
  · have hpart : [] ++ part none line = line := rfl
    rw [hpart, List.filterMap_cons, h.entryOf?]

/-! ## Text -/

/-- The entries of text. -/
def entriesOf (cs : List Char) : List (String × String) :=
  (joinLines none (charLines cs)).filterMap entryOf?

theorem ofProperties_ofList (cs : List Char) :
    ofProperties (String.ofList cs) = ⟨.ofList (entriesOf cs)⟩ :=
  rfl

/-- The entry of the first line of text, as far as lines are joined. -/
def firstMessage? (cs : List Char) : Option (String × String) :=
  (joinLines none (charLines cs)).head?.bind entryOf?

/-- The entries of the other lines. -/
def laterMessages (cs : List Char) : List (String × String) :=
  (joinLines none (charLines cs)).tail.filterMap entryOf?

theorem entriesOf_eq (cs : List Char) :
    entriesOf cs = (firstMessage? cs).toList ++ laterMessages cs := by
  unfold entriesOf firstMessage? laterMessages
  cases joinLines none (charLines cs) with
  | nil => rfl
  | cons line rest =>
    rw [List.filterMap_cons, List.head?_cons, Option.bind_some, List.tail_cons]
    cases entryOf? line <;> rfl

/-- A line stands in text: what is before it is ended, and so is the line unless it is the last. -/
structure LineAt (before line ending after : List Char) : Prop where
  starts : Ended before
  oneLine : '\n' ∉ line
  ends : ending = ['\n'] ∨ ending = [] ∧ after = []

/-- A line that comes next does not continue one. -/
def Fresh (before : List Char) : Prop :=
  ∀ last ∈ (charLines before).getLast?, trailingBackslashes last % 2 = 0

instance (before : List Char) : Decidable (Fresh before) :=
  inferInstanceAs (Decidable (∀ last ∈ (charLines before).getLast?, _))

theorem Fresh.joinLines_append (h : Fresh before) (rest : List (List Char)) :
    joinLines none (charLines before ++ rest) =
      joinLines none (charLines before) ++ joinLines none rest := by
  unfold Fresh at h
  rcases List.eq_nil_or_concat (charLines before) with hnil | ⟨front, last, hlast⟩
  · rw [hnil]
    rfl
  · rw [List.concat_eq_append] at hlast
    rw [hlast] at h ⊢
    have hclose := closes_of_even (h last (by rw [List.getLast?_concat]; rfl))
    rw [List.append_assoc, List.singleton_append, Catalog.joinLines_append hclose]

theorem entriesOf_append (h : Ended before) (hfresh : Fresh before) (cs : List Char) :
    entriesOf (before ++ cs) = entriesOf before ++ entriesOf cs := by
  unfold entriesOf
  rw [charLines_append h, hfresh.joinLines_append, List.filterMap_append]

/-- The entries of text that starts with a blank line or a comment. -/
theorem entriesOf_inert (h : LineAt before line ending after) (hinert : Inert line) :
    entriesOf (line ++ ending ++ after) =
      if trailingBackslashes (withoutReturn line) % 2 = 1 then laterMessages after
      else entriesOf after := by
  rcases h.ends with rfl | ⟨rfl, rfl⟩
  · rw [List.append_assoc, List.singleton_append, entriesOf, charLines_ended,
      endedLines_of_none h.oneLine, List.singleton_append, joinLines_inert hinert.withoutReturn]
    split <;> rfl
  · have hnone : entriesOf line = [] := by
      rw [entriesOf, charLines_of_none h.oneLine]
      cases line with
      | nil => rfl
      | cons c cs =>
        have hjoin := joinLines_inert hinert []
        rw [List.filter_singleton]
        refine hjoin.trans ?_
        split <;> rfl
    rw [List.append_nil, List.append_nil, hnone]
    split <;> rfl

/-- Text reads the same without a blank line. It reads the same without a comment that does not
continue a line exactly if the comment does not end in an odd number of backslashes, or the line
that it goes on with would be no entry, or one whose key is written again later or had the same text
before. -/
theorem ofProperties_without_iff (h : LineAt before line ending after) (hfresh : Fresh before)
    (hinert : Inert line) :
    (dropBlank line = [] →
      ofProperties (String.ofList (before ++ (line ++ ending ++ after))) =
        ofProperties (String.ofList (before ++ after))) ∧
    (ofProperties (String.ofList (before ++ (line ++ ending ++ after))) =
        ofProperties (String.ofList (before ++ after)) ↔
      (trailingBackslashes (withoutReturn line) % 2 = 1 → ∀ key text,
        firstMessage? after = some (key, text) →
          key ∈ (laterMessages after).map Prod.fst ∨
            (ofProperties (String.ofList before)).get? key = some text)) := by
  simp only [ofProperties_ofList, entriesOf_append h.starts hfresh, entriesOf_inert h hinert]
  refine ⟨fun hblank => ?_, ?_⟩
  · rw [trailingBackslashes_of_blank hblank]
    rfl
  · split
    · next hodd =>
      rw [entriesOf_eq after, Catalog.mk.injEq, eq_comm]
      cases hfirst : firstMessage? after with
      | none => simp [hodd]
      | some entry =>
        obtain ⟨key, text⟩ := entry
        rw [Option.toList_some, List.singleton_append, Dict.ofList_without_iff]
        simp [hodd, get?]
    · next heven => simp [heven]

/-- Deleting a comment that ends in two backslashes, between two messages. -/
theorem ofProperties_without_disk :
    LineAt "a=1\n".toList "! see C:\\\\".toList ['\n'] "b=2\n".toList ∧ Fresh "a=1\n".toList ∧
    Inert "! see C:\\\\".toList ∧
    ofProperties (String.ofList ("a=1\n".toList ++
        ("! see C:\\\\".toList ++ ['\n'] ++ "b=2\n".toList))) =
      ofProperties (String.ofList ("a=1\n".toList ++ "b=2\n".toList)) := by
  have hat : LineAt "a=1\n".toList "! see C:\\\\".toList ['\n'] "b=2\n".toList :=
    ⟨by decide +kernel, by decide +kernel, .inl rfl⟩
  have hfresh : Fresh "a=1\n".toList := by decide +kernel
  have hinert : Inert "! see C:\\\\".toList := by decide +kernel
  have heven : ¬trailingBackslashes (withoutReturn "! see C:\\\\".toList) % 2 = 1 := by
    decide +kernel
  exact ⟨hat, hfresh, hinert,
    (ofProperties_without_iff hat hfresh hinert).2.mpr fun hodd => absurd hodd heven⟩

/-- A comment that ends in one backslash takes the message after it away. -/
theorem not_inert_path :
    ¬∀ before line ending after : List Char, LineAt before line ending after → Fresh before →
      Inert line →
      ofProperties (String.ofList (before ++ (line ++ ending ++ after))) =
        ofProperties (String.ofList (before ++ after)) := by
  intro h
  have hat : LineAt [] "# path C:\\".toList ['\n'] "a=b\n".toList :=
    ⟨by decide +kernel, by decide +kernel, .inl rfl⟩
  have hsame := h _ _ _ _ hat (by decide +kernel) (by decide +kernel)
  have hread := congrArg (Catalog.get? · "a") hsame
  revert hread
  decide +kernel

end RecordDesk.Catalog
