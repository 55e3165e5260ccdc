import RecordDesk.Listing.Cell
import RecordDesk.Proofs.Calendar.Layouts
import RecordDesk.Proofs.Text.Lines

/-
  Days and times of day that are written out, in every form that a list reads: a day alone, with an
  hour and a minute, with a second, and with an offset from universal time. Of the layouts that are
  tried in turn exactly one reads such a text, and it reads what is written (`readParts?_text`). So a
  column of dates and one of moments show the written day and time, whatever the offset, and a text
  that starts with a day that does not exist stays as it is (`valueText_wallTime`).
-/

namespace RecordDesk.Calendar

open Decimal

/-! ## Written days and times -/

/-- A day as it is written, in four, two and two digits; it need not exist. -/
structure Day where
  year : Fin 10000
  month : Fin 100
  day : Fin 100

/-- The Gregorian calendar has the day. -/
def Day.IsReal (d : Day) : Prop :=
  0 < d.day.val ∧
    (d.month.val ∈ [1, 3, 5, 7, 8, 10, 12] ∧ d.day.val ≤ 31 ∨
      d.month.val ∈ [4, 6, 9, 11] ∧ d.day.val ≤ 30 ∨
      d.month.val = 2 ∧ d.day.val ≤ 28 ∨
      d.month.val = 2 ∧ d.day.val = 29 ∧
        (d.year.val % 400 = 0 ∨ d.year.val % 4 = 0 ∧ d.year.val % 100 ≠ 0))

instance (d : Day) : Decidable d.IsReal := inferInstanceAs (Decidable (_ ∧ _))

theorem isLeap_natCast (year : Nat) :
    isLeap year = true ↔ (year % 400 = 0 ∨ year % 4 = 0 ∧ year % 100 ≠ 0) := by
  simp only [isLeap, Bool.and_eq_true, Bool.or_eq_true, beq_iff_eq, bne_iff_ne]
  omega

theorem isYear_natCast {year : Nat} (h : year < 10000) : isYear year = true := by
  simp only [isYear, Bool.and_eq_true, decide_eq_true_eq]
  omega

theorem Day.isReal_iff (d : Day) : d.IsReal ↔ isDay d.year.val d.month d.day = true := by
  rw [isDay, isYear_natCast d.year.isLt, Bool.true_and, Bool.and_eq_true, decide_eq_true_iff,
    decide_eq_true_iff]
  simp only [IsReal, daysIn, isLeap_natCast, List.mem_cons, List.not_mem_nil, or_false]
  split
  · split <;> omega
  · split
    · omega
    · split <;> omega

/-- The text of a day. -/
def Day.text (d : Day) : List Char := dayText '-' d.year d.month d.day

/-- The numbers of a day at its first second. -/
def Day.numbers (d : Day) : Numbers := ⟨d.year.val, d.month, d.day, 0, 0, 0⟩

/-- A day as it is shown. -/
def Day.shown (d : Day) : List Char := dayText '/' d.year d.month d.day

/-- What stands between a day and a time with an offset. -/
inductive Separator
  | capital
  | small
  | space

/-- The character of a separator. -/
def Separator.char : Separator → Char
  | capital => 'T'
  | small => 't'
  | space => ' '

/-- Universal time, or an offset from it of less than a day. -/
inductive Zone
  | universal (capital : Bool)
  | offset (east : Bool) (hours : Fin 24) (minutes : Fin 60)

/-- The text of an offset. -/
def Zone.text : Zone → List Char
  | universal capital => [if capital then 'Z' else 'z']
  | offset east hours minutes => (if east then '+' else '-') :: minuteText hours minutes

/-- The text of a fraction of a second; without digits there is none. -/
def fractionText (digits : List (Fin 10)) : List Char :=
  if digits = [] then [] else '.' :: digits.map fun d => d.val.digitChar

/-- A time of day as it is written behind a day. -/
inductive Clock
  /-- None. -/
  | absent
  /-- An hour and a minute behind a `T`. -/
  | minute (hour : Fin 24) (minute : Fin 60)
  /-- A time behind a `T` or a space. -/
  | second (spaced : Bool) (hour : Fin 24) (minute second : Fin 60) (fraction : List (Fin 10))
  /-- A time with an offset. -/
  | zoned (separator : Separator) (hour : Fin 24) (minute second : Fin 60)
      (fraction : List (Fin 10)) (zone : Zone)

namespace Clock

/-- The text of a time of day. -/
def text : Clock → List Char
  | absent => []
  | minute h m => 'T' :: minuteText h m
  | second spaced h m s fraction =>
    (if spaced then ' ' else 'T') :: (secondText h m s ++ fractionText fraction)
  | zoned separator h m s fraction zone =>
    separator.char :: (secondText h m s ++ (fractionText fraction ++ zone.text))

/-- The numbers of a day with its time; what is not written is zero. -/
def numbers (d : Day) : Clock → Numbers
  | absent => d.numbers
  | minute h m => { d.numbers with hour := h, minute := m }
  | second _ h m s _ | zoned _ h m s _ _ => { d.numbers with hour := h, minute := m, second := s }

/-- A time of day as it is shown. -/
def shown : Clock → List Char
  | absent => secondText 0 0 0
  | minute h m => secondText h m 0
  | second _ h m s _ | zoned _ h m s _ _ => secondText h m s

end Clock

/-! ## Reading -/

variable {rest : List Char}

/-- What the layouts of a moment have behind the day. -/
def clockLayouts : List (List Part) := [
  .separator :: (timeParts .exact ++ [.fraction, .offset]),
  .mark 'T' :: (timeParts .loose ++ [.fraction]),
  .gap :: (timeParts .loose ++ [.fraction]),
  [.mark 'T', .loose .hour, .mark ':', .loose .minute],
  []]

/-- A text that starts with a day is read by what the layouts have behind it. -/
theorem moment?_day (d : Day) (rest : List Char) :
    moment? (String.ofList (d.text ++ rest)) =
      clockLayouts.findSome? fun parts =>
        (readParts? d.numbers parts rest).bind Numbers.moment? := by
  have hdate : ∀ {part : Field → Part}, IsNumber part → ∀ parts,
      readParts? .zero (dateParts part ++ parts) (d.text ++ rest) =
        readParts? d.numbers parts rest := fun hpart parts =>
    readParts?_date hpart d.year.isLt d.month.isLt d.day.isLt parts rest
  have hloose : IsNumber .loose := .inr rfl
  have halone := hdate hloose []
  rw [List.append_nil] at halone
  simp only [moment?, momentLayouts, clockLayouts, internetLayout, dateLayout, List.append_assoc,
    List.findSome?_cons, String.toList_ofList, hdate (.inl rfl), hdate hloose, halone,
    List.cons_append, List.nil_append, List.findSome?_nil]

theorem date?_day (d : Day) (rest : List Char) :
    date? (String.ofList (d.text ++ rest)) =
      ((readParts? d.numbers [] rest).bind Numbers.date?).or
        ((moment? (String.ofList (d.text ++ rest))).map (·.date)) := by
  have hdate : readParts? .zero (dateParts .loose ++ []) (d.text ++ rest) =
      readParts? d.numbers [] rest :=
    readParts?_date (.inr rfl) d.year.isLt d.month.isLt d.day.isLt [] rest
  rw [List.append_nil] at hdate
  rw [date?, dateLayout, String.toList_ofList, hdate]

theorem isClock_clockLayouts :
    ∀ parts ∈ clockLayouts, ∀ part ∈ parts, part.isClock = true := by
  decide

theorem moment?_of_date? {numbers : Numbers} (h : numbers.date? = none) : numbers.moment? = none := by
  rw [Numbers.moment?, h]
  rfl

/-- A day that does not exist is read by no layout, whatever follows it. -/
theorem not_read_of_not_isReal {d : Day} (h : ¬ d.IsReal) (rest : List Char) :
    moment? (String.ofList (d.text ++ rest)) = none ∧
      date? (String.ofList (d.text ++ rest)) = none := by
  have hdate : ∀ parts ∈ clockLayouts,
      (readParts? d.numbers parts rest).bind Numbers.date? = none := by
    intro parts hparts
    rw [Option.bind_eq_none_iff]
    intro read hread
    rw [date?_readParts? (isClock_clockLayouts parts hparts) hread]
    exact dif_neg fun hday => h (d.isReal_iff.2 hday)
  have hmoment : moment? (String.ofList (d.text ++ rest)) = none := by
    rw [moment?_day, List.findSome?_eq_none_iff]
    intro parts hparts
    rw [Option.bind_eq_none_iff]
    exact fun read hread =>
      moment?_of_date? (Option.bind_eq_none_iff.1 (hdate parts hparts) read hread)
  refine ⟨hmoment, ?_⟩
  rw [date?_day, hmoment, hdate [] (by decide)]
  rfl

/-! ## Written times -/

theorem readParts?_fraction (digits : List (Fin 10))
    (hrest : ∀ c ∈ rest.head?, c.isDigit = false ∧ c ≠ '.') (numbers : Numbers)
    (parts : List Part) :
    readParts? numbers (.fraction :: parts) (fractionText digits ++ rest) =
      readParts? numbers parts rest := by
  have hafter : afterFraction? (fractionText digits ++ rest) = some rest := by
    unfold fractionText
    split
    · cases rest with
      | nil => rfl
      | cons c rest =>
        rw [List.nil_append, afterFraction?]
        exact fun _ heq => (hrest c rfl).2 (List.cons.inj heq).1
    · next hne =>
      have hall : ∀ d : Fin 10, d.val.digitChar.isDigit = true := by decide
      have hdigits : AreDigits (digits.map fun d : Fin 10 => d.val.digitChar) := by
        intro c hc
        obtain ⟨d, -, rfl⟩ := List.mem_map.1 hc
        exact hall d
      have htake := (span_digits hdigits fun c hc => (hrest c hc).1).1
      have hsome : (digits.map fun d : Fin 10 => d.val.digitChar).isEmpty = false := by simpa using hne
      rw [List.cons_append, afterFraction?, leadingNumber?]
      simp only [htake, hsome, Bool.false_eq_true, if_false, Option.map_some, List.drop_left]
  rw [readParts?_cons, Part.read?, hafter]
  rfl

theorem readParts?_offset (zone : Zone) (numbers : Numbers) :
    readParts? numbers [.offset] zone.text = some numbers := by
  have hafter : afterOffset? zone.text = some [] := by
    cases zone with
    | universal capital => cases capital <;> rfl
    | offset east hours minutes =>
      have hhours : hours.val < 10 ^ 2 := by omega
      have hminutes : minutes.val < 10 ^ 2 := by omega
      have hread := exactNumber?_figures hhours (':' :: figures 2 minutes)
      have hread' := exactNumber?_figures hminutes []
      rw [List.append_nil] at hread'
      cases east <;>
        simp [Zone.text, minuteText, afterOffset?, hread, hread', hours.isLt, minutes.isLt]
  rw [readParts?_cons, Part.read?, hafter]
  rfl

theorem head_zoneText (zone : Zone) :
    ∀ c ∈ zone.text.head?, c.isDigit = false ∧ c ≠ '.' := by
  intro c hc
  cases zone with
  | universal capital =>
    obtain rfl := Option.some.inj hc
    cases capital <;> decide
  | offset east hours minutes =>
    obtain rfl := Option.some.inj hc
    cases east <;> decide

/-- Of a time with a second, the layouts that take what stands before it have the rest to read. -/
theorem readParts?_clockLayouts {c : Char} (hc : c = 'T' ∨ c = 't' ∨ c = ' ') (numbers : Numbers)
    (h : Fin 24) (m s : Fin 60) (rest : List Char) :
    clockLayouts.map (fun parts => readParts? numbers parts (c :: (secondText h m s ++ rest))) =
      let read := { numbers with hour := h.val, minute := m.val, second := s.val }
      [if Part.separator.takes c then readParts? read [.fraction, .offset] rest else none,
        if (Part.mark 'T').takes c then readParts? read [.fraction] rest else none,
        if Part.gap.takes c then readParts? read [.fraction] rest else none, none, none] := by
  have hexact : IsNumber .exact := .inl rfl
  have hloose : IsNumber .loose := .inr rfl
  have hmark : IsBetween (.mark 'T') := .inr (.inl rfl)
  have hhour : h.val < 100 := by omega
  have hminute : m.val < 100 := by omega
  have hsecond : s.val < 100 := by omega
  simp only [clockLayouts, List.map_cons, List.map_nil,
    readParts?_second (.inl rfl) hc hexact hhour hminute hsecond,
    readParts?_second hmark hc hloose hhour hminute hsecond,
    readParts?_second (.inr (.inr rfl)) hc hloose hhour hminute hsecond,
    readParts?_second_left hmark hc hloose hhour hminute]
  rfl

/-- The place of the layout that a written time is in. -/
def Clock.layout : Clock → Nat
  | .zoned .. => 0
  | .second false .. => 1
  | .second true .. => 2
  | .minute .. => 3
  | .absent => 4

/-- A written time is read as it is written by the layout that it is in, and by no other. -/
theorem readParts?_text (d : Day) (t : Clock) :
    clockLayouts.map (fun parts => readParts? d.numbers parts t.text) =
      (List.replicate 5 none).set t.layout (some (t.numbers d)) := by
  cases t with
  | absent => rfl
  | minute h m =>
    have hloose : IsNumber .loose := .inr rfl
    have hmark : IsBetween (.mark 'T') := .inr (.inl rfl)
    have hc : 'T' = 'T' ∨ 'T' = 't' ∨ 'T' = ' ' := .inl rfl
    have hhour : h.val < 100 := by omega
    have hminute : m.val < 100 := by omega
    have hshort := readParts?_clock hmark hc hloose hhour hminute d.numbers [] []
    rw [List.append_nil] at hshort
    simp only [clockLayouts, List.map_cons, List.map_nil, Clock.text,
      readParts?_minute_only (.inl rfl) hc (.inl rfl) hhour hminute,
      readParts?_minute_only hmark hc hloose hhour hminute,
      readParts?_minute_only (.inr (.inr rfl)) hc hloose hhour hminute, hshort]
    rfl
  | second spaced h m s fraction =>
    have hfraction := fun numbers parts =>
      readParts?_fraction fraction (by simp : ∀ c ∈ [].head?, c.isDigit = false ∧ c ≠ '.') numbers
        parts
    simp only [List.append_nil] at hfraction
    simp only [Clock.text]
    rw [readParts?_clockLayouts (by cases spaced <;> decide)]
    simp only [hfraction]
    cases spaced <;> rfl
  | zoned separator h m s fraction zone =>
    have hnone : ∀ numbers, readParts? numbers [] zone.text = none := by
      intro numbers
      cases zone <;> rfl
    simp only [Clock.text]
    rw [readParts?_clockLayouts (by cases separator <;> decide)]
    simp only [readParts?_fraction fraction (head_zoneText zone), readParts?_offset, hnone,
      ite_self]
    cases separator <;> rfl

/-- One text among several that are not read. -/
theorem findSome?_set {α β : Type} (f : α → Option β) (x : α) {n k : Nat} (h : k < n) :
    ((List.replicate n none).set k (some x)).findSome? (Option.bind · f) = f x := by
  induction n generalizing k with
  | zero => omega
  | succ n ih =>
    rw [List.replicate_succ]
    cases k with
    | zero =>
      have hnone : (List.replicate n (none : Option α)).findSome? (Option.bind · f) = none := by
        rw [List.findSome?_eq_none_iff]
        exact fun y hy => by rw [List.eq_of_mem_replicate hy, Option.bind_none]
      rw [List.set_cons_zero, List.findSome?_cons, Option.bind_some, hnone]
      cases f x <;> rfl
    | succ k =>
      rw [List.set_cons_succ, List.findSome?_cons, Option.bind_none]
      exact ih (Nat.lt_of_succ_lt_succ h)

theorem Clock.layout_lt (t : Clock) : t.layout < 5 := by
  unfold layout
  split <;> decide

theorem moment?_text (d : Day) (t : Clock) :
    moment? (String.ofList (d.text ++ t.text)) = (t.numbers d).moment? := by
  have hread := findSome?_set Numbers.moment? (t.numbers d) t.layout_lt
  rw [← readParts?_text, List.findSome?_map] at hread
  rw [moment?_day]
  exact hread

/-! ## Showing -/

/-- A day that exists is shown in the order in which it is written. -/
theorem Day.IsReal.date? {d : Day} (h : d.IsReal) :
    ∃ date, d.numbers.date? = some date ∧ date.display = String.ofList d.shown := by
  have hday := d.isReal_iff.1 h
  refine ⟨⟨d.year.val, d.month, d.day, hday⟩, dif_pos hday, ?_⟩
  have hyear : yearText d.year.val = padded 4 d.year := by
    have hlow : ¬ ((d.year.val : Int) < 0) := by omega
    have hhigh : ¬ (9999 < (d.year.val : Int)) := by omega
    rw [yearText, if_neg hlow, if_neg hhigh, String.empty_append, Int.natAbs_natCast]
  rw [Date.display, hyear, padded_eq d.year.isLt, padded_eq d.month.isLt, padded_eq d.day.isLt,
    ← String.toList_inj]
  simp [Day.shown, dayText]

/-- What is not written of a time is zero. -/
theorem Clock.numbers_eq (d : Day) (t : Clock) :
    ∃ (hour : Fin 24) (minute second : Fin 60),
      t.numbers d = { d.numbers with hour := hour, minute := minute, second := second } ∧
      t.shown = secondText hour minute second := by
  cases t with
  | absent => exact ⟨0, 0, 0, rfl, rfl⟩
  | minute h m => exact ⟨h, m, 0, rfl, rfl⟩
  | second _ h m s _ | zoned _ h m s _ _ => exact ⟨h, m, s, rfl, rfl⟩

theorem Day.IsReal.moment? {d : Day} (h : d.IsReal) (t : Clock) :
    ∃ date moment, d.numbers.date? = some date ∧ date.display = String.ofList d.shown ∧
      (t.numbers d).moment? = some moment ∧ moment.date = date ∧
      moment.display = String.ofList (d.shown ++ ' ' :: t.shown) := by
  obtain ⟨date, hdate, hshown⟩ := h.date?
  obtain ⟨hour, minute, second, hnumbers, hclock⟩ := t.numbers_eq d
  have htime : isTime hour minute second = true := by
    simp [isTime, hour.isLt, minute.isLt, Nat.le_of_lt second.isLt]
  have hwidth : hour.val < 10 ^ 2 ∧ minute.val < 10 ^ 2 ∧ second.val < 10 ^ 2 := by omega
  refine ⟨date, ⟨date, hour, minute, second, htime⟩, hdate, hshown, ?_, rfl, ?_⟩
  · rw [Numbers.moment?, hnumbers]
    change d.numbers.date?.bind (Moment.of? · hour minute second) = _
    rw [hdate]
    exact dif_pos htime
  · rw [Moment.display, hshown, hclock, padded_eq hwidth.1, padded_eq hwidth.2.1,
      padded_eq hwidth.2.2, ← String.toList_inj]
    simp [secondText, minuteText]

/-- The day of a text is that of its moment, and the day itself where nothing follows it. -/
theorem Day.IsReal.date?_text {d : Day} (h : d.IsReal) (t : Clock) :
    ∃ date, Calendar.date? (String.ofList (d.text ++ t.text)) = some date ∧
      date.display = String.ofList d.shown := by
  obtain ⟨date, moment, hdate, hshown, hmoment, rfl, -⟩ := h.moment? t
  refine ⟨moment.date, ?_, hshown⟩
  rw [date?_day, moment?_text, hmoment, readParts?]
  split
  · rw [Option.bind_some, hdate]
    rfl
  · rfl

end RecordDesk.Calendar

namespace RecordDesk.ListColumn

open Calendar

/-- A column of dates and one of moments show the day and the time that are written, whatever the
offset. A text that starts with a day that does not exist is shown as it is. -/
theorem valueText_wallTime {c e : ListColumn} (hc : c.format = some .date)
    (he : e.format = some .dateTime) (d : Day) :
    (d.IsReal → ∀ t : Clock,
      c.valueText (.str (String.ofList (d.text ++ t.text))) = String.ofList d.shown ∧
      e.valueText (.str (String.ofList (d.text ++ t.text))) =
        String.ofList (d.shown ++ ' ' :: t.shown)) ∧
    (¬ d.IsReal → ∀ rest : List Char,
      c.valueText (.str (String.ofList (d.text ++ rest))) = String.ofList (d.text ++ rest) ∧
      e.valueText (.str (String.ofList (d.text ++ rest))) = String.ofList (d.text ++ rest)) := by
  have hdate : ∀ s, c.valueText (.str s) = dateText s := fun s => by rw [valueText, hc]; rfl
  have hmoment : ∀ s, e.valueText (.str s) = momentText s := fun s => by rw [valueText, he]; rfl
  refine ⟨fun hreal t => ?_, fun hreal rest => ?_⟩
  · obtain ⟨date, hread, hshown⟩ := hreal.date?_text t
    obtain ⟨-, moment, -, -, hread', -, hshown'⟩ := hreal.moment? t
    rw [hdate, hmoment, dateText, momentText, hread, moment?_text, hread']
    exact ⟨hshown, hshown'⟩
  · obtain ⟨hnone, hnone'⟩ := not_read_of_not_isReal hreal rest
    rw [hdate, hmoment, dateText, momentText, hnone, hnone']
    exact ⟨rfl, rfl⟩

/-- The leap day of a leap year, ahead of universal time, and that of a year without one. -/
theorem valueText_wallTime_leapDay :
    let dates := { ListColumn.default with format := some .date }
    let moments := { ListColumn.default with format := some .dateTime }
    (dates.valueText (.str "2024-02-29T00:30:59.25+09:00") = "2024/02/29" ∧
      moments.valueText (.str "2024-02-29T00:30:59.25+09:00") = "2024/02/29 00:30:59") ∧
    (dates.valueText (.str "2023-02-29T12:00") = "2023-02-29T12:00" ∧
      moments.valueText (.str "2023-02-29T12:00") = "2023-02-29T12:00") := by
  intro dates moments
  have hleap : (⟨2024, 2, 29⟩ : Day).IsReal := by decide
  have hnone : ¬ (⟨2023, 2, 29⟩ : Day).IsReal := by decide
  have hread := (valueText_wallTime (rfl : dates.format = _) (rfl : moments.format = _)
    ⟨2024, 2, 29⟩).1 hleap (.zoned .capital 0 30 59 [2, 5] (.offset true 9 0))
  have hkept := (valueText_wallTime (rfl : dates.format = _) (rfl : moments.format = _)
    ⟨2023, 2, 29⟩).2 hnone (Clock.minute 12 0).text
  exact ⟨hread, hkept⟩

end RecordDesk.ListColumn
