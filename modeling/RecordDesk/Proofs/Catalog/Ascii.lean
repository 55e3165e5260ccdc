import RecordDesk.Proofs.Catalog.Comments

/-
  Properties text in printable ASCII. Every other character, and the backslash, is written as an
  escape for each of its units in UTF-16, so a character above `U+FFFF` is written as two. Each
  escape is read on its own, and half of a pair is no character: texts below `U+10000` are read
  back, in the catalog too, and no other text is (`unescape_ascii_iff`).
-/

namespace RecordDesk.Catalog

open Text

variable {c : Char} {cs text : List Char} {n : Nat}

/-! ## Writing -/

/-- The units of a character in UTF-16. -/
def units (c : Char) : List Nat :=
  if c.toNat < 0x10000 then [c.toNat]
  else [0xD800 + (c.toNat - 0x10000) / 0x400, 0xDC00 + (c.toNat - 0x10000) % 0x400]

/-- A hexadecimal digit, with a capital or a small letter. -/
def hexDigit (capital : Bool) (n : Nat) : Char :=
  if capital then n.digitChar.toUpper else n.digitChar

/-- The four hexadecimal digits of a unit. -/
def hexDigits (capital : Bool) (n : Nat) : List Char :=
  [n / 0x1000 % 16, n / 0x100 % 16, n / 0x10 % 16, n % 16].map (hexDigit capital)

/-- The escape of a unit. -/
def unitEscape (capital : Bool) (n : Nat) : List Char := '\\' :: 'u' :: hexDigits capital n

/-- Printable ASCII other than the backslash. -/
def isClear (c : Char) : Bool := 0x20 ≤ c.toNat && c.toNat ≤ 0x7E && c != '\\'

/-- A character as it is, or its escapes. -/
def asciiCharacter (capital : Bool) (c : Char) : List Char :=
  if isClear c then [c] else (units c).flatMap (unitEscape capital)

/-- A text in printable ASCII. -/
def ascii (capital : Bool) (text : List Char) : List Char := text.flatMap (asciiCharacter capital)

/-- Every character is below `U+10000`. -/
def InBasicPlane (text : List Char) : Prop := ∀ c ∈ text, c.toNat < 0x10000

theorem inBasicPlane_iff :
    InBasicPlane text ↔ (text.all fun c => decide (c.toNat < 0x10000)) = true := by
  simp [InBasicPlane]

instance (text : List Char) : Decidable (InBasicPlane text) :=
  decidable_of_iff _ inBasicPlane_iff.symm

theorem isClear_iff : isClear c = true ↔ 0x20 ≤ c.toNat ∧ c.toNat ≤ 0x7E ∧ c ≠ '\\' := by
  simp [isClear, and_assoc]

theorem toNat_lt_of_isClear (h : isClear c = true) : c.toNat < 0x10000 := by
  have hbound := (isClear_iff.1 h).2.1
  omega

theorem ascii_cons (capital : Bool) (c : Char) (text : List Char) :
    ascii capital (c :: text) = asciiCharacter capital c ++ ascii capital text :=
  List.flatMap_cons

/-! ## Reading an escape -/

theorem hexDigit_spec (capital : Bool) (hn : n < 16) :
    Json.hexValue? (hexDigit capital n) = some n ∧ hexDigit capital n ≠ '+' ∧
      isClear (hexDigit capital n) = true := by
  have hall : ∀ capital, ∀ n < 16, Json.hexValue? (hexDigit capital n) = some n ∧
      hexDigit capital n ≠ '+' ∧ isClear (hexDigit capital n) = true := by decide
  exact hall capital n hn

/-- The digits of a unit are read as the character of its code, unless it is half of a pair. -/
theorem hexCharacter?_hexDigits (capital : Bool) (hn : n < 0x10000) :
    hexCharacter? (hexDigits capital n) =
      if n < 0xD800 ∨ 0xDFFF < n then some (Char.ofNat n) else none := by
  have hread : ∀ m, Json.hexValue? (hexDigit capital (m % 16)) = some (m % 16) := fun m =>
    (hexDigit_spec capital (Nat.mod_lt m (by decide))).1
  have hplus : hexDigit capital (n / 0x1000 % 16) ≠ '+' :=
    (hexDigit_spec capital (Nat.mod_lt _ (by decide))).2.1
  have hvalue : 16 * (16 * (16 * (16 * 0 + n / 0x1000 % 16) + n / 0x100 % 16) + n / 0x10 % 16) +
      n % 16 = n := by
    omega
  have hcode : n < 0xD800 ∨ 0xDFFF < n ∧ n < 0x110000 ↔ n < 0xD800 ∨ 0xDFFF < n := by omega
  have hmap : (hexDigits capital n).mapM Json.hexValue? =
      some [n / 0x1000 % 16, n / 0x100 % 16, n / 0x10 % 16, n % 16] := by
    simp [hexDigits, hread]
  have hne : (hexDigits capital n).isEmpty = false := rfl
  unfold hexCharacter?
  split
  · next rest heq => exact absurd (List.cons.inj heq).1 hplus
  · simp only [hne, hmap, Bool.false_eq_true, if_false, Option.bind_eq_bind, Option.bind_some,
      List.foldl_cons, List.foldl_nil, hvalue, hcode]

/-- An escape is read on its own, as a character or as it stands. -/
theorem unescape_unitEscape (capital : Bool) (hn : n < 0x10000) (cs : List Char) :
    unescape (unitEscape capital n ++ cs) =
      (if n < 0xD800 ∨ 0xDFFF < n then [Char.ofNat n] else unitEscape capital n) ++
        unescape cs := by
  have hcons : unescape (unitEscape capital n ++ cs) =
      unicodeEscape (hexDigits capital n) ++ unescape cs := by
    simp only [unitEscape, hexDigits, List.map_cons, List.map_nil, List.cons_append,
      List.nil_append, unescape]
  rw [hcons, unicodeEscape, hexCharacter?_hexDigits capital hn]
  by_cases hcode : n < 0xD800 ∨ 0xDFFF < n
  · rw [if_pos hcode, if_pos hcode]
  · rw [if_neg hcode, if_neg hcode]
    rfl

/-! ## Reading characters -/

/-- The code of a character is no half of a pair. -/
theorem toNat_not_half (c : Char) : c.toNat < 0xD800 ∨ 0xDFFF < c.toNat :=
  c.valid.imp id And.left

/-- A character below `U+10000` is read as it was. -/
theorem unescape_basic (capital : Bool) (hc : c.toNat < 0x10000) (cs : List Char) :
    unescape (asciiCharacter capital c ++ cs) = c :: unescape cs := by
  unfold asciiCharacter
  split
  · next hclear => exact unescape_cons (isClear_iff.1 hclear).2.2 cs
  · rw [units, if_pos hc, List.flatMap_singleton, unescape_unitEscape capital hc,
      if_pos (toNat_not_half c), Char.ofNat_toNat]
    rfl

/-- The units of a character above are halves of a pair. -/
theorem units_of_le (hc : 0x10000 ≤ c.toNat) :
    ∃ high low, units c = [high, low] ∧ (0xD800 ≤ high ∧ high ≤ 0xDFFF) ∧
      (0xD800 ≤ low ∧ low ≤ 0xDFFF) := by
  have hmax : c.toNat < 0x110000 :=
    c.valid.elim (fun h => Nat.lt_trans h (by decide)) And.right
  refine ⟨_, _, if_neg (by omega), ?_, ?_⟩ <;> omega

/-- A character above stays as it is written. -/
theorem unescape_of_le (capital : Bool) (hc : 0x10000 ≤ c.toNat) (cs : List Char) :
    unescape (asciiCharacter capital c ++ cs) = asciiCharacter capital c ++ unescape cs := by
  have hclear : ¬ isClear c = true := fun h => by
    have := toNat_lt_of_isClear h
    omega
  obtain ⟨high, low, hunits, hhigh, hlow⟩ := units_of_le hc
  rw [asciiCharacter, if_neg hclear, hunits, List.flatMap_cons, List.flatMap_singleton,
    List.append_assoc, unescape_unitEscape capital (by omega), if_neg (by omega),
    unescape_unitEscape capital (by omega), if_neg (by omega), List.append_assoc]

theorem head_asciiCharacter (capital : Bool) (h : ¬ isClear c = true) :
    (asciiCharacter capital c).head? = some '\\' := by
  rw [asciiCharacter, if_neg h, units]
  split <;> rfl

/-- A text is read back exactly if all of it is below `U+10000`. -/
theorem unescape_ascii (capital : Bool) (text : List Char) :
    unescape (ascii capital text) = text ↔ InBasicPlane text := by
  induction text with
  | nil => exact iff_of_true rfl nofun
  | cons c text ih =>
    rw [ascii_cons]
    by_cases hc : c.toNat < 0x10000
    · rw [unescape_basic capital hc, List.cons_inj_right, ih]
      simp [InBasicPlane, hc]
    · -- what is read starts with a backslash, and that is a character below
      refine iff_of_false (fun h => hc ?_) fun h => hc (h c List.mem_cons_self)
      have hclear : ¬ isClear c = true := fun h => hc (toNat_lt_of_isClear h)
      have hhead := congrArg List.head? h
      rw [unescape_of_le capital (Nat.not_lt.1 hc), List.head?_append,
        head_asciiCharacter capital hclear] at hhead
      rw [← Option.some.inj hhead]
      decide

/-! ## Lines -/

theorem hexDigit_clear (capital : Bool) (m : Nat) : isClear (hexDigit capital (m % 16)) = true :=
  (hexDigit_spec capital (Nat.mod_lt m (by decide))).2.2

theorem eq_or_isClear_of_mem (capital : Bool) (h : c ∈ ascii capital text) :
    c = '\\' ∨ isClear c = true := by
  obtain ⟨d, -, hd⟩ := List.mem_flatMap.1 h
  unfold asciiCharacter at hd
  split at hd
  · next hclear => exact .inr (List.mem_singleton.1 hd ▸ hclear)
  · obtain ⟨n, -, hn⟩ := List.mem_flatMap.1 hd
    simp only [unitEscape, hexDigits, List.map_cons, List.map_nil, List.mem_cons, List.not_mem_nil,
      or_false] at hn
    rcases hn with rfl | rfl | rfl | rfl | rfl | rfl
    · exact .inl rfl
    · exact .inr rfl
    all_goals exact .inr (hexDigit_clear capital _)

/-- All that is written is printable ASCII. -/
theorem printable_of_mem (capital : Bool) (h : c ∈ ascii capital text) :
    0x20 ≤ c.toNat ∧ c.toNat ≤ 0x7E := by
  rcases eq_or_isClear_of_mem capital h with rfl | h
  · decide
  · exact ⟨(isClear_iff.1 h).1, (isClear_iff.1 h).2.1⟩

/-- What is written of a character ends in one that is no backslash. -/
theorem exists_last (capital : Bool) (c : Char) :
    ∃ front last, asciiCharacter capital c = front ++ [last] ∧ last ≠ '\\' := by
  have hunit : ∀ n, ∃ front last, unitEscape capital n = front ++ [last] ∧ last ≠ '\\' := fun n =>
    ⟨_, _, (List.dropLast_concat_getLast (List.cons_ne_nil _ _)).symm,
      (isClear_iff.1 (hexDigit_clear capital n)).2.2⟩
  unfold asciiCharacter units
  split
  · next hclear => exact ⟨[], c, rfl, (isClear_iff.1 hclear).2.2⟩
  · split
    · rw [List.flatMap_singleton]
      exact hunit _
    · obtain ⟨front, last, hlast, hne⟩ := hunit (0xDC00 + (c.toNat - 0x10000) % 0x400)
      rw [List.flatMap_cons, List.flatMap_singleton, hlast, ← List.append_assoc]
      exact ⟨_, last, rfl, hne⟩

theorem even_ascii (capital : Bool) (text : List Char) :
    trailingBackslashes (ascii capital text) % 2 = 0 := by
  rcases List.eq_nil_or_concat text with rfl | ⟨front, c, rfl⟩
  · rfl
  · obtain ⟨start, last, hlast, hne⟩ := exists_last capital c
    rw [List.concat_eq_append, ascii, List.flatMap_append, List.flatMap_singleton, hlast,
      ← List.append_assoc, trailingBackslashes_append hne]
    rfl

theorem tail_ascii (capital : Bool) (text : List Char) : Tail (ascii capital text) where
  oneLine h := absurd (printable_of_mem capital h).1 (by decide)
  noReturn h := absurd (printable_of_mem capital h).1 (by decide)
  even := even_ascii capital text

/-- Blanks other than the space are written as escapes. -/
theorem dropBlank_ascii (capital : Bool) (h : text.head? ≠ some ' ') :
    dropBlank (ascii capital text) = ascii capital text := by
  cases text with
  | nil => rfl
  | cons c text =>
    rw [ascii_cons]
    by_cases hclear : isClear c = true
    · have hspace : c.toNat ≠ 0x20 := fun hc => h (by rw [← Char.ofNat_toNat c, hc]; rfl)
      have hblank : isBlank c = false := by
        obtain ⟨hlow, hhigh, -⟩ := isClear_iff.1 hclear
        simp only [isBlank]
        grind
      rw [asciiCharacter, if_pos hclear]
      exact dropBlank_cons hblank _
    · obtain ⟨rest, hrest⟩ := List.head?_eq_some_iff.1 (head_asciiCharacter capital hclear)
      rw [hrest]
      exact dropBlank_cons (by decide) _

/-! ## Catalogs -/

/-- Behind a line that is not continued, entries are read afresh. -/
theorem entriesOf_complete (h : Complete cs) (after : List Char) :
    entriesOf (cs ++ '\n' :: after) = entriesIn cs ++ entriesOf after := by
  obtain ⟨front, last, hlines, hlast⟩ := h
  rw [entriesOf, charLines_ended, entriesIn, hlines, List.append_assoc, List.singleton_append,
    joinLines_append hlast, List.filterMap_append]
  rfl

variable {before key ending after ds : List Char}

/-- A message on a line of its own is read between what is before it and what is after. -/
theorem entriesOf_message (h : LineAt before (key ++ '=' :: ds) ending after) (hds : Tail ds) :
    entriesOf (key ++ '=' :: ds ++ ending ++ after) =
      entriesIn (key ++ '=' :: ds) ++ entriesOf after := by
  rcases h.ends with rfl | ⟨rfl, rfl⟩
  · rw [List.append_assoc, List.singleton_append, entriesOf_complete (complete_message hds key)]
  · have hreturn : withoutReturn (key ++ '=' :: ds) = key ++ '=' :: ds := by
      refine if_neg fun hlast => ?_
      rw [List.getLast?_append_of_ne_nil _ (List.cons_ne_nil _ _)] at hlast
      have hmem := List.mem_of_getLast? hlast
      simp only [List.mem_cons, hds.noReturn, or_false] at hmem
      revert hmem
      decide
    have hlines : charLines (key ++ '=' :: ds) = endedLines (key ++ '=' :: ds) := by
      rw [charLines_of_none h.oneLine, endedLines_of_none h.oneLine, hreturn]
      exact List.filter_cons_of_pos (by simp)
    rw [List.append_nil, List.append_nil, entriesOf, hlines]
    exact (List.append_nil _).symm

/-- A message with a plain key is read from its line, if its key is not written again later. -/
theorem get?_message (hline : LineAt before (key ++ '=' :: ds) ending after) (hfresh : Fresh before)
    (hkey : Framed key) (hplain : PlainKey key) (hds : Tail ds)
    (hlater : String.ofList key ∉ (entriesOf after).map Prod.fst) :
    (ofProperties (String.ofList (before ++ (key ++ '=' :: ds ++ ending ++ after)))).get?
        (String.ofList key) = some (String.ofList (unescape (dropBlank ds))) := by
  rw [ofProperties_ofList, entriesOf_append hline.starts hfresh, entriesOf_message hline hds,
    entriesIn_plain hkey hplain hds]
  refine Dict.get?_ofList_of_last (List.mem_singleton.2 rfl) (fun other hother => ?_) hlater
  exact (Prod.mk.inj (List.mem_singleton.1 hother)).2

/-- A text in printable ASCII is read back exactly if no character of it is above the basic plane,
from the text itself and, if it does not begin with a space, from a line of a catalog. -/
theorem unescape_ascii_iff (capital : Bool) (text : List Char) :
    (unescape (ascii capital text) = text ↔ InBasicPlane text) ∧
    ∀ {before key ending after : List Char},
      LineAt before (key ++ '=' :: ascii capital text) ending after → Fresh before →
      Framed key → PlainKey key → text.head? ≠ some ' ' →
      String.ofList key ∉ (entriesOf after).map Prod.fst →
      ((ofProperties (String.ofList
          (before ++ (key ++ '=' :: ascii capital text ++ ending ++ after)))).get?
            (String.ofList key) = some (String.ofList text) ↔ InBasicPlane text) := by
  refine ⟨unescape_ascii capital text, ?_⟩
  intro before key ending after hline hfresh hkey hplain hspace hlater
  rw [get?_message hline hfresh hkey hplain (tail_ascii capital text) hlater,
    dropBlank_ascii capital hspace, Option.some.injEq, String.ofList_inj, unescape_ascii]

/-- A message of two characters, one line among three. -/
theorem unescape_ascii_iff_required :
    LineAt "a=1\n".toList ("k".toList ++ '=' :: ascii false "必須".toList) ['\n'] "b=2\n".toList ∧
    Fresh "a=1\n".toList ∧ Framed "k".toList ∧ PlainKey "k".toList ∧
    "必須".toList.head? ≠ some ' ' ∧
    String.ofList "k".toList ∉ (entriesOf "b=2\n".toList).map Prod.fst ∧
    unescape (ascii false "必須".toList) = "必須".toList ∧
    (ofProperties (String.ofList ("a=1\n".toList ++
        ("k".toList ++ '=' :: ascii false "必須".toList ++ ['\n'] ++ "b=2\n".toList)))).get?
          (String.ofList "k".toList) = some (String.ofList "必須".toList) := by
  have hline : LineAt "a=1\n".toList ("k".toList ++ '=' :: ascii false "必須".toList) ['\n']
      "b=2\n".toList :=
    ⟨by decide +kernel, by decide +kernel, .inl rfl⟩
  have hfresh : Fresh "a=1\n".toList := by decide +kernel
  have hkey : Framed "k".toList := by decide +kernel
  have hplain : PlainKey "k".toList := by decide +kernel
  have hspace : "必須".toList.head? ≠ some ' ' := by decide +kernel
  have hlater : String.ofList "k".toList ∉ (entriesOf "b=2\n".toList).map Prod.fst := by
    decide +kernel
  have hbasic : InBasicPlane "必須".toList := by decide +kernel
  have h := unescape_ascii_iff false "必須".toList
  exact ⟨hline, hfresh, hkey, hplain, hspace, hlater, h.1.2 hbasic,
    (h.2 hline hfresh hkey hplain hspace hlater).2 hbasic⟩

/-- A character above the basic plane is not read back. -/
theorem not_unescape_ascii_smile :
    ¬∀ (capital : Bool) (text : List Char), unescape (ascii capital text) = text := by
  intro h
  have hsmile := h false ['😀']
  revert hsmile
  decide +kernel

end RecordDesk.Catalog
