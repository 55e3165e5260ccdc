import Mathlib.Algebra.Order.BigOperators.Group.List
import Mathlib.Algebra.Order.Ring.Nat
import Mathlib.Data.List.Induction
import Mathlib.Data.List.Perm.Subperm
import Mathlib.Data.List.TakeWhile
import RecordDesk.Proofs.Catalog.Properties
import RecordDesk.Proofs.Schema.Generated
import RecordDesk.Schema.Files

/-
  Generated messages and the properties file that they are written to. Texts are escaped and keys
  are not, so a catalog is read back as it was exactly if every message can stand in the file as it
  is (`properties_restores`): no separator, line feed or escape in a key, no blank that is dropped
  in front of a text. What a project name with line feeds makes of the heading must not be a message
  of its own.
-/

namespace RecordDesk.Generated

open Catalog Text

/-! ## Escaped texts -/

/-- A text with its escapes. -/
def escaped (text : List Char) : List Char := text.flatMap escapeCharacter

variable {c : Char} {text : List Char}

/-- A character is written in one of these ways. -/
theorem escapeCharacter_cases (c : Char) :
    (c = '\\' ∧ escapeCharacter c = ['\\', '\\']) ∨ (c = '\n' ∧ escapeCharacter c = ['\\', 'n']) ∨
      (c = '\r' ∧ escapeCharacter c = ['\\', 'r']) ∨
      (c ≠ '\\' ∧ c ≠ '\n' ∧ c ≠ '\r' ∧ escapeCharacter c = [c]) := by
  unfold escapeCharacter
  by_cases hc : c = '\\'
  · exact .inl ⟨hc, if_pos hc⟩
  by_cases hfeed : c = '\n'
  · exact .inr (.inl ⟨hfeed, by rw [if_neg hc, if_pos hfeed]⟩)
  by_cases hreturn : c = '\r'
  · exact .inr (.inr (.inl ⟨hreturn, by rw [if_neg hc, if_neg hfeed, if_pos hreturn]⟩))
  · exact .inr (.inr (.inr ⟨hc, hfeed, hreturn, by rw [if_neg hc, if_neg hfeed, if_neg hreturn]⟩))

theorem escaped_cons (c : Char) (text : List Char) :
    escaped (c :: text) = escapeCharacter c ++ escaped text :=
  List.flatMap_cons

theorem unescape_escaped (text : List Char) : unescape (escaped text) = text := by
  induction text with
  | nil => rfl
  | cons c text ih =>
    rw [escaped_cons]
    rcases escapeCharacter_cases c with ⟨rfl, h⟩ | ⟨rfl, h⟩ | ⟨rfl, h⟩ | ⟨hc, -, -, h⟩ <;> rw [h]
    · exact (unescape_escape (by decide) _).trans (congrArg _ ih)
    · exact (unescape_escape (by decide) _).trans (congrArg _ ih)
    · exact (unescape_escape (by decide) _).trans (congrArg _ ih)
    · exact (unescape_cons hc _).trans (congrArg _ ih)

theorem not_mem_escaped (hc : c = '\n' ∨ c = '\r') (text : List Char) : c ∉ escaped text := by
  intro h
  obtain ⟨d, -, hd⟩ := List.mem_flatMap.1 h
  rcases escapeCharacter_cases d with ⟨-, h⟩ | ⟨-, h⟩ | ⟨-, h⟩ | ⟨-, hfeed, hreturn, h⟩ <;>
    rw [h] at hd
  · rcases hc with rfl | rfl <;> revert hd <;> decide
  · rcases hc with rfl | rfl <;> revert hd <;> decide
  · rcases hc with rfl | rfl <;> revert hd <;> decide
  · rw [List.mem_singleton.1 hd] at hc
    exact hc.elim hfeed hreturn

/-- Backslashes are written in pairs, so none at the end continues the line. -/
theorem even_escaped (text : List Char) : trailingBackslashes (escaped text) % 2 = 0 := by
  induction text using List.reverseRecOn with
  | nil => rfl
  | append_singleton text c ih =>
    have hsplit : escaped (text ++ [c]) = escaped text ++ escapeCharacter c := by
      rw [escaped, List.flatMap_append, List.flatMap_singleton]
      rfl
    rw [hsplit]
    rcases escapeCharacter_cases c with ⟨rfl, h⟩ | ⟨rfl, h⟩ | ⟨rfl, h⟩ | ⟨hc, -, -, h⟩ <;> rw [h]
    · have hpair : trailingBackslashes (escaped text ++ ['\\', '\\']) =
          trailingBackslashes (escaped text) + 2 := by
        simp [trailingBackslashes]
      rw [hpair, Nat.add_mod_right]
      exact ih
    · rw [List.append_cons, trailingBackslashes_append (by decide)]
      rfl
    · rw [List.append_cons, trailingBackslashes_append (by decide)]
      rfl
    · rw [trailingBackslashes_append hc]
      rfl

theorem tail_escaped (text : List Char) : Tail (escaped text) where
  oneLine := not_mem_escaped (.inl rfl) text
  noReturn := not_mem_escaped (.inr rfl) text
  even := even_escaped text

/-- A blank that is written as it stands. -/
def isBare (c : Char) : Bool := isBlank c && c != '\n' && c != '\r'

/-- No blank that is dropped stands in front of the text. -/
def PlainText (text : List Char) : Prop := ∀ c ∈ text.head?, isBare c = false

theorem plainText_iff : PlainText text ↔ (text.head?.all fun c => !isBare c) = true := by
  simp [PlainText, Option.all_eq_true]

instance (text : List Char) : Decidable (PlainText text) := decidable_of_iff _ plainText_iff.symm

theorem dropBlank_escaped (text : List Char) :
    dropBlank (escaped text) = escaped (text.dropWhile isBare) := by
  induction text with
  | nil => rfl
  | cons c text ih =>
    rw [escaped_cons]
    rcases escapeCharacter_cases c with ⟨rfl, h⟩ | ⟨rfl, h⟩ | ⟨rfl, h⟩ | ⟨hc, hfeed, hreturn, h⟩
    · rfl
    · rfl
    · rfl
    · have hbare : isBare c = isBlank c := by
        rw [isBare, bne_iff_ne.2 hfeed, bne_iff_ne.2 hreturn, Bool.and_true, Bool.and_true]
      rw [h, List.singleton_append]
      by_cases hblank : isBlank c = true
      · rw [List.dropWhile_cons_of_pos (hbare.trans hblank), ← ih, dropBlank,
          List.dropWhile_cons_of_pos hblank]
        rfl
      · rw [List.dropWhile_cons_of_neg (by rwa [hbare]), dropBlank,
          List.dropWhile_cons_of_neg hblank, escaped_cons, h]
        rfl

/-- A text is read back exactly if nothing of it is dropped. -/
theorem unescape_dropBlank_escaped {text : List Char} :
    unescape (dropBlank (escaped text)) = text ↔ PlainText text := by
  rw [dropBlank_escaped, unescape_escaped, List.dropWhile_eq_self_iff]
  cases text with
  | nil => simp [PlainText]
  | cons c text => simp [PlainText]

/-! ## Plain messages -/

/-- The message can stand in a properties file as it is. -/
structure PlainMessage (entry : String × String) : Prop where
  key : PlainKey entry.1.toList
  text : PlainText entry.2.toList

instance (entry : String × String) : Decidable (PlainMessage entry) :=
  decidable_of_iff (PlainKey entry.1.toList ∧ PlainText entry.2.toList)
    ⟨fun ⟨key, text⟩ => ⟨key, text⟩, fun ⟨key, text⟩ => ⟨key, text⟩⟩

/-- What is read of the line of a message. -/
def readMessage (entry : String × String) : List (String × String) :=
  entriesIn (entry.1.toList ++ '=' :: escaped entry.2.toList)

theorem readMessage_plain {entry : String × String} (hkey : Framed entry.1.toList)
    (hplain : PlainKey entry.1.toList) :
    readMessage entry =
      [(entry.1, String.ofList (unescape (dropBlank (escaped entry.2.toList))))] := by
  rw [readMessage, entriesIn_plain hkey hplain (tail_escaped _), String.ofList_toList]

theorem readMessage_eq {entry : String × String} (hkey : Framed entry.1.toList)
    (h : PlainMessage entry) : readMessage entry = [entry] := by
  rw [readMessage_plain hkey h.key, unescape_dropBlank_escaped.2 h.text, String.ofList_toList]

theorem keySize_readMessage_le {entry : String × String} (hkey : Framed entry.1.toList) :
    keySize (readMessage entry) ≤ entry.1.toList.length :=
  Nat.le_trans (Nat.le_add_right _ _) (keySize_message_le hkey (tail_escaped _))

theorem keySize_flatMap (entries : List (String × String)) :
    keySize (entries.flatMap readMessage) =
      (entries.map fun entry => keySize (readMessage entry)).sum := by
  induction entries with
  | nil => rfl
  | cons entry rest ih => rw [List.flatMap_cons, keySize_append, ih, List.map_cons, List.sum_cons]

/-- Where all keys are among those that are read, every key is plain: a key that is not is read
shorter than it is written, and none is read longer. -/
theorem plainKey_of_subset {entries : List (String × String)}
    (hkeys : (entries.map Prod.fst).Nodup) (hframed : ∀ entry ∈ entries, Framed entry.1.toList)
    (hread : entries.map Prod.fst ⊆ (entries.flatMap readMessage).map Prod.fst) :
    ∀ entry ∈ entries, PlainKey entry.1.toList := by
  intro entry hentry
  by_contra hplain
  have hle : keySize entries ≤ keySize (entries.flatMap readMessage) := by
    obtain ⟨kept, hperm, hsub⟩ := hkeys.subperm hread
    have hsum := (hsub.map fun key => key.toList.length).sum_le_sum fun _ _ => Nat.zero_le _
    rw [(hperm.map fun key => key.toList.length).sum_eq, List.map_map, List.map_map] at hsum
    exact hsum
  have hlt : keySize (entries.flatMap readMessage) < keySize entries := by
    rw [keySize_flatMap]
    exact List.sum_lt_sum _ _ (fun e he => keySize_readMessage_le (hframed e he))
      ⟨entry, hentry, keySize_message_lt (hframed entry hentry) hplain (tail_escaped _)⟩
  exact absurd hle (Nat.not_le.2 hlt)

/-! ## Files -/

/-- The pieces of a properties file. -/
def pieces (project language : String) (c : Catalog) : List (List Char) :=
  (heading project language).toList :: [] ::
    c.messages.entries.map fun entry => entry.1.toList ++ '=' :: escaped entry.2.toList

theorem intercalate_feed (lines : List (List Char)) (h : lines ≠ []) :
    ['\n'].intercalate (lines ++ [[]]) = lines.flatMap (· ++ ['\n']) := by
  induction lines with
  | nil => exact absurd rfl h
  | cons line rest ih =>
    rw [List.cons_append, List.intercalate_cons_of_ne_nil (by simp), List.flatMap_cons]
    cases rest with
    | nil => rfl
    | cons next rest => rw [ih (List.cons_ne_nil _ _)]

theorem properties_eq (project language : String) (c : Catalog) :
    properties project language c =
      String.ofList ((pieces project language c).flatMap (· ++ ['\n'])) := by
  have hmessage : ∀ entry : String × String,
      (messageLine entry.1 entry.2).toList = entry.1.toList ++ '=' :: escaped entry.2.toList := by
    intro entry
    simp [messageLine, escapeMessage, escaped]
  have hne : pieces project language c ≠ [] := List.cons_ne_nil _ _
  rw [← intercalate_feed _ hne, ← String.toList_inj, String.toList_ofList]
  simp [properties, String.toList_intercalate, pieces, Function.comp_def, hmessage]

theorem heading_eq (project language : String) :
    ∃ cs, (heading project language).toList = '#' :: cs ++ ['s'] :=
  ⟨" ".toList ++ project.toList ++ " - ".toList ++ (upper language).toList ++ " Message".toList,
    by simp [heading]⟩

theorem complete_heading (project language : String) :
    Complete (heading project language).toList := by
  obtain ⟨cs, hcs⟩ := heading_eq project language
  rw [hcs]
  exact complete_append (by decide) (by decide) (by simp) (by simp) rfl _

theorem complete_pieces (project language : String) (c : Catalog) :
    ∀ piece ∈ pieces project language c, Complete piece := by
  intro piece hpiece
  rcases List.mem_cons.1 hpiece with rfl | hpiece
  · exact complete_heading project language
  rcases List.mem_cons.1 hpiece with rfl | hpiece
  · exact ⟨[], [], rfl, rfl, rfl⟩
  · obtain ⟨entry, -, rfl⟩ := List.mem_map.1 hpiece
    exact complete_message (tail_escaped _) _

/-- What the heading of a file is read as: nothing, unless it has line feeds. -/
def headingMessages (project language : String) : Catalog :=
  ofProperties (heading project language ++ "\n")

theorem headingMessages_eq (project language : String) :
    headingMessages project language =
      ⟨.ofList (entriesIn (heading project language).toList)⟩ := by
  have hcomplete : ∀ piece ∈ [(heading project language).toList], Complete piece := by
    simpa using complete_heading project language
  have h := ofProperties_ended hcomplete
  have htext : String.ofList ([(heading project language).toList].flatMap (· ++ ['\n'])) =
      heading project language ++ "\n" := by
    rw [← String.toList_inj, String.toList_ofList, String.toList_append, List.flatMap_singleton]
    rfl
  rw [htext, List.flatMap_singleton] at h
  exact h

/-- A project name and a language without line feeds make a heading that is a comment. -/
theorem headingMessages_eq_empty {project language : String}
    (h : '\n' ∉ (heading project language).toList) :
    headingMessages project language = .empty := by
  obtain ⟨cs, hcs⟩ := heading_eq project language
  rw [hcs] at h
  have hline : '\n' ∉ '#' :: cs := fun hmem => h (List.mem_append_left _ hmem)
  have hentries : entriesIn ('#' :: cs ++ ['s']) = (entryOf? ('#' :: cs ++ ['s'])).toList :=
    entriesIn_line (by decide) (by decide) hline (by simp) (by simp) rfl
  rw [headingMessages_eq, hcs, hentries, List.cons_append, entryOf?, dropBlank_cons (by decide)]
  rfl

/-- A file is read as its heading and its messages, one after another. -/
theorem ofProperties_properties (project language : String) (c : Catalog) :
    ofProperties (properties project language c) =
      ⟨.ofList (entriesIn (heading project language).toList ++
        c.messages.entries.flatMap readMessage)⟩ := by
  rw [properties_eq, ofProperties_ended (complete_pieces project language c), pieces,
    List.flatMap_cons, List.flatMap_cons, List.flatMap_map]
  rfl

/-! ## Generated catalogs -/

theorem framed_of_ends {c d : Char} (cs ds : List Char)
    (hc : isBlank c = false ∧ c ≠ '#' ∧ c ≠ '!') (hd : isBlank d = false ∧ d ≠ '\\')
    (h : c :: cs = ds ++ [d]) : Framed (c :: cs) where
  first := ⟨c, rfl, hc⟩
  last := ⟨d, by rw [h]; exact List.getLast?_concat, hd⟩

/-- Every key of a generated catalog starts with a letter and ends with one. -/
theorem framed_catalog {language default : String} {tables : Dict Table} {entry : String × String}
    (h : entry ∈ (Schema.catalog language default tables).messages.entries) :
    Framed entry.1.toList := by
  rcases Schema.mem_catalog h with h | ⟨table, -, h⟩
  · have hrules : ∀ entry ∈ Schema.japaneseMessages ++ Schema.englishMessages,
        Framed entry.1.toList := by decide +kernel
    refine hrules entry ?_
    unfold Schema.ruleMessages at h
    split at h
    · exact List.mem_append_left _ h
    · exact List.mem_append_right _ h
  · obtain ⟨middle, hkey | hkey⟩ := Schema.mem_tableMessages h
    · have h := framed_of_ends ("able.".toList ++ middle.toList ++ ".label".toList)
        ("table.".toList ++ middle.toList ++ ".labe".toList) (c := 't') (d := 'l') (by decide)
        (by decide) (by simp)
      rw [hkey]
      simpa using h
    · have h := framed_of_ends ("able.".toList ++ middle.toList ++ ".description".toList)
        ("table.".toList ++ middle.toList ++ ".descriptio".toList) (c := 't') (d := 'n') (by decide)
        (by decide) (by simp)
      rw [hkey]
      simpa using h

variable {c : Catalog}

theorem flatMap_readMessage_plain {entries : List (String × String)}
    (hframed : ∀ entry ∈ entries, Framed entry.1.toList)
    (hplain : ∀ entry ∈ entries, PlainKey entry.1.toList) :
    entries.flatMap readMessage = entries.map fun entry =>
      (entry.1, String.ofList (unescape (dropBlank (escaped entry.2.toList)))) := by
  rw [List.map_eq_flatMap]
  exact List.flatMap_congr fun entry h => readMessage_plain (hframed entry h) (hplain entry h)

/-- Messages that are read back where they stand alone are plain. -/
theorem plain_of_restored (hframed : ∀ entry ∈ c.messages.entries, Framed entry.1.toList)
    (h : (⟨.ofList (c.messages.entries.flatMap readMessage)⟩ : Catalog) = c) :
    ∀ entry ∈ c.messages.entries, PlainMessage entry := by
  have hdict : Dict.ofList (c.messages.entries.flatMap readMessage) = c.messages :=
    congrArg Catalog.messages h
  have hkeys : c.messages.entries.map Prod.fst ⊆
      (c.messages.entries.flatMap readMessage).map Prod.fst := by
    intro key hkey
    obtain ⟨value, hvalue⟩ := Dict.exists_get?.2 hkey
    exact Dict.exists_get?_ofList.1 ⟨value, hdict.symm ▸ hvalue⟩
  have hplain := plainKey_of_subset c.messages.nodup_keys hframed hkeys
  intro entry hentry
  refine ⟨hplain entry hentry, unescape_dropBlank_escaped.1 ?_⟩
  -- every message has a key of its own, so the text that is read under it is its own
  have hmem : (entry.1, String.ofList (unescape (dropBlank (escaped entry.2.toList)))) ∈
      c.messages.entries.flatMap readMessage := by
    rw [flatMap_readMessage_plain hframed hplain]
    exact List.mem_map_of_mem hentry
  have hnodup : ((c.messages.entries.flatMap readMessage).map Prod.fst).Nodup := by
    rw [flatMap_readMessage_plain hframed hplain, List.map_map]
    exact c.messages.nodup_keys
  have hread := Dict.get?_ofList_of_mem hnodup hmem
  rw [hdict, Dict.mem_entries_iff.1 hentry] at hread
  rw [Option.some_inj, ← String.toList_inj, String.toList_ofList] at hread
  exact hread.symm

/-- Behind plain messages, those of the heading stay as far as they have keys of their own. -/
theorem restored_iff (hframed : ∀ entry ∈ c.messages.entries, Framed entry.1.toList)
    (hplain : ∀ entry ∈ c.messages.entries, PlainMessage entry) (front : List (String × String)) :
    (⟨.ofList (front ++ c.messages.entries.flatMap readMessage)⟩ : Catalog) = c ↔
      ∀ entry ∈ front, c.messages.contains entry.1 = true := by
  have hread : c.messages.entries.flatMap readMessage = c.messages.entries := by
    rw [List.flatMap_congr fun entry h => readMessage_eq (hframed entry h) (hplain entry h)]
    exact List.flatMap_singleton' _
  have hget : ∀ key, (Dict.ofList (front ++ c.messages.entries)).get? key =
      (c.messages.get? key).or (Dict.find? front.reverse key) := by
    intro key
    rw [Dict.get?_ofList, List.reverse_append, Dict.find?_append, ← Dict.get?_ofList,
      Dict.ofList_entries]
  rw [hread]
  constructor
  · intro h entry hentry
    have hkey := Dict.exists_get?_ofList.2
      (List.mem_map_of_mem (f := Prod.fst) (List.mem_append_left c.messages.entries hentry))
    have hdict : Dict.ofList (front ++ c.messages.entries) = c.messages :=
      congrArg Catalog.messages h
    rw [hdict] at hkey
    exact Option.isSome_iff_exists.2 hkey
  · intro h
    refine congrArg Catalog.mk (Dict.ext_get? fun key => ?_)
    rw [hget]
    cases hfound : c.messages.get? key with
    | some value => rfl
    | none =>
      rw [Option.none_or, Dict.find?_eq_none, List.map_reverse, List.mem_reverse]
      intro hkey
      obtain ⟨entry, hentry, rfl⟩ := List.mem_map.1 hkey
      have hcontains := h entry hentry
      rw [Dict.contains, hfound] at hcontains
      cases hcontains

/-- Under a heading that names no message, messages are read back exactly if all are plain. -/
theorem restored_alone (hframed : ∀ entry ∈ c.messages.entries, Framed entry.1.toList)
    {project written : String} (hempty : headingMessages project written = .empty) :
    ofProperties (properties project written c) = c ↔
      ∀ entry ∈ c.messages.entries, PlainMessage entry := by
  have hnone : entriesIn (heading project written).toList = [] := by
    have hdict : Dict.ofList (entriesIn (heading project written).toList) = .empty :=
      congrArg Catalog.messages ((headingMessages_eq project written).symm.trans hempty)
    rw [List.eq_nil_iff_forall_not_mem]
    refine Dict.forall_keys_ofList (p := fun _ => False).1 ?_
    rw [hdict]
    exact fun _ hentry => List.not_mem_nil hentry
  rw [ofProperties_properties, hnone, List.nil_append]
  constructor
  · exact plain_of_restored hframed
  · intro hplain
    exact (restored_iff hframed hplain []).2 fun _ hentry => absurd hentry List.not_mem_nil

theorem framed_of_generate {s : Schema} {time : String} {g : Generated}
    (h : s.generate time = .ok g) {language : String} (hc : g.messages.get? language = some c) :
    ∀ entry ∈ c.messages.entries, Framed entry.1.toList := by
  obtain ⟨-, hcatalog⟩ := Schema.catalog_of_generate h hc
  exact fun entry hentry => framed_catalog (hcatalog ▸ hentry)

/-- A generated catalog, written under a heading that names no message, is read back as it was
exactly if all of its messages are plain. If they are, a heading does no harm exactly if it names
nothing but messages of the catalog. -/
theorem properties_restores {s : Schema} {time : String} {g : Generated}
    (h : s.generate time = .ok g) {language : String} (hc : g.messages.get? language = some c)
    (project written : String) :
    (headingMessages project written = .empty →
      (ofProperties (properties project written c) = c ↔
        ∀ entry ∈ c.messages.entries, PlainMessage entry)) ∧
    ((∀ entry ∈ c.messages.entries, PlainMessage entry) →
      (ofProperties (properties project written c) = c ↔
        ∀ entry ∈ (headingMessages project written).messages.entries,
          c.messages.contains entry.1 = true)) := by
  have hframed := framed_of_generate h hc
  refine ⟨restored_alone hframed, fun hplain => ?_⟩
  rw [ofProperties_properties, restored_iff hframed hplain, headingMessages_eq]
  exact (Dict.forall_keys_ofList (p := fun key => c.messages.contains key = true)).symm

/-- A schema of one table with one column. -/
def oneColumn (column : String) : Schema :=
  ⟨⟨"Shop", "en", ["en"]⟩,
    [("items", .obj [("columns", .obj [(column, .obj [("type", .str "INT")])])])]⟩

theorem headingMessages_shop : headingMessages "Shop" "en" = .empty :=
  headingMessages_eq_empty (by decide +kernel)

/-- The messages of a table whose names are words are read back. -/
theorem restores_count : ∃ g c, (oneColumn "count").generate "now" = .ok g ∧
    g.messages.get? "en" = some c ∧ headingMessages "Shop" "en" = .empty ∧
    (∀ entry ∈ c.messages.entries, PlainMessage entry) ∧
    ofProperties (properties "Shop" "en" c) = c := by
  obtain ⟨g, hg, hmessages⟩ := exists_of_any (x := (oneColumn "count").generate "now")
    (p := fun g => (g.messages.get? "en").any fun c : Catalog =>
      c.messages.entries.all fun entry => decide (PlainMessage entry)) (by decide +kernel)
  obtain ⟨c, hc, hmessages⟩ := (Option.any_eq_true _ _).1 hmessages
  have hplain : ∀ entry ∈ c.messages.entries, PlainMessage entry := fun entry hentry =>
    of_decide_eq_true (List.all_eq_true.1 hmessages entry hentry)
  have hrestores := (properties_restores hg hc "Shop" "en").1 headingMessages_shop
  exact ⟨g, c, hg, hc, headingMessages_shop, hplain, hrestores.2 hplain⟩

/-- A colon in the name of a column cuts the key of its label. -/
theorem not_restored_colon : ∃ g c, (oneColumn "size:net").generate "now" = .ok g ∧
    g.messages.get? "en" = some c ∧ ofProperties (properties "Shop" "en" c) ≠ c := by
  obtain ⟨g, hg, hmessages⟩ := exists_of_any (x := (oneColumn "size:net").generate "now")
    (p := fun g => (g.messages.get? "en").any fun c : Catalog =>
      c.messages.entries.any fun entry => !decide (PlainKey entry.1.toList)) (by decide +kernel)
  obtain ⟨c, hc, hmessages⟩ := (Option.any_eq_true _ _).1 hmessages
  obtain ⟨entry, hentry, hcut⟩ := List.any_eq_true.1 hmessages
  have hkey : ¬ PlainKey entry.1.toList := by simpa using hcut
  refine ⟨g, c, hg, hc, fun heq => ?_⟩
  have hplain := (restored_alone (framed_of_generate hg hc) headingMessages_shop).1 heq
  exact hkey (hplain entry hentry).key

end RecordDesk.Generated
