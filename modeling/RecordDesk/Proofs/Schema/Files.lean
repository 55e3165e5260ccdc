import RecordDesk.Proofs.Host.Disk
import RecordDesk.Proofs.Schema.Messages

/-
  Generated documents in an empty directory of a machine. They can be written exactly if the names
  of all languages can be parts of a file name, and messages are then found for every language, with
  a text for each message of a rule, exactly if the default language is among the supported ones
  (`served_iff`): the file for languages that have none of their own is written with the default
  language and with no other.
-/

namespace RecordDesk

open Disk (PlainName StrayName)
open Machine (run_bind)

namespace ConfigFiles

/-! ## Names of files -/

theorem plainName_tables : PlainName tablesName := ⟨by decide, by decide, by decide, by decide⟩

theorem plainName_rules : PlainName rulesName := ⟨by decide, by decide, by decide, by decide⟩

theorem plainName_messages : PlainName messagesName := ⟨by decide, by decide, by decide, by decide⟩

/-- The name of a language can be a part of the name of a file. -/
def FileLanguage (l : String) : Prop := '/' ∉ l.toList ∧ '\x00' ∉ l.toList

instance (l : String) : Decidable (FileLanguage l) :=
  inferInstanceAs (Decidable (_ ∧ _))

variable {l language : String}

theorem toList_localizedName (l : String) :
    (localizedName l).toList = "messages_".toList ++ l.toList ++ ".properties".toList := by
  simp [localizedName]

theorem hasNull_localizedName (l : String) : Disk.hasNull (localizedName l) = Disk.hasNull l := by
  rw [Disk.hasNull, toList_localizedName, Disk.hasNull]
  simp

theorem plainName_localizedName (h : FileLanguage l) : PlainName (localizedName l) := by
  have hlist := toList_localizedName l
  have hlong : ∀ name : String, name.toList.length < 9 → localizedName l ≠ name := by
    rintro name hlength rfl
    rw [hlist] at hlength
    simp at hlength
    omega
  refine ⟨hlong _ (by decide), ?_, ?_, hlong _ (by decide), hlong _ (by decide)⟩
  · rw [hlist]
    simp [h.1]
  · rw [hasNull_localizedName, Disk.hasNull]
    simpa using h.2

/-- Other languages lead to another directory, or to nothing on a disk. -/
theorem strayName_localizedName (h : ¬ FileLanguage l) : StrayName (localizedName l) := by
  by_cases hnull : Disk.hasNull l = true
  · exact .null (hasNull_localizedName l ▸ hnull)
  have hslash : '/' ∈ l.toList := by
    by_contra hslash
    exact h ⟨hslash, by simpa [Disk.hasNull] using hnull⟩
  obtain ⟨front, back, hl, hfront⟩ := List.eq_append_cons_of_mem hslash
  have hname : localizedName l =
      "messages_" ++ String.ofList front ++ "/" ++ (String.ofList back ++ ".properties") := by
    rw [← String.toList_inj, toList_localizedName, hl]
    simp
  have hplain : PlainName ("messages_" ++ String.ofList front) := by
    refine ⟨by simp, by simpa using hfront, ?_, fun heq => ?_, fun heq => ?_⟩
    · have hfree : '\x00' ∉ front ++ '/' :: back := by
        rw [← hl]
        simpa [Disk.hasNull] using hnull
      have hfront' : '\x00' ∉ front := fun hmem => hfree (List.mem_append_left _ hmem)
      simpa [Disk.hasNull] using hfront'
    · simpa using congrArg String.toList heq
    · simpa using congrArg String.toList heq
  have hback : Disk.steps (String.ofList back ++ ".properties") ≠ [] := by
    intro hnil
    have hslash := Disk.eq_slash_of_steps hnil 's' (by simp)
    revert hslash
    decide
  obtain ⟨next, rest, hrest⟩ := List.exists_cons_of_ne_nil hback
  refine .deep _ next rest ?_ hplain.noDots.1 hplain.noDots.2
  rw [hname, Disk.steps_append, hplain.steps, hrest, List.singleton_append]

theorem localizedName_inj (h : localizedName l = localizedName language) : l = language := by
  have hlist := congrArg String.toList h
  rw [toList_localizedName, toList_localizedName, List.append_cancel_right_eq,
    List.append_cancel_left_eq] at hlist
  exact String.toList_inj.1 hlist

theorem localizedName_ne (l : String) :
    localizedName l ≠ tablesName ∧ localizedName l ≠ rulesName ∧
      localizedName l ≠ messagesName := by
  have hlist := toList_localizedName l
  refine ⟨fun heq => ?_, fun heq => ?_, fun heq => ?_⟩
  all_goals
    rw [heq] at hlist
    simp [tablesName, rulesName, messagesName] at hlist

end ConfigFiles

namespace Generated

open ConfigFiles

variable {g : Generated} {directory : String}

/-- The files that are written. -/
theorem mem_files {file : String × String} : file ∈ g.files ↔
    file = (tablesName, (Document.ofTableBook g.tables).pretty) ∨
      file = (rulesName, (Document.ofRuleBook g.rules).pretty) ∨
      ∃ language c, g.messages.get? language = some c ∧
        (language = g.tables.project.defaultLanguage ∧
            file = (messagesName, properties g.tables.project.name language c) ∨
          file = (localizedName language, properties g.tables.project.name language c)) := by
  have hmessages : ∀ language c, file ∈ messageFiles g language c ↔
      (language = g.tables.project.defaultLanguage ∧
          file = (messagesName, properties g.tables.project.name language c) ∨
        file = (localizedName language, properties g.tables.project.name language c)) := by
    intro language c
    rw [messageFiles, List.mem_append, List.mem_singleton]
    by_cases hdefault : language = g.tables.project.defaultLanguage
    · simp [hdefault]
    · simp [hdefault]
  simp only [files, List.mem_cons, List.mem_flatMap, Prod.exists, hmessages, Dict.mem_entries_iff]

/-! ## Writing -/

/-- Writes a file into a directory. The answer is its path. -/
def writeFile (directory : String) (file : String × String) :
    ExceptT Error (StateM Machine) String := do
  let path := Path.join directory file.1
  Machine.host.write path file.2
  return path

theorem write_eq (g : Generated) (directory : String) :
    g.write Machine.host directory =
      Machine.host.makeDirs directory >>= fun _ => g.files.mapM (writeFile directory) := rfl

variable {m : Machine} {done files : List (String × String)} {file : String × String}

/-- A step writes a file of a plain name, and fails for one that leads elsewhere. -/
theorem writeFile_plain (h : m.disk.Holds directory done) (hname : PlainName file.1) :
    ∃ path m', writeFile directory file m = (.ok path, m') ∧
      m'.disk.Holds directory (done ++ [file]) := by
  obtain ⟨disk, hwrite, hholds⟩ := h.write hname file.2
  refine ⟨Path.join directory file.1, { m with disk }, ?_, hholds⟩
  rw [writeFile, run_bind]
  have hchange : Machine.host.write (Path.join directory file.1) file.2 m =
      (.ok (), { m with disk }) := by
    simp only [Machine.host, Machine.change, hwrite]
  rw [hchange]
  rfl

theorem writeFile_stray (h : m.disk.Holds directory done) (hname : StrayName file.1) :
    ∃ e, writeFile directory file m = (.error e, m) := by
  obtain ⟨fault, hfault⟩ := h.not_write hname file.2
  refine ⟨Machine.failure (Path.join directory file.1) fault, ?_⟩
  rw [writeFile, run_bind]
  have hchange : Machine.host.write (Path.join directory file.1) file.2 m =
      (.error (Machine.failure (Path.join directory file.1) fault), m) := by
    simp only [Machine.host, Machine.change, hfault]
  rw [hchange]

/-- Files are written one after another, up to the first whose name leads elsewhere. -/
theorem writeFiles (hnames : ∀ file ∈ files, PlainName file.1 ∨ StrayName file.1)
    (h : m.disk.Holds directory done) :
    (∃ paths m', files.mapM (writeFile directory) m = (.ok paths, m') ∧
      m'.disk.Holds directory (done ++ files) ∧ ∀ file ∈ files, PlainName file.1) ∨
    ∃ e m', files.mapM (writeFile directory) m = (.error e, m') ∧
      ∃ file ∈ files, StrayName file.1 := by
  induction files generalizing done m with
  | nil =>
    refine .inl ⟨[], m, rfl, ?_, fun _ h => absurd h List.not_mem_nil⟩
    rwa [List.append_nil]
  | cons file rest ih =>
    rw [List.mapM_cons, run_bind]
    rcases hnames file List.mem_cons_self with hname | hname
    · obtain ⟨path, m₁, hfirst, hholds⟩ := writeFile_plain h hname
      rw [hfirst]
      dsimp only
      rw [run_bind]
      rcases ih (fun f hf => hnames f (List.mem_cons_of_mem _ hf)) hholds with
        ⟨paths, m', hrest, hholds', hplain⟩ | ⟨e, m', hrest, deep, hmem, hstray⟩
      · left
        rw [hrest]
        refine ⟨path :: paths, m', rfl, ?_, List.forall_mem_cons.2 ⟨hname, hplain⟩⟩
        rwa [List.append_assoc, List.singleton_append] at hholds'
      · right
        rw [hrest]
        exact ⟨e, m', rfl, deep, List.mem_cons_of_mem _ hmem, hstray⟩
    · obtain ⟨e, hfirst⟩ := writeFile_stray h hname
      right
      rw [hfirst]
      exact ⟨e, m, rfl, file, List.mem_cons_self, hname⟩

variable {s : Schema} {time : String}

/-- Into an empty directory, everything is written unless a language is no part of a file name. -/
theorem write_empty (h : s.generate time = .ok g) (hempty : m.disk.Holds directory []) :
    (∃ paths m', g.write Machine.host directory m = (.ok paths, m') ∧
      m'.disk.Holds directory g.files ∧ ∀ l ∈ s.project.languages, FileLanguage l) ∨
    ∃ e m', g.write Machine.host directory m = (.error e, m') ∧
      ∃ l ∈ s.project.languages, ¬ FileLanguage l := by
  have hlanguage : ∀ {l c}, g.messages.get? l = some c → l ∈ s.project.languages := fun hc =>
    (Schema.exists_catalog_iff h).1 ⟨_, hc⟩
  have hnames : ∀ file ∈ g.files, PlainName file.1 ∨
      StrayName file.1 ∧ ∃ l ∈ s.project.languages, ¬ FileLanguage l := by
    intro file hfile
    rcases mem_files.1 hfile with rfl | rfl | ⟨l, c, hc, ⟨-, rfl⟩ | rfl⟩
    · exact .inl plainName_tables
    · exact .inl plainName_rules
    · exact .inl plainName_messages
    · by_cases hfile : FileLanguage l
      · exact .inl (plainName_localizedName hfile)
      · exact .inr ⟨strayName_localizedName hfile, l, hlanguage hc, hfile⟩
  have hmake : Machine.host.makeDirs directory m = (.ok (), m) := by
    simp only [Machine.host, Machine.change, Disk.makeDirs_directory hempty.found]
  rw [write_eq, run_bind, hmake]
  rcases writeFiles (fun file hfile => (hnames file hfile).imp id And.left) hempty with
    ⟨paths, m', hrun, hholds, hplain⟩ | ⟨e, m', hrun, file, hfile, hstray⟩
  · refine .inl ⟨paths, m', hrun, hholds, fun l hl => ?_⟩
    by_contra hfile
    obtain ⟨c, hc⟩ := (Schema.exists_catalog_iff h).2 hl
    refine (hplain _ (mem_files.2 (.inr (.inr ⟨l, c, hc, .inr rfl⟩)))).not_stray ?_
    exact strayName_localizedName hfile
  · exact .inr ⟨e, m', hrun, ((hnames file hfile).resolve_left fun hplain =>
      hplain.not_stray hstray).2⟩

/-! ## Reading -/

/-- The configuration in a directory of a machine. -/
def fileSource (directory : String) : ConfigSource (StateM Machine) :=
  ConfigFiles.source fun name => Machine.host.read (Path.join directory name)

/-- Messages of a language are read from its own file, else from the file for all others. -/
theorem messages_eq (l : String) (m : Machine) : (fileSource directory).messages l m =
    (match m.disk.read (Path.join directory (localizedName l)) with
      | .ok text => .ok (.ofProperties text)
      | .error _ =>
        let path := Path.join directory messagesName
        ((m.disk.read path).mapError (Machine.failure path)).map .ofProperties, m) := by
  have hread : ∀ path, (Machine.host.read path : StateM Machine _) m =
      ((m.disk.read path).mapError (Machine.failure path), m) := fun _ => rfl
  simp only [fileSource, ConfigFiles.source, bind, StateT.bind, hread]
  cases m.disk.read (Path.join directory (localizedName l)) <;> rfl

theorem mem_of_find {name text : String} (h : Dict.find? g.files.reverse name = some text) :
    (name, text) ∈ g.files :=
  List.mem_reverse.1 (Dict.mem_of_find? h)

/-- Under the name for a language stand the messages of this language. -/
theorem catalog_of_find {l text : String}
    (h : Dict.find? g.files.reverse (localizedName l) = some text) :
    ∃ c, g.messages.get? l = some c ∧ text = properties g.tables.project.name l c := by
  obtain ⟨htables, hrules, hmessages⟩ := localizedName_ne l
  rcases mem_files.1 (mem_of_find h) with heq | heq | ⟨l', c, hc, ⟨-, heq⟩ | heq⟩
  · exact absurd (Prod.mk.inj heq).1 htables
  · exact absurd (Prod.mk.inj heq).1 hrules
  · exact absurd (Prod.mk.inj heq).1 hmessages
  · obtain ⟨hname, rfl⟩ := Prod.mk.inj heq
    obtain rfl := localizedName_inj hname
    exact ⟨c, hc, rfl⟩

/-- A supported language has its file. -/
theorem find_localized {l : String} {c : Catalog} (hc : g.messages.get? l = some c) :
    Dict.find? g.files.reverse (localizedName l) =
      some (properties g.tables.project.name l c) := by
  have hmem : (localizedName l, properties g.tables.project.name l c) ∈ g.files :=
    mem_files.2 (.inr (.inr ⟨l, c, hc, .inr rfl⟩))
  obtain ⟨text, htext⟩ := Dict.exists_find?.2
    (List.mem_map_of_mem (f := Prod.fst) (List.mem_reverse.2 hmem))
  obtain ⟨c', hc', rfl⟩ := catalog_of_find htext
  rw [htext, Option.some.inj (hc.symm.trans hc')]

/-- A language that is not supported has no file. -/
theorem find_localized_none {l : String} (h : g.messages.get? l = none) :
    Dict.find? g.files.reverse (localizedName l) = none := by
  refine Option.eq_none_iff_forall_not_mem.2 fun text htext => ?_
  obtain ⟨c, hc, -⟩ := catalog_of_find htext
  cases h.symm.trans hc

/-- Without the default language there is no file for languages that have none of their own. -/
theorem find_messages_none (h : g.messages.get? g.tables.project.defaultLanguage = none) :
    Dict.find? g.files.reverse messagesName = none := by
  refine Option.eq_none_iff_forall_not_mem.2 fun text htext => ?_
  rcases mem_files.1 (mem_of_find htext) with heq | heq | ⟨l, c, hc, ⟨hl, -⟩ | heq⟩
  · exact absurd (Prod.mk.inj heq).1 (by decide)
  · exact absurd (Prod.mk.inj heq).1 (by decide)
  · rw [hl, h] at hc
    cases hc
  · exact (localizedName_ne l).2.2 (Prod.mk.inj heq).1.symm

theorem messages_served (h : m.disk.Holds directory g.files) {l : String} {c : Catalog}
    (hc : g.messages.get? l = some c) (hfile : FileLanguage l) :
    (fileSource directory).messages l m =
      (.ok (.ofProperties (properties g.tables.project.name l c)), m) := by
  rw [messages_eq, h.read (plainName_localizedName hfile), find_localized hc]
  rfl

theorem messages_missing (h : m.disk.Holds directory g.files)
    (hdefault : g.messages.get? g.tables.project.defaultLanguage = none) :
    ∃ e, (fileSource directory).messages g.tables.project.defaultLanguage m = (.error e, m) := by
  have hlocalized : ∃ fault, m.disk.read
      (Path.join directory (localizedName g.tables.project.defaultLanguage)) = .error fault := by
    by_cases hfile : FileLanguage g.tables.project.defaultLanguage
    · rw [h.read (plainName_localizedName hfile), find_localized_none hdefault]
      exact ⟨_, rfl⟩
    · exact h.not_read (strayName_localizedName hfile)
  obtain ⟨fault, hfault⟩ := hlocalized
  refine ⟨Machine.failure (Path.join directory messagesName) .missing, ?_⟩
  rw [messages_eq, hfault]
  dsimp only
  rw [h.read plainName_messages, find_messages_none hdefault]
  rfl

/-! ## Messages of rules -/

/-- The catalog has a text for the message of every rule. -/
def Explains (c : Catalog) (rules : RuleBook) : Prop :=
  ∀ table ∈ rules.tables.entries, ∀ field ∈ table.2.fields.entries, ∀ r ∈ field.2.rules,
    c.messages.contains r.message = true

theorem message_plainRule {kind : RuleKind} (hkind : kind ∈ Schema.plainKinds)
    (value : Option Value) :
    (Schema.plainRule kind value).message ∈ Schema.englishMessages.map Prod.fst := by
  have hkeys : ∀ kind ∈ Schema.plainKinds,
      (Schema.plainRule kind none).message ∈ Schema.englishMessages.map Prod.fst := by decide
  have hmessage : (Schema.plainRule kind value).message = (Schema.plainRule kind none).message := by
    cases kind <;> first | rfl | exact absurd hkind (by decide)
  exact hmessage ▸ hkeys kind hkind

theorem message_patternRule (text : String) :
    (Schema.patternRule text).message ∈ Schema.englishMessages.map Prod.fst := by
  simp only [Schema.patternRule, Rule.defaultKey, Rule.patternText?]
  split <;> decide

/-- The keys of the messages of rules are the same in all languages. -/
theorem map_fst_ruleMessages (language : String) :
    (Schema.ruleMessages language).map Prod.fst = Schema.englishMessages.map Prod.fst := by
  unfold Schema.ruleMessages
  split <;> decide

theorem mem_ruleMessages {spec : Schema.ColumnSpec} {r : Rule} (h : r ∈ Schema.rules spec)
    (language : String) : r.message ∈ (Schema.ruleMessages language).map Prod.fst := by
  rw [map_fst_ruleMessages]
  rcases Schema.mem_rules h with ⟨kind, hkind, value, rfl⟩ | ⟨text, -, rfl⟩
  · exact message_plainRule hkind value
  · exact message_patternRule text

/-- What is read of a written catalog has a text for the message of every generated rule. -/
theorem explains_properties (h : s.generate time = .ok g) {l : String} {c : Catalog}
    (hc : g.messages.get? l = some c) (project written : String) :
    Explains (.ofProperties (properties project written c)) g.rules := by
  obtain ⟨-, hcatalog⟩ := Schema.catalog_of_generate h hc
  intro table htable field hfield r hr
  obtain ⟨spec, hspec⟩ := Schema.rules_of_generate h table htable field hfield r hr
  have hkey := mem_ruleMessages hspec l
  have hplain : ∀ key ∈ Schema.englishMessages.map Prod.fst, Catalog.PlainKey key.toList := by
    decide +kernel
  obtain ⟨text, htext⟩ : ∃ text, c.messages.get? r.message = some text := by
    rw [hcatalog, Schema.catalog, Dict.exists_get?_ofList, List.map_append]
    exact List.mem_append_left _ hkey
  have hentry : (r.message, text) ∈ c.messages.entries := Dict.mem_entries_iff.2 htext
  have hread : r.message ∈ (c.messages.entries.flatMap readMessage).map Prod.fst := by
    rw [List.map_flatMap]
    refine List.mem_flatMap.2 ⟨_, hentry, ?_⟩
    rw [readMessage_plain (framed_of_generate h hc _ hentry)
      (hplain _ (map_fst_ruleMessages l ▸ hkey))]
    exact List.mem_singleton_self _
  rw [ofProperties_properties]
  refine Option.isSome_iff_exists.2 (Dict.exists_get?_ofList.2 ?_)
  rw [List.map_append]
  exact List.mem_append_right _ hread

/-! ## Languages -/

/-- Messages are found for every language of the project, and those for the default language have
the text of every rule. -/
structure Served (g : Generated) (directory : String) (m : Machine) : Prop where
  answers : ∀ l, l = g.tables.project.defaultLanguage ∨ l ∈ g.tables.project.languages →
    ∃ c, (fileSource directory).messages l m = (.ok c, m)
  explains : ∀ c, (fileSource directory).messages g.tables.project.defaultLanguage m = (.ok c, m) →
    Explains c g.rules

theorem served_of_mem (h : s.generate time = .ok g) (hholds : m.disk.Holds directory g.files)
    (hfiles : ∀ l ∈ s.project.languages, FileLanguage l)
    (hdefault : s.project.defaultLanguage ∈ s.project.languages) : Served g directory m := by
  have hproject := Schema.project_of_generate h
  have hserved : ∀ l ∈ s.project.languages, ∃ c, g.messages.get? l = some c ∧
      (fileSource directory).messages l m =
        (.ok (.ofProperties (properties g.tables.project.name l c)), m) := by
    intro l hl
    obtain ⟨c, hc⟩ := (Schema.exists_catalog_iff h).2 hl
    exact ⟨c, hc, messages_served hholds hc (hfiles l hl)⟩
  constructor
  · rw [hproject]
    intro l hl
    obtain ⟨c, -, hread⟩ := hserved l (hl.elim (fun heq => heq ▸ hdefault) id)
    exact ⟨_, hread⟩
  · rw [hproject]
    intro c hread
    obtain ⟨c', hc', hread'⟩ := hserved _ hdefault
    obtain rfl := Except.ok.inj (Prod.mk.inj (hread.symm.trans hread')).1
    exact explains_properties h hc' _ _

theorem mem_of_served (h : s.generate time = .ok g) (hholds : m.disk.Holds directory g.files)
    (hserved : Served g directory m) : s.project.defaultLanguage ∈ s.project.languages := by
  by_contra hdefault
  have hproject := Schema.project_of_generate h
  have hnone : g.messages.get? g.tables.project.defaultLanguage = none := by
    rw [hproject, ← Option.not_isSome_iff_eq_none, Option.isSome_iff_exists]
    exact fun hc => hdefault ((Schema.exists_catalog_iff h).1 hc)
  obtain ⟨e, hmissing⟩ := messages_missing hholds hnone
  obtain ⟨c, hread⟩ := hserved.answers _ (.inl rfl)
  cases (Prod.mk.inj (hread.symm.trans hmissing)).1

/-- Generated documents can be written into an empty directory exactly if every supported language
can be a part of a file name. Messages are then found for the default language and for all that are
supported, with the texts of all rules for the default one, exactly if that one is supported. -/
theorem served_iff (h : s.generate time = .ok g) (hempty : m.disk.Holds directory []) :
    ((∃ paths m', g.write Machine.host directory m = (.ok paths, m')) ↔
      ∀ l ∈ s.project.languages, FileLanguage l) ∧
    ∀ paths m', g.write Machine.host directory m = (.ok paths, m') →
      (Served g directory m' ↔ s.project.defaultLanguage ∈ s.project.languages) := by
  rcases write_empty h hempty with
    ⟨paths, m', hwrite, hholds, hfiles⟩ | ⟨e, m', hwrite, l, hl, hfile⟩
  · refine ⟨iff_of_true ⟨paths, m', hwrite⟩ hfiles, fun paths₁ m₁ hwrite₁ => ?_⟩
    obtain rfl := (Prod.mk.inj (hwrite.symm.trans hwrite₁)).2
    exact ⟨mem_of_served h hholds, served_of_mem h hholds hfiles⟩
  · have hnot : ∀ paths m', g.write Machine.host directory m ≠ (.ok paths, m') := by
      intro paths₁ m₁ hwrite₁
      cases (Prod.mk.inj (hwrite.symm.trans hwrite₁)).1
    refine ⟨iff_of_false (fun ⟨paths, m', hok⟩ => hnot paths m' hok) fun hfiles => ?_,
      fun paths m' hok => absurd hok (hnot paths m')⟩
    exact hfile (hfiles l hl)

/-- A machine with one directory, which is empty. -/
def emptyOut : Machine := ⟨⟨[(["out"], .directory)]⟩, [], none⟩

theorem holds_emptyOut : emptyOut.disk.Holds "out" [] where
  found := by decide +kernel
  files name := by
    have hplace : Disk.place "out" = ["out"] := by decide +kernel
    have hother : (["out", name] == ["out"]) = false := by simp
    simp [emptyOut, Disk.node?, hplace, List.lookup_cons, hother, Dict.find?]

/-- A schema of a column that must have a value. -/
def requiredCount : Schema :=
  let column : Value := .obj [("type", .str "INT"), ("validation", .obj [("required", .bool true)])]
  ⟨⟨"Shop", "en", ["en"]⟩, [("items", .obj [("columns", .obj [("count", column)])])]⟩

/-- A schema of one language is served if that is the default language. -/
theorem served_count : ∃ g, requiredCount.generate "now" = .ok g ∧
    (g.rules.table? "items").any (·.fields.contains "count") = true ∧
    emptyOut.disk.Holds "out" [] ∧
    ∃ paths m', g.write Machine.host "out" emptyOut = (.ok paths, m') ∧ Served g "out" m' := by
  obtain ⟨g, hg, hrule⟩ := exists_of_any (x := requiredCount.generate "now")
    (p := fun g => (g.rules.table? "items").any (·.fields.contains "count")) (by decide +kernel)
  have hserved := served_iff hg holds_emptyOut
  obtain ⟨paths, m', hwrite⟩ := hserved.1.2 (by decide)
  exact ⟨g, hg, hrule, holds_emptyOut, paths, m', hwrite,
    (hserved.2 paths m' hwrite).2 (by decide)⟩

/-- A schema without tables whose default language is not among the supported ones. -/
def french : Schema := ⟨⟨"Shop", "fr", ["ja", "en"]⟩, []⟩

/-- No messages are found for a default language that is not supported. -/
theorem not_served_french : ∃ g, french.generate "now" = .ok g ∧
    emptyOut.disk.Holds "out" [] ∧
    ∃ paths m', g.write Machine.host "out" emptyOut = (.ok paths, m') ∧ ¬ Served g "out" m' := by
  obtain ⟨g, hg, -⟩ := exists_of_any (x := french.generate "now") (p := fun _ => true)
    (by decide +kernel)
  rcases write_empty hg holds_emptyOut with ⟨paths, m', hwrite, hholds, -⟩ | ⟨-, -, -, l, hl, hfile⟩
  · refine ⟨g, hg, holds_emptyOut, paths, m', hwrite, fun hserved => ?_⟩
    exact absurd (mem_of_served hg hholds hserved) (by decide)
  · have hfiles : ∀ l ∈ french.project.languages, FileLanguage l := by decide
    exact absurd (hfiles l hl) hfile

end Generated

end RecordDesk
