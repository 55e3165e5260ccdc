import Mathlib.Algebra.BigOperators.Group.List.Basic
import RecordDesk.Host.Disk
import RecordDesk.Host.Path
import RecordDesk.Proofs.Dict
import RecordDesk.Proofs.Steps
import RecordDesk.Proofs.Text.Lines

/-
  Files in one directory of a disk. Where a directory holds some files and nothing else (`Holds`), a
  file of a plain name can be written, and the directory then holds it too (`Holds.write`); what is
  read is what was written last (`Holds.read`). Nothing can be written or read under a name that
  leads through another one.
-/

namespace RecordDesk.Disk

variable {d : Disk} {way entered rest : List String} {node : DiskNode} {path directory : String}

/-! ## Places -/

theorem lookup_filter {way other : List String} (h : other ≠ way)
    (nodes : List (List String × DiskNode)) :
    (nodes.filter (·.1 != way)).lookup other = nodes.lookup other := by
  induction nodes with
  | nil => rfl
  | cons entry rest ih =>
    obtain ⟨w, node⟩ := entry
    by_cases hw : w = way
    · have hne : (other == w) = false := beq_eq_false_iff_ne.2 (hw ▸ h)
      rw [List.filter_cons_of_neg (by simpa using hw), ih, List.lookup_cons, hne]
    · rw [List.filter_cons_of_pos (by simpa using hw), List.lookup_cons, List.lookup_cons, ih]

/-- Putting a thing at a place changes nothing elsewhere. -/
theorem node?_put (hway : way ≠ []) (node : DiskNode) (other : List String) :
    (d.put way node).node? other = if other = way then some node else d.node? other := by
  have hput : d.put way node = ⟨(way, node) :: d.nodes.filter (·.1 != way)⟩ :=
    if_neg (by simpa using hway)
  rw [hput, node?, node?, List.lookup_cons]
  by_cases heq : other = way
  · subst heq
    rw [if_pos rfl, if_neg (by simpa using hway), beq_self_eq_true]
  · rw [if_neg heq, beq_eq_false_iff_ne.2 heq]
    dsimp only
    rw [lookup_filter heq]

/-! ## Directories on the way -/

theorem enter_eq_ok : d.enter way = .ok () ↔ d.node? way = some .directory := by
  unfold enter
  split <;> simp_all

theorem enterAll_cons {name : String} : d.enterAll entered (name :: rest) = .ok () ↔
    d.node? entered = some .directory ∧ d.enterAll (follow entered name) rest = .ok () := by
  rw [enterAll, bind_eq_ok, ← enter_eq_ok]
  constructor
  · rintro ⟨⟨⟩, h⟩
    exact h
  · exact fun h => ⟨(), h⟩

theorem enterAll_append {names : List String} : d.enterAll entered (names ++ rest) = .ok () ↔
    d.enterAll entered names = .ok () ∧ d.enterAll (names.foldl follow entered) rest = .ok () := by
  induction names generalizing entered with
  | nil => exact ⟨fun h => ⟨rfl, h⟩, And.right⟩
  | cons name names ih =>
    rw [List.cons_append, enterAll_cons, enterAll_cons, ih, List.foldl_cons, and_assoc]

/-- What is put where no directory is, is in nobody's way. -/
theorem enterAll_put (hway : way ≠ []) (hnode : d.node? way ≠ some .directory) (node : DiskNode)
    (h : d.enterAll entered rest = .ok ()) : (d.put way node).enterAll entered rest = .ok () := by
  induction rest generalizing entered with
  | nil => rfl
  | cons name rest ih =>
    obtain ⟨hentered, hrest⟩ := enterAll_cons.1 h
    have hne : entered ≠ way := fun heq => hnode (heq ▸ hentered)
    refine enterAll_cons.2 ⟨?_, ih hrest⟩
    rw [node?_put hway, if_neg hne]
    exact hentered

/-- The path can be looked up. -/
structure Usable (path : String) : Prop where
  nonEmpty : path ≠ ""
  noNull : hasNull path = false

/-- What is found where all directories on the way can be entered. -/
theorem find_entered (hpath : Usable path) (h : d.enterAll [] (steps path) = .ok ()) :
    d.find path =
      if asksDirectory path && (d.node? (place path)).any (· != .directory) then
        .error .notDirectory
      else .ok (d.node? (place path)) := by
  have hnonempty : path.isEmpty = false := by simpa using hpath.nonEmpty
  simp only [find, hpath.noNull, hnonempty, h, Bool.false_eq_true, if_false, bind, Except.bind,
    pure, Except.pure]
  cases d.node? (place path) with
  | none => simp
  | some node =>
    cases node with
    | directory => simp
    | file text => cases asksDirectory path <;> rfl

theorem enterAll_of_find {found : Option DiskNode} (h : d.find path = .ok found) :
    Usable path ∧ d.enterAll [] (steps path) = .ok () := by
  unfold find at h
  cases hnull : hasNull path with
  | true =>
    rw [hnull] at h
    cases h
  | false =>
    rw [hnull] at h
    by_cases hpath : path = ""
    · subst hpath
      cases h
    · have hnonempty : path.isEmpty = false := by simpa using hpath
      simp only [hnonempty, Bool.false_eq_true, if_false] at h
      obtain ⟨⟨⟩, henter, -⟩ := bind_eq_ok.1 h
      exact ⟨⟨hpath, hnull⟩, henter⟩

/-- A directory is found at a path. -/
theorem find_eq_directory : d.find path = .ok (some .directory) ↔
    Usable path ∧ d.enterAll [] (steps path) = .ok () ∧
      d.node? (place path) = some .directory := by
  constructor
  · intro h
    obtain ⟨hpath, henter⟩ := enterAll_of_find h
    refine ⟨hpath, henter, ?_⟩
    rw [find_entered hpath henter] at h
    split at h
    · cases h
    · exact Except.ok.inj h
  · rintro ⟨hpath, henter, hnode⟩
    rw [find_entered hpath henter, hnode]
    simp

/-- A directory that is there need not be made. -/
theorem makeDirs_directory (h : d.find path = .ok (some .directory)) :
    d.makeDirs path = .ok d := by
  obtain ⟨hpath, henter, hnode⟩ := find_eq_directory.1 h
  rw [makeDirs, if_neg (by simp [hpath.noNull])]
  unfold place at hnode
  generalize steps path = names at henter hnode
  generalize ([] : List String) = entered at henter hnode ⊢
  induction names generalizing entered with
  | nil => rfl
  | cons name rest ih =>
    obtain ⟨-, hrest⟩ := enterAll_cons.1 henter
    have hdirectory : d.node? (follow entered name) = some .directory := by
      cases rest with
      | nil => exact hnode
      | cons next rest => exact (enterAll_cons.1 hrest).1
    rw [makeFrom, hdirectory]
    exact ih _ hrest hnode

/-! ## Names in a directory -/

variable {name text : String}

theorem steps_append (front back : String) :
    steps (front ++ "/" ++ back) = steps front ++ steps back := by
  have hsplit : Text.splitChars (· == '/') (front ++ "/" ++ back).toList =
      Text.splitChars (· == '/') front.toList ++ Text.splitChars (· == '/') back.toList := by
    rw [← Text.splitChars_append (c := '/') rfl]
    simp
  rw [steps, Text.split, hsplit, List.map_append, List.filter_append]
  rfl

/-- A path without a step has nothing but slashes. -/
theorem eq_slash_of_steps (h : steps name = []) : ∀ c ∈ name.toList, c = '/' := by
  have hempty : ∀ piece ∈ Text.splitChars (· == '/') name.toList, piece.length = 0 := by
    intro piece hpiece
    have hnone := List.filter_eq_nil_iff.1 h _ (List.mem_map_of_mem hpiece)
    simpa using hnone
  have hsum := Text.sum_length_splitChars (· == '/') name.toList
  rw [List.sum_eq_zero (by simpa using hempty), Nat.zero_add, List.countP_eq_length] at hsum
  exact fun c hc => by simpa using hsum c hc

/-- The name of a thing in a directory. -/
structure PlainName (name : String) : Prop where
  nonEmpty : name ≠ ""
  noSlash : '/' ∉ name.toList
  noNull : hasNull name = false
  noDots : name ≠ "." ∧ name ≠ ".."

theorem PlainName.steps (h : PlainName name) : steps name = [name] := by
  have hnone : ∀ c ∈ name.toList, (c == '/') = false := fun c hc =>
    beq_eq_false_iff_ne.2 (ne_of_mem_of_not_mem hc h.noSlash)
  rw [Disk.steps, Text.split, Text.splitChars_of_none hnone, List.map_singleton,
    String.ofList_toList]
  exact List.filter_cons_of_pos (by simpa using h.nonEmpty)

theorem PlainName.follow (h : PlainName name) (way : List String) :
    follow way name = way ++ [name] := by
  simp [Disk.follow, h.noDots]

theorem steps_join (directory name : String) :
    steps (Path.join directory name) = steps directory ++ steps name := by
  unfold Path.join
  split
  · next h =>
    rcases Bool.or_eq_true_iff.1 h with h | h
    · obtain rfl : directory = "" := by simpa using h
      rw [String.empty_append]
      rfl
    · obtain ⟨cs, hcs⟩ := List.getLast?_eq_some_iff.1 (of_decide_eq_true h)
      obtain rfl : directory = String.ofList cs ++ "/" := by
        rw [← String.toList_inj, hcs]
        simp
      have hfront := steps_append (String.ofList cs) ""
      rw [String.append_empty] at hfront
      rw [steps_append, hfront]
      simp [steps, Text.split, Text.splitChars]
  · exact steps_append directory name

theorem hasNull_join (directory name : String) :
    hasNull (Path.join directory name) = (hasNull directory || hasNull name) := by
  unfold Path.join hasNull
  split <;> simp

theorem usable_join (hdirectory : Usable directory) (hname : PlainName name) :
    Usable (Path.join directory name) where
  nonEmpty := by
    unfold Path.join
    split <;> simp [hname.nonEmpty]
  noNull := by rw [hasNull_join, hdirectory.noNull, hname.noNull, Bool.or_false]

theorem asksDirectory_join (h : PlainName name) :
    asksDirectory (Path.join directory name) = false := by
  have hne : name.toList ≠ [] := by simpa using h.nonEmpty
  have hlast : (Path.join directory name).toList.getLast? = name.toList.getLast? := by
    unfold Path.join
    split
    · rw [String.toList_append, List.getLast?_append_of_ne_nil _ hne]
    · rw [String.toList_append, List.getLast?_append_of_ne_nil _ hne]
  have hnone : name.toList.getLast? ≠ some '/' := fun heq => h.noSlash (List.mem_of_getLast? heq)
  rw [asksDirectory, hlast]
  exact decide_eq_false hnone

theorem place_join (hname : PlainName name) :
    place (Path.join directory name) = place directory ++ [name] := by
  rw [place, steps_join, hname.steps, List.foldl_append, ← place]
  exact hname.follow _

/-- What stands in a directory is found under its plain name. -/
theorem find_join (hdirectory : d.find directory = .ok (some .directory)) (h : PlainName name) :
    d.find (Path.join directory name) = .ok (d.node? (place directory ++ [name])) := by
  obtain ⟨husable, henter, hnode⟩ := find_eq_directory.1 hdirectory
  have hsteps : steps (Path.join directory name) = steps directory ++ [name] := by
    rw [steps_join, h.steps]
  have henter' : d.enterAll [] (steps (Path.join directory name)) = .ok () := by
    rw [hsteps]
    exact enterAll_append.2 ⟨henter, enterAll_cons.2 ⟨hnode, rfl⟩⟩
  rw [find_entered (usable_join husable h) henter', asksDirectory_join h, place_join h]
  rfl

/-- A name of nothing in a directory without directories: it has a null character, or leads through
a thing of a plain name. -/
inductive StrayName (name : String) : Prop
  | null (h : hasNull name = true)
  | deep (first next : String) (rest : List String) (hsteps : steps name = first :: next :: rest)
    (hself : first ≠ ".") (hback : first ≠ "..")

theorem PlainName.not_stray (h : PlainName name) : ¬ StrayName name := by
  rintro (hnull | ⟨first, next, rest, hsteps, -, -⟩)
  · rw [h.noNull] at hnull
    cases hnull
  · rw [h.steps] at hsteps
    cases hsteps

/-- Nothing is found under a stray name where nothing is a directory. -/
theorem find_stray (hstray : StrayName name)
    (hfirst : ∀ first, d.node? (place directory ++ [first]) ≠ some .directory) :
    ∃ fault, d.find (Path.join directory name) = .error fault := by
  cases hfound : d.find (Path.join directory name) with
  | error fault => exact ⟨fault, rfl⟩
  | ok found =>
    obtain ⟨husable, henter⟩ := enterAll_of_find hfound
    cases hstray with
    | null hnull =>
      have hnone := husable.noNull
      rw [hasNull_join, hnull, Bool.or_true] at hnone
      cases hnone
    | deep first next rest hsteps hself hback =>
      rw [steps_join, hsteps, enterAll_append, enterAll_cons, enterAll_cons, ← place] at henter
      have hplace : follow (place directory) first = place directory ++ [first] := by
        simp [follow, hself, hback]
      exact absurd (hplace ▸ henter.2.2.1) (hfirst first)

/-! ## A directory of files -/

/-- The directory holds these files, the last of a name, and nothing else. -/
structure Holds (d : Disk) (directory : String) (files : List (String × String)) : Prop where
  found : d.find directory = .ok (some .directory)
  files : ∀ name, d.node? (place directory ++ [name]) =
    (Dict.find? files.reverse name).map .file

variable {files : List (String × String)}

theorem Holds.not_directory (h : d.Holds directory files) (name : String) :
    d.node? (place directory ++ [name]) ≠ some .directory := by
  rw [h.files]
  cases Dict.find? files.reverse name <;> simp

/-- A file can be written under a plain name. -/
theorem Holds.write (h : d.Holds directory files) (hname : PlainName name) (text : String) :
    ∃ d', d.write (Path.join directory name) text = .ok d' ∧
      d'.Holds directory (files ++ [(name, text)]) := by
  let d' := d.put (place directory ++ [name]) (.file text)
  have hway : place directory ++ [name] ≠ [] := by simp
  have hwrite : d.write (Path.join directory name) text = .ok d' := by
    rw [Disk.write, find_join h.found hname, h.files, place_join hname, asksDirectory_join hname]
    cases Dict.find? files.reverse name <;> rfl
  refine ⟨d', hwrite, ?_, ?_⟩
  · obtain ⟨hpath, henter, hnode⟩ := find_eq_directory.1 h.found
    refine find_eq_directory.2 ⟨hpath, enterAll_put hway (h.not_directory name) _ henter, ?_⟩
    rw [node?_put hway, if_neg (by simp)]
    exact hnode
  · intro other
    rw [node?_put hway, List.reverse_append, List.reverse_singleton, List.singleton_append,
      Dict.find?]
    by_cases heq : name = other
    · subst heq
      rw [if_pos rfl, if_pos rfl]
      rfl
    · rw [if_neg (by simpa using Ne.symm heq), if_neg heq, h.files]

theorem Holds.not_write (h : d.Holds directory files) (hname : StrayName name) (text : String) :
    ∃ fault, d.write (Path.join directory name) text = .error fault := by
  obtain ⟨fault, hfault⟩ := find_stray hname h.not_directory
  exact ⟨fault, by rw [Disk.write, hfault]; rfl⟩

/-- What is read is the file of the name, if there is one. -/
theorem Holds.read (h : d.Holds directory files) (hname : PlainName name) :
    d.read (Path.join directory name) =
      (Dict.find? files.reverse name).elim (.error .missing) .ok := by
  rw [Disk.read, find_join h.found hname, h.files]
  cases Dict.find? files.reverse name <;> rfl

theorem Holds.not_read (h : d.Holds directory files) (hname : StrayName name) :
    ∃ fault, d.read (Path.join directory name) = .error fault := by
  obtain ⟨fault, hfault⟩ := find_stray hname h.not_directory
  exact ⟨fault, by rw [Disk.read, hfault]; rfl⟩

/-- A file that can be read is there. -/
theorem isThere_of_read (h : d.read path = .ok text) : d.isThere path = true := by
  obtain ⟨found, hfound, h⟩ := bind_eq_ok.1 h
  rw [isThere, hfound]
  cases found with
  | some node => rfl
  | none => cases h

end RecordDesk.Disk

namespace RecordDesk.Machine

/-! ## Steps on a machine -/

/-- Steps on a machine, one after the other: the second is taken if the first succeeds. -/
theorem run_bind {α β : Type} (x : ExceptT Error (StateM Machine) α)
    (f : α → ExceptT Error (StateM Machine) β) (m : Machine) :
    (x >>= f) m = match x m with
      | (.ok a, m') => f a m'
      | (.error e, m') => (.error e, m') := by
  simp only [bind, ExceptT.bind, ExceptT.mk, StateT.bind, ExceptT.bindCont]
  rcases x m with ⟨_ | _, m'⟩ <;> rfl

theorem run_lift {α : Type} (x : StateM Machine α) (m : Machine) :
    (liftM x : ExceptT Error (StateM Machine) α) m = (.ok (x m).1, (x m).2) :=
  rfl

theorem run_except {α : Type} (x : Except Error α) (m : Machine) :
    (liftM x : ExceptT Error (StateM Machine) α) m = (x, m) := by
  cases x <;> rfl

end RecordDesk.Machine
