/-
**Reading and writing the files of a store.**

A store is a list of files and of directories that were made, and a path leads to a place in it through
directories only.  Writing a file makes no directory that was not there and takes none away, so every
path leads where it led before, and a file that is read afterwards has the new text or the one it had.

Main definitions:

* `Inlay.CommandLine.Store.folder` — the directory that names lead to;
* `Inlay.CommandLine.Store.SameDirectories` — stores in which every path leads to one place.

Main results:

* `Inlay.CommandLine.Store.write_cases` — what writing does;
* `Inlay.CommandLine.Store.sameDirectories_write` — writing leaves every path leading where it led;
* `Inlay.CommandLine.Store.read_write_self`, `Inlay.CommandLine.Store.read_write_of_ne` — what is read
  after writing;
* `Inlay.CommandLine.Store.exists_leads_of_read` — a path with a text ends in the name of a file;
* `Inlay.CommandLine.Store.resolve_of_leads` — the place of a file, from its directory and its name.
-/
import Inlay.CommandLine.Files
import Inlay.Proofs.Paths
import Mathlib.Data.List.Induction
import Mathlib.Data.List.Infix

set_option autoImplicit false

namespace Inlay.CommandLine.Store

variable {store next : Store} {path other : Path} {text : String} {place : Place}

/-! ### Directories -/

theorem isDirectory_iff :
    store.isDirectory place = true ↔
      (∃ made ∈ store.home :: nullDevice.dropLast :: store.directories, place <+: made) ∨
        ∃ file ∈ store.contents.map Prod.fst, place <+: file ∧ place.length < file.length := by
  simp only [isDirectory, Bool.or_eq_true, List.any_eq_true, List.isPrefixOf_iff_prefix,
    Bool.and_eq_true, decide_eq_true_eq, List.mem_map, exists_exists_and_eq_and]

/-- What is above a directory is a directory. -/
theorem isDirectory_of_prefix {above : Place} (h : store.isDirectory place = true)
    (habove : above <+: place) : store.isDirectory above = true := by
  rw [isDirectory_iff] at h ⊢
  rcases h with ⟨made, hmade, hprefix⟩ | ⟨file, hfile, hprefix, hlength⟩
  · exact Or.inl ⟨made, hmade, habove.trans hprefix⟩
  · exact Or.inr ⟨file, hfile, habove.trans hprefix, Nat.lt_of_le_of_lt habove.length_le hlength⟩

theorem descend_of_ordinary {name : Name} (h : Ordinary name) (place : Place) :
    descend place name = place ++ [name] := by
  simp [descend, h.isIdle, h.ne_up]

/-- A name that leads nowhere or up leads to a directory. -/
theorem isDirectory_descend {name : Name} (hplace : store.isDirectory place = true)
    (hname : name.isIdle = true ∨ name = Name.up) : store.isDirectory (descend place name) = true := by
  unfold descend
  split
  · exact hplace
  · next hidle =>
      rw [if_pos (hname.resolve_left hidle)]
      exact isDirectory_of_prefix hplace (List.dropLast_prefix place)

/-! ### The place of a path -/

theorem walk_append (place : Place) (names more : List Name) :
    store.walk place (names ++ more) =
      (store.walk place names).bind fun between => store.walk between more := by
  induction names generalizing place with
  | nil => rfl
  | cons name names ih =>
      rw [List.cons_append, walk, walk]
      split
      · exact ih (descend place name)
      · rfl

/-- The directory that names lead to, if there is one. -/
def folder (store : Store) (folders : List Name) : Option Place :=
  (store.walk (store.start folders) folders).filter store.isDirectory

theorem start_cons (first : Name) (rest : List Name) :
    store.start (first :: rest) = if first = [] then [] else store.home := by
  cases first with
  | nil => rfl
  | cons byte first => rfl

theorem start_concat {name : Name} (folders : List Name) (hname : name ≠ []) :
    store.start (folders ++ [name]) = store.start folders := by
  cases folders with
  | nil =>
      rw [List.nil_append, start_cons, if_neg hname]
      rfl
  | cons first rest => rw [List.cons_append, start_cons, start_cons]

theorem walk_singleton (place : Place) (name : Name) :
    store.walk place [name] = if store.isDirectory place then some (descend place name) else none :=
  rfl

theorem walk_concat (folders : List Name) (name : Name) (place : Place) :
    store.walk place (folders ++ [name]) =
      ((store.walk place folders).filter store.isDirectory).map (descend · name) := by
  rw [walk_append]
  cases store.walk place folders with
  | none => rfl
  | some between =>
      rw [Option.bind_some, walk_singleton, Option.filter_some]
      split
      · rfl
      · rfl

/-- **The place of a path**, from the directory that the names before its last one lead to. -/
theorem resolve_eq {folders : List Name} {name : Name} (h : path.names = folders ++ [name])
    (hname : name ≠ []) : store.resolve path = (store.folder folders).map (descend · name) := by
  rw [resolve, h, start_concat folders hname, walk_concat]
  rfl

/-- What leads nowhere at the end can be left out. -/
theorem folder_append_idle {first : Name} {rest idle : List Name}
    (hidle : ∀ name ∈ idle, name.isIdle = true) :
    store.folder (first :: (rest ++ idle)) = store.folder (first :: rest) := by
  induction idle using List.reverseRecOn with
  | nil => rw [List.append_nil]
  | append_singleton idle name ih =>
      have hsame : ∀ place, descend place name = place := by
        intro place
        simp [descend, hidle name (by simp)]
      rw [← ih fun name hname => hidle name (by simp [hname]), folder, folder, start_cons, start_cons,
        ← List.append_assoc, ← List.cons_append, walk_concat]
      simp [hsame]

/-- The directory beside a file. -/
theorem folder_parentFolders {above : List Name} {name : Name}
    (h : path.fileParts? = some (above, name)) : store.folder path.parentFolders = store.folder above := by
  rw [Path.parentFolders, h]
  cases above with
  | nil => rfl
  | cons first rest =>
      obtain ⟨idle, hrest, hidle⟩ := exists_eq_dropIdle_append rest
      conv_rhs => rw [hrest, folder_append_idle hidle]

/-- The place of a file, from its directory and its name. -/
theorem resolve_of_leads {above : List Name} {name : Name} (h : path.Leads above name) :
    store.resolve path = (store.folder above).map (· ++ [name]) := by
  rw [resolve_eq h.names_eq h.ordinary.ne_nil]
  simp only [descend_of_ordinary h.ordinary]

/-- Paths to files lead to one place only from one directory and with one name. -/
theorem eq_of_resolve_leads {above above' : List Name} {name name' : Name} (h : path.Leads above name)
    (h' : other.Leads above' name') (hplace : store.resolve path = some place)
    (hplace' : store.resolve other = some place) :
    store.folder above = store.folder above' ∧ name = name' := by
  rw [resolve_of_leads h] at hplace
  rw [resolve_of_leads h'] at hplace'
  obtain ⟨folder, hfolder, rfl⟩ := Option.map_eq_some_iff.1 hplace
  obtain ⟨folder', hfolder', heq⟩ := Option.map_eq_some_iff.1 hplace'
  obtain ⟨rfl, rfl⟩ := List.append_singleton_inj.1 heq
  exact ⟨hfolder.trans hfolder'.symm, rfl⟩

/-! ### What is read -/

theorem read_eq_some_iff :
    store.read path = some text ↔
      ∃ place, store.resolve path = some place ∧ store.isDirectory place = false ∧
        if place = nullDevice then text = "" else store.contents.lookup place = some (.text text) := by
  unfold read
  cases hplace : store.resolve path with
  | none => simp
  | some place =>
      simp only [Option.some.injEq, exists_eq_left']
      cases store.isDirectory place with
      | true => simp
      | false =>
          by_cases hnull : place = nullDevice
          · simp [hnull, eq_comm]
          · cases hcontent : store.contents.lookup place with
            | none => simp [hnull]
            | some content => cases content <;> simp [hnull]

/-- A path with a text ends in the name of a file. -/
theorem exists_leads_of_read (h : store.read path = some text) :
    ∃ above name, path.Leads above name := by
  obtain ⟨place, hplace, hdirectory, -⟩ := read_eq_some_iff.1 h
  obtain ⟨above, name, hnames⟩ : ∃ (above : List Name) (name : Name), path.names = above ++ [name] :=
    ⟨_, _, (List.dropLast_append_getLast (List.splitOn_ne_nil slash path.bytes)).symm⟩
  have hleads : ¬ (name.isIdle = true ∨ name = Name.up) := by
    intro hname
    rw [resolve, hnames, walk_concat] at hplace
    obtain ⟨between, hbetween, rfl⟩ := Option.map_eq_some_iff.1 hplace
    rw [isDirectory_descend (Option.filter_eq_some_iff.1 hbetween).2 hname] at hdirectory
    cases hdirectory
  have hmem : name ∈ path.names := by simp [hnames]
  obtain ⟨hidle, hup⟩ := not_or.1 hleads
  exact ⟨above, name, hnames, Path.notMem_of_mem_names hmem, by simpa using hidle, hup⟩

/-! ### What is written -/

/-- An entry with a new text, if it is the one at a place. -/
theorem fst_replace (place : Place) (content : Content) (entry : Place × Content) :
    (if entry.1 == place then (place, content) else entry).1 = entry.1 := by
  split
  · next heq => exact (beq_iff_eq.1 heq).symm
  · rfl

theorem lookup_map_replace (entries : List (Place × Content)) (place other : Place)
    (content : Content) :
    (entries.map fun entry => if entry.1 == place then (place, content) else entry).lookup other =
      if other = place then (entries.lookup place).map fun _ => content else entries.lookup other := by
  induction entries with
  | nil => simp
  | cons entry entries ih =>
      obtain ⟨key, old⟩ := entry
      by_cases hkey : key = place
      · subst hkey
        by_cases hother : other = key
        · simp [hother]
        · have hbeq : (other == key) = false := by simp [hother]
          simpa [List.lookup_cons, hbeq, hother] using ih
      · by_cases hother : other = key
        · subst hother
          simp [hkey]
        · have hbeq : (other == key) = false := by simp [hother]
          have hbeq' : (place == key) = false := by simp [Ne.symm hkey]
          simpa [List.lookup_cons, hbeq, hbeq', hkey] using ih

theorem isSome_lookup_iff (hplace : place ≠ nullDevice) :
    (store.contents.lookup place).isSome = true ↔ store.isFile place = true := by
  have hnull : (place == nullDevice) = false := by simp [hplace]
  rw [List.lookup_isSome_iff, isFile, hnull, Bool.false_or, List.any_eq_true]
  exact exists_congr fun entry => and_congr_right fun _ => by rw [beq_iff_eq, beq_iff_eq, eq_comm]

theorem lookup_put (hplace : place ≠ nullDevice) (other : Place) :
    (store.put place text).contents.lookup other =
      if other = place then some (.text text) else store.contents.lookup other := by
  rw [put, if_neg hplace]
  split
  next hfile =>
      obtain ⟨content, hcontent⟩ := Option.isSome_iff_exists.1 ((isSome_lookup_iff hplace).2 hfile)
      simp only [lookup_map_replace, hcontent, Option.map_some]
  next hfile =>
      have hnone : store.contents.lookup place = none := by
        rw [← Option.not_isSome_iff_eq_none]
        exact mt (isSome_lookup_iff hplace).1 hfile
      simp only [List.lookup_append]
      split
      next hother => simp [hother, hnone]
      next hother =>
          have hbeq : (other == place) = false := by simp [hother]
          simp [List.lookup_cons, hbeq]

/-- Putting a text leaves the directories, and adds a file if there was none. -/
theorem put_cases (store : Store) (place : Place) (text : String) :
    (store.put place text).home = store.home ∧
      (store.put place text).directories = store.directories ∧
      ((store.put place text).contents.map Prod.fst = store.contents.map Prod.fst ∨
        (store.put place text).contents.map Prod.fst = store.contents.map Prod.fst ++ [place]) := by
  unfold put
  split
  · exact ⟨rfl, rfl, Or.inl rfl⟩
  · split
    · refine ⟨rfl, rfl, Or.inl ?_⟩
      simp only [List.map_map]
      exact List.map_congr_left fun entry _ => fst_replace place (.text text) entry
    · exact ⟨rfl, rfl, Or.inr (by simp)⟩

/-- A file makes no directory of a place above it, if the nearest one is there. -/
theorem isDirectory_put (h : store.isDirectory place.dropLast = true) (other : Place) :
    (store.put place text).isDirectory other = store.isDirectory other := by
  obtain ⟨hhome, hdirectories, hfiles⟩ := put_cases store place text
  rw [Bool.eq_iff_iff, isDirectory_iff, isDirectory_iff, hhome, hdirectories]
  rcases hfiles with hfiles | hfiles
  · rw [hfiles]
  · rw [hfiles]
    constructor
    · rintro (hmade | ⟨file, hfile, hprefix, hlength⟩)
      · exact Or.inl hmade
      · rcases List.mem_append.1 hfile with hfile | hfile
        · exact Or.inr ⟨file, hfile, hprefix, hlength⟩
        · -- what is above the file is above its directory, or is that directory
          obtain rfl := List.mem_singleton.1 hfile
          rw [← isDirectory_iff]
          apply isDirectory_of_prefix h
          apply List.prefix_of_prefix_length_le hprefix (List.dropLast_prefix file)
          rw [List.length_dropLast]
          omega
    · rintro (hmade | ⟨file, hfile, habove⟩)
      · exact Or.inl hmade
      · exact Or.inr ⟨file, List.mem_append_left _ hfile, habove⟩

/-- **What writing does.** -/
theorem write_cases (h : store.write path text = some next) :
    ∃ place, store.resolve path = some place ∧ store.isDirectory place = false ∧
      store.isDirectory place.dropLast = true ∧ next = store.put place text := by
  unfold write at h
  split at h
  next place hplace =>
      split at h
      · cases h
      · next hdirectory =>
          simp only [Bool.or_eq_true, Bool.not_eq_true', not_or, Bool.not_eq_true,
            Bool.not_eq_false] at hdirectory
          exact ⟨place, hplace, hdirectory.1, hdirectory.2, (Option.some.inj h).symm⟩
  next => cases h

/-! ### Where paths lead afterwards -/

/-- Stores with the same directories: every path leads to one place in both. -/
structure SameDirectories (store next : Store) : Prop where
  home : next.home = store.home
  isDirectory : ∀ place, next.isDirectory place = store.isDirectory place

theorem sameDirectories_write (h : store.write path text = some next) : SameDirectories store next := by
  obtain ⟨place, -, -, habove, rfl⟩ := write_cases h
  exact ⟨(put_cases store place text).1, isDirectory_put habove⟩

namespace SameDirectories

theorem refl (store : Store) : SameDirectories store store :=
  ⟨rfl, fun _ => rfl⟩

theorem trans {final : Store} (h : SameDirectories store next) (h' : SameDirectories next final) :
    SameDirectories store final :=
  ⟨h'.home.trans h.home, fun place => (h'.isDirectory place).trans (h.isDirectory place)⟩

theorem walk_eq (h : SameDirectories store next) (place : Place) (names : List Name) :
    next.walk place names = store.walk place names := by
  induction names generalizing place with
  | nil => rfl
  | cons name names ih => simp only [walk, h.isDirectory, ih]

theorem start_eq (h : SameDirectories store next) (names : List Name) :
    next.start names = store.start names := by
  cases names with
  | nil => exact h.home
  | cons first rest => rw [start_cons, start_cons, h.home]

theorem resolve_eq (h : SameDirectories store next) (path : Path) :
    next.resolve path = store.resolve path := by
  rw [resolve, resolve, h.start_eq, h.walk_eq]

theorem folder_eq (h : SameDirectories store next) (folders : List Name) :
    next.folder folders = store.folder folders := by
  have hsame : next.isDirectory = store.isDirectory := funext h.isDirectory
  rw [folder, folder, h.start_eq, h.walk_eq, hsame]

end SameDirectories

/-- The text is there, unless it was swallowed. -/
theorem read_write_self (h : store.write path text = some next)
    (hpath : store.resolve path ≠ some nullDevice) : next.read path = some text := by
  have hsame := sameDirectories_write h
  obtain ⟨place, hplace, hdirectory, -, rfl⟩ := write_cases h
  have hnull : place ≠ nullDevice := fun heq => hpath (heq ▸ hplace)
  rw [read_eq_some_iff]
  refine ⟨place, (hsame.resolve_eq path).trans hplace, (hsame.isDirectory place).trans hdirectory, ?_⟩
  rw [if_neg hnull, lookup_put hnull, if_pos rfl]

/-- Files at other places are as they were. -/
theorem read_write_of_ne (h : store.write path text = some next)
    (hne : ∀ place, store.resolve path = some place → store.resolve other ≠ some place) :
    next.read other = store.read other := by
  have hsame := sameDirectories_write h
  obtain ⟨place, hplace, -, -, rfl⟩ := write_cases h
  apply Option.ext
  intro content
  rw [read_eq_some_iff, read_eq_some_iff, hsame.resolve_eq]
  refine exists_congr fun otherPlace => and_congr_right fun hother => ?_
  have hapart : otherPlace ≠ place := fun heq => hne place hplace (heq ▸ hother)
  rw [hsame.isDirectory]
  by_cases hnull : place = nullDevice
  · rw [put, if_pos hnull]
  · rw [lookup_put hnull, if_neg hapart]

end Inlay.CommandLine.Store
