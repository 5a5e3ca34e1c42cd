/-
**The names on a path.**

A path is its names with slashes between them, and the last name is that of a file unless it leads nowhere
or up.  What leads nowhere before and behind the name of the file can be left out: neither the components
of the path nor the file depend on it.

Main definitions:

* `Inlay.CommandLine.Ordinary` — a name that leads down;
* `Inlay.CommandLine.Path.Leads` — a path to a file, with the names before its last one;
* `Inlay.CommandLine.Path.HasTextName`, `Inlay.CommandLine.Path.IsText` — paths that are texts, as far as
  the name of the file and as a whole.

Main results:

* `Inlay.CommandLine.Path.names_inFolder`, `Inlay.CommandLine.Path.exists_inFolder` — a path and its names;
* `Inlay.CommandLine.Path.components_eq` — **the components of a path**, from the directory of the file and
  its name;
* `Inlay.CommandLine.Path.IsText.of_mem_names` — the names on a path that is a text are texts.
-/
import Inlay.CommandLine.Path
import Inlay.Proofs.Bytes
import Inlay.Proofs.Split

set_option autoImplicit false

namespace Inlay.CommandLine

/-- A name that leads down: no part of a longer path, and none of those that stand for a directory. -/
structure Ordinary (name : Name) : Prop where
  notMem : slash ∉ name
  isIdle : name.isIdle = false
  ne_up : name ≠ Name.up

theorem Name.isIdle_iff {name : Name} : name.isIdle = true ↔ name = [] ∨ name = [dot] := by
  simp [isIdle]

theorem Ordinary.ne_nil {name : Name} (h : Ordinary name) : name ≠ [] := by
  rintro rfl
  exact absurd h.isIdle (by decide)

/-! ### Names that lead nowhere -/

/-- What is left out leads nowhere. -/
theorem exists_eq_dropIdle_append (names : List Name) :
    ∃ idle, names = dropIdle names ++ idle ∧ ∀ name ∈ idle, name.isIdle = true := by
  refine ⟨(names.reverse.takeWhile Name.isIdle).reverse, ?_, fun name hname => ?_⟩
  · rw [dropIdle, ← List.reverse_append, List.takeWhile_append_dropWhile, List.reverse_reverse]
  · exact List.mem_takeWhile_imp (List.mem_reverse.1 hname)

theorem filter_eq_nil_of_idle {names : List Name} (h : ∀ name ∈ names, name.isIdle = true) :
    names.filter (!·.isIdle) = [] := by
  rw [List.filter_eq_nil_iff]
  intro name hname
  simp [h name hname]

theorem filter_dropIdle (names : List Name) :
    (dropIdle names).filter (!·.isIdle) = names.filter (!·.isIdle) := by
  obtain ⟨idle, hnames, hidle⟩ := exists_eq_dropIdle_append names
  conv_rhs => rw [hnames, List.filter_append, filter_eq_nil_of_idle hidle, List.append_nil]

namespace Path

/-! ### A path and its names -/

theorem names_inFolder {folders : List Name} {name : Name}
    (hfolders : ∀ folder ∈ folders, slash ∉ folder) (hname : slash ∉ name) :
    (inFolder folders name).names = folders ++ [name] := by
  induction folders with
  | nil => exact List.splitOn_eq_singleton hname
  | cons folder folders ih =>
      obtain ⟨hfolder, hrest⟩ := List.forall_mem_cons.1 hfolders
      have hbytes : (inFolder (folder :: folders) name).bytes =
          folder ++ slash :: (inFolder folders name).bytes := by
        simp [inFolder]
      rw [names, hbytes, List.splitOn_append_cons_self_of_not_mem hfolder, ← names, ih hrest,
        List.cons_append]

/-- Every path is a name in a directory. -/
theorem exists_inFolder (path : Path) :
    ∃ folders name, path = inFolder folders name ∧ (∀ folder ∈ folders, slash ∉ folder) ∧
      slash ∉ name := by
  obtain ⟨bytes⟩ := path
  -- the induction is on the number of slashes
  induction hcount : bytes.count slash generalizing bytes with
  | zero =>
      have hnone : slash ∉ bytes := List.count_eq_zero.1 hcount
      exact ⟨[], bytes, rfl, by simp, hnone⟩
  | succ count ih =>
      have hmem : slash ∈ bytes := List.count_pos_iff.1 (by omega)
      obtain ⟨folder, back, rfl, hfolder⟩ := List.eq_append_cons_of_mem hmem
      rw [List.count_append, List.count_eq_zero_of_not_mem hfolder, List.count_cons_self] at hcount
      obtain ⟨folders, name, hback, hfolders, hname⟩ := ih back (by omega)
      refine ⟨folder :: folders, name, ?_, List.forall_mem_cons.2 ⟨hfolder, hfolders⟩, hname⟩
      have hbytes : back = folders.flatMap (· ++ [slash]) ++ name := congrArg Path.bytes hback
      simp [inFolder, hbytes]

theorem notMem_of_mem_names {path : Path} {name : Name} (h : name ∈ path.names) : slash ∉ name := by
  obtain ⟨folders, last, rfl, hfolders, hlast⟩ := exists_inFolder path
  rw [names_inFolder hfolders hlast] at h
  rcases List.mem_append.1 h with h | h
  · exact hfolders name h
  · exact List.mem_singleton.1 h ▸ hlast

/-! ### The name of a file -/

/-- The name of the file stands before names that lead nowhere. -/
theorem fileParts?_eq_some_iff {path : Path} {above : List Name} {name : Name} :
    path.fileParts? = some (above, name) ↔
      (∃ idle, path.names = above ++ name :: idle ∧ ∀ other ∈ idle, other.isIdle = true) ∧
        name.isIdle = false ∧ name ≠ Name.up := by
  unfold fileParts?
  constructor
  · intro h
    split at h
    · cases h
    · next last before hdrop =>
        split at h
        · cases h
        · next hup =>
            obtain ⟨rfl, rfl⟩ := Prod.mk.inj (Option.some.inj h)
            obtain ⟨idle, hnames, hidle, hlast⟩ := Text.dropWhile_eq_cons_iff.1 hdrop
            refine ⟨⟨idle.reverse, ?_, fun other hother => hidle other (List.mem_reverse.1 hother)⟩,
              hlast, hup⟩
            rw [← List.reverse_reverse path.names, hnames]
            simp
  · rintro ⟨⟨idle, hnames, hidle⟩, hname, hup⟩
    have hdrop : path.names.reverse.dropWhile Name.isIdle = name :: above.reverse :=
      Text.dropWhile_eq_cons_iff.2 ⟨idle.reverse, by simp [hnames],
        fun other hother => hidle other (List.mem_reverse.1 hother), hname⟩
    rw [hdrop]
    simp [hup]

theorem ordinary_of_fileName? {path : Path} {name : Name} (h : path.fileName? = some name) :
    Ordinary name := by
  obtain ⟨⟨above, last⟩, hparts, hname⟩ := Option.map_eq_some_iff.1 h
  obtain rfl : last = name := hname
  obtain ⟨⟨idle, hnames, -⟩, hidle, hup⟩ := fileParts?_eq_some_iff.1 hparts
  have hmem : last ∈ path.names := by simp [hnames]
  exact ⟨notMem_of_mem_names hmem, hidle, hup⟩

/-- A path that ends in the name of a file, and the names before it. -/
structure Leads (path : Path) (above : List Name) (name : Name) : Prop where
  names_eq : path.names = above ++ [name]
  ordinary : Ordinary name

namespace Leads

variable {path : Path} {above : List Name} {name : Name}

theorem fileParts? (h : path.Leads above name) : path.fileParts? = some (above, name) :=
  fileParts?_eq_some_iff.2 ⟨⟨[], h.names_eq, by simp⟩, h.ordinary.isIdle, h.ordinary.ne_up⟩

theorem fileName? (h : path.Leads above name) : path.fileName? = some name := by
  rw [Path.fileName?, h.fileParts?, Option.map_some]

end Leads

/-! ### Directories -/

theorem mem_names_of_mem_folders {path : Path} {name : Name} (h : name ∈ path.folders) :
    name ∈ path.names := by
  unfold folders at h
  split at h
  · exact List.dropLast_subset _ h
  · exact h

theorem mem_names_of_mem_parentFolders {path : Path} {name : Name} (h : name ∈ path.parentFolders) :
    name ∈ path.names := by
  unfold parentFolders at h
  split at h
  · next first rest file hparts =>
      obtain ⟨⟨idle, hnames, -⟩, -⟩ := fileParts?_eq_some_iff.1 hparts
      obtain ⟨dropped, hrest, -⟩ := exists_eq_dropIdle_append rest
      have hmem : name ∈ first :: rest := by
        rw [hrest, ← List.cons_append]
        exact List.mem_append_left _ h
      rw [hnames]
      exact List.mem_append_left _ hmem
  · simp at h
  · exact mem_names_of_mem_folders h

/-! ### Components -/

/-- What the names of directories come to; all but the first count only if they lead somewhere. -/
def folderComponents : List Name → List Name
  | [] => []
  | first :: rest => first :: rest.filter (!·.isIdle)

theorem componentsOf_eq {names : List Name} (h : names ≠ [[]]) :
    componentsOf names = folderComponents names := by
  unfold componentsOf folderComponents
  split
  · rfl
  · exact absurd rfl h
  · rfl

theorem folderComponents_append_idle {names idle : List Name} (hne : names ≠ [])
    (hidle : ∀ name ∈ idle, name.isIdle = true) :
    folderComponents (names ++ idle) = folderComponents names := by
  cases names with
  | nil => exact absurd rfl hne
  | cons first rest =>
      rw [List.cons_append, folderComponents, List.filter_append, filter_eq_nil_of_idle hidle,
        List.append_nil]
      rfl

theorem folderComponents_concat {folders : List Name} {name : Name} (h : name.isIdle = false) :
    folderComponents (folders ++ [name]) = folderComponents folders ++ [name] := by
  cases folders with
  | nil => rfl
  | cons first rest => simp [folderComponents, h]

theorem concat_ne_empty {folders : List Name} {name : Name} (h : name ≠ []) :
    folders ++ [name] ≠ [[]] := by
  intro heq
  have hlast := congrArg List.getLast? heq
  simp [h] at hlast

theorem componentsOf_concat {folders : List Name} {name : Name} (h : name.isIdle = false) :
    componentsOf (folders ++ [name]) = folderComponents folders ++ [name] := by
  have hname : name ≠ [] := by
    rintro rfl
    exact absurd h (by decide)
  rw [componentsOf_eq (concat_ne_empty hname), folderComponents_concat h]

/-- What leads nowhere before the name of a file does not count. -/
theorem folderComponents_parentFolders {path : Path} {above : List Name} {name : Name}
    (h : path.fileParts? = some (above, name)) :
    folderComponents path.parentFolders = folderComponents above := by
  rw [parentFolders, h]
  cases above with
  | nil => rfl
  | cons first rest => simp only [folderComponents, filter_dropIdle]

/-- **The components of a path**, from the directory of the file and its name. -/
theorem components_eq (path : Path) :
    path.components = componentsOf (path.parentFolders ++ [path.fileName?.getD []]) := by
  rw [components, fileName?]
  cases hparts : path.fileParts? with
  | none =>
      rw [parentFolders, hparts, folders]
      dsimp only [Option.map_none, Option.getD_none]
      split
      · next hlast => rw [List.dropLast_append_getLast? _ hlast]
      · next hlast =>
          have hne : path.names ≠ [] := List.splitOn_ne_nil slash path.bytes
          have hnames : path.names ≠ [[]] := fun heq => hlast (by rw [heq]; rfl)
          have hconcat : path.names ++ [[]] ≠ [[]] := fun heq => hne (by simpa using heq)
          rw [componentsOf_eq hnames, componentsOf_eq hconcat, folderComponents_append_idle hne]
          simp [Name.isIdle]
  | some parts =>
      obtain ⟨above, name⟩ := parts
      obtain ⟨⟨idle, hnames, hidle⟩, hname, -⟩ := fileParts?_eq_some_iff.1 hparts
      have hne : name ≠ [] := by
        rintro rfl
        exact absurd hname (by decide)
      have hlong : above ++ name :: idle ≠ [[]] := by
        intro heq
        have hmem : name ∈ ([[]] : List Name) := by simp [← heq]
        exact hne (List.mem_singleton.1 hmem)
      dsimp only [Option.map_some, Option.getD_some]
      rw [hnames, componentsOf_eq hlong, componentsOf_concat hname,
        folderComponents_parentFolders hparts, List.append_cons,
        folderComponents_append_idle (by simp) hidle, folderComponents_concat hname]

/-! ### Paths that are texts -/

/-- Whether the name of the file at a path is a text. -/
def HasTextName (path : Path) : Prop :=
  ∀ name, path.fileName? = some name → Text.Utf8.IsText name

/-- Whether a path is a text. -/
def IsText (path : Path) : Prop :=
  Text.Utf8.IsText path.bytes

theorem isText_ofText (text : String) : (ofText text).IsText :=
  ⟨text, rfl⟩

theorem HasTextName.isText {path : Path} (h : path.HasTextName) :
    Text.Utf8.IsText (path.fileName?.getD []) := by
  cases hname : path.fileName? with
  | none => exact ⟨"", rfl⟩
  | some name => exact h name hname

theorem slash_lt : slash.toNat < 0x80 := by decide

theorem isText_inFolder_iff {folders : List Name} {name : Name} :
    (inFolder folders name).IsText ↔
      (∀ folder ∈ folders, Text.Utf8.IsText folder) ∧ Text.Utf8.IsText name := by
  induction folders with
  | nil => simp [IsText, inFolder]
  | cons folder folders ih =>
      have hbytes : (inFolder (folder :: folders) name).bytes =
          folder ++ slash :: (inFolder folders name).bytes := by
        simp [inFolder]
      rw [IsText, hbytes, List.forall_mem_cons, and_assoc, ← ih]
      constructor
      · intro h
        exact h.of_append_cons slash_lt
      · rintro ⟨hfolder, hrest⟩
        have hslash : Text.Utf8.IsText [slash] := ⟨"/", by decide⟩
        exact hfolder.append (hslash.append hrest)

/-- The names on a path that is a text are texts. -/
theorem IsText.of_mem_names {path : Path} {name : Name} (h : path.IsText) (hname : name ∈ path.names) :
    Text.Utf8.IsText name := by
  obtain ⟨folders, last, rfl, hfolders, hlast⟩ := exists_inFolder path
  rw [names_inFolder hfolders hlast] at hname
  obtain ⟨hfolders, hlast⟩ := isText_inFolder_iff.1 h
  rcases List.mem_append.1 hname with hname | hname
  · exact hfolders name hname
  · exact List.mem_singleton.1 hname ▸ hlast

theorem IsText.hasTextName {path : Path} (h : path.IsText) : path.HasTextName := by
  intro name hname
  obtain ⟨⟨above, last⟩, hparts, hlast⟩ := Option.map_eq_some_iff.1 hname
  obtain rfl : last = name := hlast
  obtain ⟨⟨idle, hnames, -⟩, -⟩ := fileParts?_eq_some_iff.1 hparts
  exact h.of_mem_names (by simp [hnames])

end Path

end Inlay.CommandLine
