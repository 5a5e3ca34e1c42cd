/-
**Where compiled documents go.**

The place of a compiled document is its directory and its name, as the name is one of a file.  Two
documents meet at one place only if their sources are one file, or if they have one name and go to one
directory.  Two things could bring them together still: a language that is a path of its own, and a
document whose name is that of another's position map.

Main definitions:

* `Inlay.CommandLine.Apart` — sources whose documents are kept apart.

Main results:

* `Inlay.CommandLine.Path.Leads.outputPath`, `Inlay.CommandLine.Path.Leads.mapPath` — the paths of documents
  and of position maps lead to files;
* `Inlay.CommandLine.Apart.resolve_outputPath_ne` — sources that are apart have documents at different
  places;
* `Inlay.CommandLine.resolve_outputPath_ne_mapPath` — a document and a position map, unless they have
  one name and one directory.
-/
import Inlay.Proofs.Outputs
import Inlay.Proofs.Stores

set_option autoImplicit false

namespace Inlay.CommandLine

variable {path other : Path} {directory : Option Path} {language : String}

/-! ### The names on the paths -/

section Names

variable {above : List Name} {name : Name}

theorem Path.Leads.isText (h : path.Leads above name) (htext : path.IsText) : Text.Utf8.IsText name :=
  htext.of_mem_names (by simp [h.names_eq])

/-- The path of a document leads to a file. -/
theorem Path.Leads.outputPath (h : path.Leads above name) (htext : path.IsText)
    (hlanguage : '/' ∉ language.toList) (directory : Option Path) :
    (outputPath path directory language).Leads (outputFolders path directory)
      (outputName name language) := by
  have hname := h.ordinary.outputName (h.isText htext) hlanguage
  refine ⟨?_, hname⟩
  rw [CommandLine.outputPath, h.fileName?, Option.getD_some,
    Path.names_inFolder (fun _ => slash_notMem_outputFolders) hname.notMem]

theorem isText_outputFolders (htext : path.IsText) (hdirectory : ∀ folder ∈ directory, folder.IsText)
    {folder : Name} (h : folder ∈ outputFolders path directory) : Text.Utf8.IsText folder := by
  cases directory with
  | none => exact htext.of_mem_names (Path.mem_names_of_mem_parentFolders h)
  | some directory => exact (hdirectory directory rfl).of_mem_names (Path.mem_names_of_mem_folders h)

/-- The path of a position map leads to a file beside the document. -/
theorem Path.Leads.mapPath (h : path.Leads above name) (htext : path.IsText)
    (hdirectory : ∀ folder ∈ directory, folder.IsText) (hlanguage : '/' ∉ language.toList)
    (kind : ScriptKind) :
    (mapPath (CommandLine.outputPath path directory language) kind).Leads (outputFolders path directory)
      (mapName (outputName name language) kind) := by
  have hname := (h.ordinary.outputName (h.isText htext) hlanguage).mapName kind
  have houtput : (CommandLine.outputPath path directory language).IsText :=
    Path.isText_inFolder_iff.2 ⟨fun _ => isText_outputFolders htext hdirectory, Text.Utf8.isText_encode _⟩
  refine ⟨?_, hname⟩
  rw [CommandLine.outputPath, mapPath_inFolder houtput, h.fileName?, Option.getD_some,
    Path.names_inFolder (fun _ => slash_notMem_outputFolders) hname.notMem]

end Names

/-! ### Places -/

/-- Sources that are different files; where their documents go to one directory, they have different
names. -/
def Apart (store : Store) (directory : Option Path) (path other : Path) : Prop :=
  match directory with
  | none => store.resolve path ≠ store.resolve other
  | some _ => path.fileName? ≠ other.fileName?

section Places

variable {store next : Store} {place : Place} {above above' : List Name} {name name' : Name}

/-- No document is swallowed: its name has a dot. -/
theorem resolve_outputPath_ne_nullDevice (h : path.Leads above name) (htext : path.IsText)
    (hlanguage : '/' ∉ language.toList) :
    store.resolve (outputPath path directory language) ≠ some Store.nullDevice := by
  intro hplace
  rw [Store.resolve_of_leads (h.outputPath htext hlanguage directory)] at hplace
  obtain ⟨folder, -, heq⟩ := Option.map_eq_some_iff.1 hplace
  have hlast : (outputName name language) ∈ Store.nullDevice.getLast? := by simp [← heq]
  obtain ⟨stem, ending, -, houtput⟩ := exists_divided (h.isText htext)
  have hdot : dot ∈ outputName name language := by simp [houtput]
  have hnull : ∀ last ∈ Store.nullDevice.getLast?, dot ∉ last := by decide
  exact hnull _ hlast hdot

theorem Apart.symm (h : Apart store directory path other) : Apart store directory other path := by
  cases directory with
  | none => exact Ne.symm h
  | some directory => exact Ne.symm h

theorem Apart.congr (h : Apart store directory path other) (hsame : Store.SameDirectories store next) :
    Apart next directory path other := by
  cases directory with
  | none =>
      unfold Apart
      rwa [hsame.resolve_eq, hsame.resolve_eq]
  | some directory => exact h

/-- The documents of sources that are apart go to different files. -/
theorem Apart.resolve_outputPath_ne (h : Apart store directory path other)
    (hpath : path.Leads above name) (htext : path.IsText) (hother : other.Leads above' name')
    (htext' : other.IsText) (hlanguage : '/' ∉ language.toList)
    (hplace : store.resolve (outputPath other directory language) = some place) :
    store.resolve (outputPath path directory language) ≠ some place := by
  intro hsame
  obtain ⟨hfolder, houtput⟩ := Store.eq_of_resolve_leads (hpath.outputPath htext hlanguage directory)
    (hother.outputPath htext' hlanguage directory) hsame hplace
  have hname : name = name' := outputName_inj hpath.ordinary.notMem (hpath.isText htext)
    hother.ordinary.notMem (hother.isText htext') houtput
  -- one directory and one name: the sources are one file
  cases directory with
  | some directory => exact h (by rw [hpath.fileName?, hother.fileName?, hname])
  | none =>
      apply h
      rw [outputFolders, outputFolders, Store.folder_parentFolders hpath.fileParts?,
        Store.folder_parentFolders hother.fileParts?] at hfolder
      rw [Store.resolve_of_leads hpath, Store.resolve_of_leads hother, hfolder, hname]

/-- A document goes to another file than a position map, unless it has its name and directory. -/
theorem resolve_outputPath_ne_mapPath {kind : ScriptKind} (hpath : path.Leads above name)
    (htext : path.IsText) (hother : other.Leads above' name') (htext' : other.IsText)
    (hdirectory : ∀ folder ∈ directory, folder.IsText) (hlanguage : '/' ∉ language.toList)
    (hmaps : outputName name language = mapName (outputName name' language) kind →
      store.folder (outputFolders path directory) ≠ store.folder (outputFolders other directory))
    (hplace : store.resolve (mapPath (outputPath other directory language) kind) = some place) :
    store.resolve (outputPath path directory language) ≠ some place := by
  intro hsame
  obtain ⟨hfolder, hname⟩ := Store.eq_of_resolve_leads (hpath.outputPath htext hlanguage directory)
    (hother.mapPath htext' hdirectory hlanguage kind) hsame hplace
  exact hmaps hname hfolder

end Places

end Inlay.CommandLine
