/-
**The names of compiled documents.**

A compiled document gets the name of its source with the language before the extension.  The language
is free text and may hold dots and slashes, so it is not clear that it can be taken out again: two
sources could meet at one name, one of them with an extension and one without.  They do not, for every
language: what follows the language is the extension, which holds no dot, or nothing.  All this is about
names that are texts; of other names some bytes are replaced, and two of them can become one.

Main definitions:

* `Inlay.CommandLine.Cut` — bytes cut behind the last of a separator;
* `Inlay.CommandLine.Divided` — a name and the place in it where the language goes;
* `Inlay.CommandLine.mapName` — the name of a position map.

Main results:

* `Inlay.CommandLine.outputName_inj` — names are kept apart;
* `Inlay.CommandLine.components_eq_of_outputPath_eq` — beside its source, a compiled document has a path of
  its own;
* `Inlay.CommandLine.outputPath_inside_iff` — in a directory, it shares its path with those from
  sources of the same name;
* `Inlay.CommandLine.components_outputPath_iff` — **which documents share a path**, however it is written;
* `Inlay.CommandLine.outputName_ne_mapName` — no document has the name of a position map, unless the
  language ends in the word for its kind.
-/
import Inlay.Proofs.Paths
import Mathlib.Data.List.Infix

set_option autoImplicit false

namespace Inlay.CommandLine

open Text.Utf8 (encode IsText)

/-! ### Cutting at the last of a separator -/

/-- Bytes in two parts: the first is empty or ends in the separator, the second has none. -/
structure Cut (separator : UInt8) (bytes front back : List UInt8) : Prop where
  eq : bytes = front ++ back
  front_cases : front = [] ∨ ∃ body, front = body ++ [separator]
  notMem : separator ∉ back

namespace Cut

variable {separator : UInt8} {bytes front back front' back' : List UInt8}

/-- What ends in the separator does not reach into a part without one. -/
theorem eq_nil_of_eq_append {more : List UInt8} (h : Cut separator bytes front back)
    (hfront : front = front' ++ more) (hmore : separator ∉ more) : more = [] := by
  cases more using List.reverseRecOn with
  | nil => rfl
  | append_singleton more last =>
      rcases h.front_cases with hnil | ⟨body, hbody⟩
      · rw [hnil] at hfront
        simp at hfront
      · rw [hbody, ← List.append_assoc] at hfront
        have hlast : separator = last := List.singleton_inj.1 (List.append_inj' hfront rfl).2
        exact absurd (by simp [hlast]) hmore

/-- Bytes are cut in one way. -/
theorem unique (h : Cut separator bytes front back) (h' : Cut separator bytes front' back') :
    front = front' ∧ back = back' := by
  rcases List.append_eq_append_iff.1 (h.eq.symm.trans h'.eq) with
    ⟨more, hfront, hback⟩ | ⟨more, hfront, hback⟩
  · have hnil := h'.eq_nil_of_eq_append hfront fun hmem => h.notMem (by simp [hback, hmem])
    rw [hfront, hback, hnil]
    simp
  · have hnil := h.eq_nil_of_eq_append hfront fun hmem => h'.notMem (by simp [hback, hmem])
    rw [hfront, hback, hnil]
    simp

end Cut

theorem cut_reverse (separator : UInt8) (bytes : List UInt8) :
    Cut separator bytes (bytes.reverse.dropWhile (· != separator)).reverse
      (bytes.reverse.takeWhile (· != separator)).reverse := by
  refine ⟨?_, ?_, ?_⟩
  · rw [← List.reverse_append, List.takeWhile_append_dropWhile, List.reverse_reverse]
  · cases hdrop : bytes.reverse.dropWhile (· != separator) with
    | nil => exact Or.inl rfl
    | cons byte rest =>
        obtain ⟨_, -, -, hbyte⟩ := Text.dropWhile_eq_cons_iff.1 hdrop
        have hsame : byte = separator := by simpa using hbyte
        exact Or.inr ⟨rest.reverse, by simp [hsame]⟩
  · intro hmem
    have hbyte := List.mem_takeWhile_imp (List.mem_reverse.1 hmem)
    simp at hbyte

/-- A path is cut before its last name. -/
theorem cut_inFolder (folders : List Name) {name : Name} (h : slash ∉ name) :
    Cut slash (Path.inFolder folders name).bytes (folders.flatMap (· ++ [slash])) name := by
  refine ⟨rfl, ?_, h⟩
  cases folders using List.reverseRecOn with
  | nil => exact Or.inl rfl
  | append_singleton folders folder =>
      exact Or.inr ⟨folders.flatMap (· ++ [slash]) ++ folder, by simp⟩

/-! ### Where the language goes -/

/-- A name in two parts, with the language to go between them.  The second is the extension with its
dot; it is empty if the name has no dot that divides it. -/
structure Divided (name stem ending : Name) : Prop where
  eq : name = stem ++ ending
  ending_cases : (ending = [] ∧ dot ∉ stem.tail)
    ∨ (stem ≠ [] ∧ ∃ extension, ending = dot :: extension ∧ dot ∉ extension)

/-- A stem is empty only in a name that is. -/
theorem Divided.stem_ne_nil {name stem ending : Name} (h : Divided name stem ending)
    (hname : name ≠ []) : stem ≠ [] := by
  rcases h.ending_cases with ⟨hending, -⟩ | ⟨hstem, -⟩
  · rwa [h.eq, hending, List.append_nil] at hname
  · exact hstem

theorem splitExtension_of_cut {name front back : Name} (h : Cut dot name front back) :
    name.splitExtension =
      if front = [] ∨ front = [dot] then (name, none) else (front.dropLast, some back) := by
  obtain ⟨hfront, hback⟩ := (cut_reverse dot name).unique h
  unfold Name.splitExtension
  simp only [hfront, hback]
  rcases h.front_cases with rfl | ⟨body, rfl⟩
  · simp
  · cases body with
    | nil => simp
    | cons first body =>
        have hne : ¬ (first :: body ++ [dot] = [] ∨ first :: body ++ [dot] = [dot]) := by simp
        rw [if_neg hne]
        split
        · next heq => simp at heq
        · next heq => simp at heq
        · rfl

theorem encode_dot : encode ".".toList = [dot] := by decide

/-- Where the language goes in a name that is a text. -/
theorem exists_divided {name : Name} (htext : IsText name) :
    ∃ stem ending, Divided name stem ending ∧
      ∀ language : String, outputName name language = stem ++ dot :: (encode language.toList ++ ending) := by
  have hcut := cut_reverse dot name
  have hsplit := splitExtension_of_cut hcut
  generalize (name.reverse.dropWhile (· != dot)).reverse = front at hcut hsplit
  generalize (name.reverse.takeWhile (· != dot)).reverse = back at hcut hsplit
  by_cases hfront : front = [] ∨ front = [dot]
  · -- no dot, or none but the first byte
    rw [if_pos hfront] at hsplit
    have htail : dot ∉ name.tail := by
      intro hmem
      apply hcut.notMem
      rcases hfront with rfl | rfl
      · rw [hcut.eq] at hmem
        exact List.mem_of_mem_tail hmem
      · rw [hcut.eq] at hmem
        exact hmem
    refine ⟨name, [], ⟨by simp, Or.inl ⟨rfl, htail⟩⟩, fun language => ?_⟩
    simp only [outputName, hsplit, String.toList_append, Text.Utf8.encode_append, encode_dot,
      htext.encode_ofBytes]
    simp
  · rw [if_neg hfront] at hsplit
    obtain ⟨hnil, hone⟩ := not_or.1 hfront
    obtain ⟨stem, rfl⟩ : ∃ stem, front = stem ++ [dot] := hcut.front_cases.resolve_left hnil
    have hstem : stem ≠ [] := fun hstem => hone (by rw [hstem]; rfl)
    have heq : name = stem ++ dot :: back := by
      rw [hcut.eq, List.append_assoc, List.singleton_append]
    rw [List.dropLast_concat] at hsplit
    obtain ⟨hstemText, hbackText⟩ := (heq ▸ htext : IsText (stem ++ dot :: back)).of_append_cons
      (by decide)
    refine ⟨stem, dot :: back, ⟨heq, Or.inr ⟨hstem, back, rfl, hcut.notMem⟩⟩, fun language => ?_⟩
    simp only [outputName, hsplit, String.toList_append, Text.Utf8.encode_append, encode_dot,
      hstemText.encode_ofBytes, hbackText.encode_ofBytes]
    simp

/-- Of two places of a byte in a text, the first lies within what comes before the second. -/
theorem concat_isPrefix_of_append_eq {byte : UInt8} {front₁ back₁ front₂ back₂ : List UInt8}
    (h : front₁ ++ byte :: back₁ = front₂ ++ byte :: back₂) (hlt : back₁.length < back₂.length) :
    front₂ ++ [byte] <+: front₁ := by
  have hprefix₁ : front₁ <+: front₁ ++ byte :: back₁ := List.prefix_append _ _
  have hprefix₂ : front₂ ++ [byte] <+: front₁ ++ byte :: back₁ := ⟨back₂, by simp [h]⟩
  apply List.prefix_of_prefix_length_le hprefix₂ hprefix₁
  have hlength := congrArg List.length h
  simp only [List.length_append, List.length_cons, List.length_nil] at hlength ⊢
  omega

/-- Where one text ends in the language and an equal one goes on behind it, the first holds in front of
the language what the second holds behind it, in some order. -/
theorem exists_rest_of_language_eq {front₁ front₂ language extension : List UInt8}
    (h : front₁ ++ dot :: language = front₂ ++ dot :: (language ++ dot :: extension)) :
    ∃ rest, front₁ = front₂ ++ dot :: rest ∧ ∀ byte, rest.count byte = extension.count byte := by
  obtain ⟨rest, rfl⟩ := concat_isPrefix_of_append_eq h (by simp)
  have hrest : rest ++ dot :: language = language ++ dot :: extension := by
    simpa using h
  refine ⟨rest, by simp, fun byte => ?_⟩
  have hcount := congrArg (List.count byte) hrest
  simp only [List.count_append, List.count_cons] at hcount
  omega

/-- From the shorter ending on, the path is the only one with its output. -/
theorem Divided.eq_of_output_eq {language path₁ front₁ path₂ front₂ : List UInt8}
    {name₁ stem₁ ending₁ name₂ stem₂ ending₂ : Name}
    (hcut₁ : Cut slash path₁ front₁ name₁) (h₁ : Divided name₁ stem₁ ending₁)
    (hcut₂ : Cut slash path₂ front₂ name₂) (h₂ : Divided name₂ stem₂ ending₂)
    (heq : front₁ ++ (stem₁ ++ dot :: (language ++ ending₁))
      = front₂ ++ (stem₂ ++ dot :: (language ++ ending₂)))
    (hle : ending₁.length ≤ ending₂.length) : path₁ = path₂ := by
  have hsuffix : ending₁ <:+ ending₂ := by
    have hsuffix₁ : ending₁ <:+ front₁ ++ (stem₁ ++ dot :: (language ++ ending₁)) :=
      ⟨front₁ ++ (stem₁ ++ dot :: language), by simp⟩
    have hsuffix₂ : ending₂ <:+ front₁ ++ (stem₁ ++ dot :: (language ++ ending₁)) :=
      ⟨front₂ ++ (stem₂ ++ dot :: language), by simp [heq]⟩
    exact List.suffix_of_suffix_length_le hsuffix₁ hsuffix₂ hle
  obtain ⟨more, hmore⟩ := hsuffix
  cases more with
  | nil =>
      rw [List.nil_append] at hmore
      subst hmore
      have hfronts : front₁ ++ stem₁ = front₂ ++ stem₂ := by
        simpa only [← List.append_assoc, List.append_cancel_right_eq] using heq
      rw [hcut₁.eq, h₁.eq, hcut₂.eq, h₂.eq, ← List.append_assoc, hfronts, List.append_assoc]
  | cons byte more =>
      -- the longer ending is an extension, and the shorter one is nothing
      exfalso
      obtain ⟨hstem₂, extension, rfl, hdot⟩ := h₂.ending_cases.resolve_left
        fun hnil => by simp [hnil.1] at hmore
      obtain ⟨-, hmore⟩ := List.cons.inj hmore
      obtain ⟨rfl, hstem₁⟩ := h₁.ending_cases.resolve_right fun ⟨_, _, hending₁, _⟩ =>
        hdot (by simp [← hmore, hending₁])
      obtain rfl : name₁ = stem₁ := by rw [h₁.eq, List.append_nil]
      -- the first name then goes on like the second, so it has a dot that divides it
      have hlanguage : (front₁ ++ name₁) ++ dot :: language
          = (front₂ ++ stem₂) ++ dot :: (language ++ dot :: extension) := by
        simpa using heq
      obtain ⟨rest, hrest, hcount⟩ := exists_rest_of_language_eq hlanguage
      have hslash : slash ∉ stem₂ ++ dot :: extension := h₂.eq ▸ hcut₂.notMem
      have hcut : Cut slash path₁ front₂ (stem₂ ++ dot :: rest) := by
        refine ⟨by rw [hcut₁.eq, hrest, List.append_assoc], hcut₂.front_cases, ?_⟩
        rw [← List.count_eq_zero] at hslash ⊢
        simpa [List.count_append, List.count_cons, hcount] using hslash
      have hname : name₁ = stem₂ ++ dot :: rest := (hcut₁.unique hcut).2
      cases stem₂ with
      | nil => exact hstem₂ rfl
      | cons first stem => exact hstem₁ (by simp [hname])

/-! ### The paths of compiled documents -/

/-- Names in directories are kept apart. -/
theorem inFolder_eq_of_output_eq {folders others : List Name} {name other : Name} {language : String}
    (hname : slash ∉ name) (htext : IsText name) (hother : slash ∉ other) (htext' : IsText other)
    (h : Path.inFolder folders (outputName name language) = .inFolder others (outputName other language)) :
    Path.inFolder folders name = .inFolder others other := by
  obtain ⟨stem₁, ending₁, h₁, houtput₁⟩ := exists_divided htext
  obtain ⟨stem₂, ending₂, h₂, houtput₂⟩ := exists_divided htext'
  have heq := congrArg Path.bytes h
  simp only [Path.inFolder, houtput₁, houtput₂] at heq
  have hcut₁ := cut_inFolder folders hname
  have hcut₂ := cut_inFolder others hother
  have hbytes : (Path.inFolder folders name).bytes = (Path.inFolder others other).bytes := by
    rcases Nat.le_total ending₁.length ending₂.length with hle | hle
    · exact Divided.eq_of_output_eq hcut₁ h₁ hcut₂ h₂ heq hle
    · exact (Divided.eq_of_output_eq hcut₂ h₂ hcut₁ h₁ heq.symm hle).symm
  rw [← Path.mk.injEq] at hbytes
  exact hbytes

/-- Names are kept apart. -/
theorem outputName_inj {name other : Name} {language : String} (hname : slash ∉ name)
    (htext : IsText name) (hother : slash ∉ other) (htext' : IsText other)
    (h : outputName name language = outputName other language) : name = other := by
  have hpaths : Path.inFolder [] name = .inFolder [] other :=
    inFolder_eq_of_output_eq hname htext hother htext' (congrArg _ h)
  simpa [Path.inFolder] using hpaths

theorem slash_notMem_fileName (path : Path) : slash ∉ path.fileName?.getD [] := by
  cases hname : path.fileName? with
  | none => simp
  | some name => exact (Path.ordinary_of_fileName? hname).notMem

/-- Only a path without a file has the empty name. -/
theorem fileName?_eq_iff {path other : Path} :
    path.fileName?.getD [] = other.fileName?.getD [] ↔ path.fileName? = other.fileName? := by
  constructor
  · intro h
    cases hpath : path.fileName? with
    | none =>
        cases hother : other.fileName? with
        | none => rfl
        | some name =>
            rw [hpath, hother] at h
            exact absurd h.symm (Path.ordinary_of_fileName? hother).ne_nil
    | some name =>
        cases hother : other.fileName? with
        | none =>
            rw [hpath, hother] at h
            exact absurd h (Path.ordinary_of_fileName? hpath).ne_nil
        | some otherName =>
            rw [hpath, hother] at h
            exact congrArg some h
  · intro h
    rw [h]

theorem slash_notMem_parentFolders {path : Path} {folder : Name} (h : folder ∈ path.parentFolders) :
    slash ∉ folder :=
  Path.notMem_of_mem_names (Path.mem_names_of_mem_parentFolders h)

theorem slash_notMem_outputFolders {path : Path} {directory : Option Path} {folder : Name}
    (h : folder ∈ outputFolders path directory) : slash ∉ folder := by
  cases directory with
  | none => exact slash_notMem_parentFolders h
  | some directory => exact Path.notMem_of_mem_names (Path.mem_names_of_mem_folders h)

section Documents

variable {path other : Path} {language : String}

/-- In a directory, compiled documents share a path exactly if their sources have one name. -/
theorem outputPath_inside_iff (directory : Path) (hpath : path.HasTextName) (hother : other.HasTextName) :
    outputPath path (some directory) language = outputPath other (some directory) language ↔
      path.fileName? = other.fileName? := by
  rw [← fileName?_eq_iff]
  constructor
  · intro h
    have hnames := congrArg Path.bytes h
    simp only [outputPath, outputFolders, Path.inFolder, List.append_cancel_left_eq] at hnames
    exact outputName_inj (slash_notMem_fileName path) hpath.isText (slash_notMem_fileName other)
      hother.isText hnames
  · intro h
    simp only [outputPath, outputFolders, h]

/-- Beside its source, a compiled document has a path of its own. -/
theorem components_eq_of_outputPath_eq (hpath : path.HasTextName) (hother : other.HasTextName)
    (h : outputPath path none language = outputPath other none language) :
    path.components = other.components := by
  have hpaths : Path.inFolder path.parentFolders (path.fileName?.getD []) =
      .inFolder other.parentFolders (other.fileName?.getD []) :=
    inFolder_eq_of_output_eq (slash_notMem_fileName path) hpath.isText (slash_notMem_fileName other)
      hother.isText h
  have hnames := congrArg Path.names hpaths
  rw [Path.names_inFolder (fun _ => slash_notMem_parentFolders) (slash_notMem_fileName path),
    Path.names_inFolder (fun _ => slash_notMem_parentFolders) (slash_notMem_fileName other)] at hnames
  rw [Path.components_eq path, Path.components_eq other, hnames]

end Documents

/-! ### Languages without a slash -/

theorem ordinary_of_two_lt {name : Name} (hslash : slash ∉ name) (h : 2 < name.length) :
    Ordinary name := by
  refine ⟨hslash, ?_, ?_⟩
  · rw [← Bool.not_eq_true, Name.isIdle_iff]
    rintro (rfl | rfl)
    · simp at h
    · simp at h
  · rintro rfl
    simp [Name.up] at h

theorem slash_notMem_encode {text : String} (h : '/' ∉ text.toList) : slash ∉ encode text.toList :=
  fun hmem => h (Text.Utf8.mem_of_mem_encode Path.slash_lt hmem)

/-- The name of a document leads down, as that of its source does. -/
theorem Ordinary.outputName {name : Name} {language : String} (h : Ordinary name) (htext : IsText name)
    (hlanguage : '/' ∉ language.toList) : Ordinary (outputName name language) := by
  obtain ⟨stem, ending, hname, houtput⟩ := exists_divided htext
  have hslash : slash ∉ CommandLine.outputName name language := by
    have hparts : slash ∉ stem ++ ending := hname.eq ▸ h.notMem
    have hdot : slash ≠ dot := by decide
    simp only [List.mem_append, not_or] at hparts
    simp [houtput, hparts, hdot, slash_notMem_encode hlanguage]
  by_cases hlength : 2 < (CommandLine.outputName name language).length
  · exact ordinary_of_two_lt hslash hlength
  · -- one byte and a dot: the name is that byte
    obtain ⟨byte, stem, rfl⟩ := List.exists_cons_of_ne_nil (hname.stem_ne_nil h.ne_nil)
    simp only [houtput, List.length_append, List.length_cons] at hlength
    have hstem : stem = [] := List.length_eq_zero_iff.1 (by omega)
    have hending : ending = [] := List.length_eq_zero_iff.1 (by omega)
    have hlanguage' : encode language.toList = [] := List.length_eq_zero_iff.1 (by omega)
    have hname' : name = [byte] := by rw [hname.eq, hstem, hending]; rfl
    have houtput' : CommandLine.outputName name language = [byte, dot] := by
      simp [houtput, hstem, hending, hlanguage']
    rw [houtput'] at hslash ⊢
    refine ⟨hslash, by simp [Name.isIdle], fun hup => ?_⟩
    obtain ⟨hbyte, -⟩ := List.cons.inj hup
    exact absurd h.isIdle (by simp [hname', hbyte, Name.isIdle])

section Documents

variable {path other : Path} {language : String} {name otherName : Name}

theorem components_outputPath (hname : path.fileName? = some name) (htext : IsText name)
    (hlanguage : '/' ∉ language.toList) (directory : Option Path) :
    (outputPath path directory language).components =
      Path.folderComponents (outputFolders path directory) ++ [outputName name language] := by
  have hordinary := (Path.ordinary_of_fileName? hname).outputName htext hlanguage
  rw [outputPath, hname, Option.getD_some, Path.components,
    Path.names_inFolder (fun _ => slash_notMem_outputFolders) hordinary.notMem,
    Path.componentsOf_concat hordinary.isIdle]

/-- **Which documents share a path**, however it is written. -/
theorem components_outputPath_iff (hname : path.fileName? = some name) (htext : IsText name)
    (hother : other.fileName? = some otherName) (htext' : IsText otherName)
    (hlanguage : '/' ∉ language.toList) (directory : Option Path) :
    (outputPath path directory language).components = (outputPath other directory language).components ↔
      match directory with
      | none => path.components = other.components
      | some _ => path.fileName? = other.fileName? := by
  have hordinary := Path.ordinary_of_fileName? hname
  have hordinary' := Path.ordinary_of_fileName? hother
  have hnames : outputName name language = outputName otherName language ↔ name = otherName :=
    ⟨outputName_inj hordinary.notMem htext hordinary'.notMem htext', fun h => by rw [h]⟩
  rw [components_outputPath hname htext hlanguage, components_outputPath hother htext' hlanguage,
    List.append_singleton_inj, hnames]
  cases directory with
  | some directory => simp [outputFolders, hname, hother]
  | none =>
      rw [Path.components_eq path, Path.components_eq other, hname, hother, Option.getD_some,
        Option.getD_some, Path.componentsOf_concat hordinary.isIdle,
        Path.componentsOf_concat hordinary'.isIdle, List.append_singleton_inj]
      rfl

end Documents

/-! ### The names of position maps -/

/-- The name of a position map, from that of the document. -/
def mapName (name : Name) (kind : ScriptKind) : Name :=
  name ++ dot :: (encode kind.key.toList ++ dot :: encode "map".toList)

theorem mapPath_inFolder {folders : List Name} {name : Name} (h : (Path.inFolder folders name).IsText)
    (kind : ScriptKind) :
    mapPath (.inFolder folders name) kind = .inFolder folders (mapName name kind) := by
  have hbytes : encode (Path.text (.inFolder folders name)).toList = (Path.inFolder folders name).bytes :=
    Text.Utf8.IsText.encode_ofBytes h
  have hmap : encode ".map".toList = dot :: encode "map".toList := by decide
  simp only [mapPath, mapName, Path.ofText, String.toList_append, Text.Utf8.encode_append, hbytes,
    encode_dot, hmap]
  simp only [Path.inFolder, List.append_assoc, List.cons_append, List.nil_append]

/-- A position map has a longer name than its document. -/
theorem ne_mapName (name : Name) (kind : ScriptKind) : name ≠ mapName name kind := by
  intro heq
  simp [mapName] at heq

theorem Ordinary.mapName {name : Name} (h : Ordinary name) (kind : ScriptKind) :
    Ordinary (mapName name kind) := by
  have hkind : slash ∉ dot :: (encode kind.key.toList ++ dot :: encode "map".toList) := by
    cases kind <;> decide
  apply ordinary_of_two_lt
  · rw [CommandLine.mapName, List.mem_append, not_or]
    exact ⟨h.notMem, hkind⟩
  · have hmap : (encode "map".toList).length = 3 := by decide
    simp only [CommandLine.mapName, List.length_append, List.length_cons]
    omega

/-- No document has the name of a position map, unless the language ends in the word for its kind. -/
theorem outputName_ne_mapName {name other : Name} {language : String} {kind : ScriptKind}
    (htext : IsText name) (htext' : IsText other) (hother : other ≠ [])
    (hlanguage : ¬ encode kind.key.toList <:+ encode language.toList) :
    outputName name language ≠ mapName (outputName other language) kind := by
  intro heq
  obtain ⟨stem, ending, hname, houtput⟩ := exists_divided htext
  obtain ⟨stem', ending', hother', houtput'⟩ := exists_divided htext'
  have hbytes : stem ++ dot :: (encode language.toList ++ ending) =
      stem' ++ dot :: (encode language.toList ++ (ending' ++
        dot :: (encode kind.key.toList ++ dot :: encode "map".toList))) := by
    simpa only [mapName, houtput, houtput', List.append_assoc, List.cons_append] using heq
  rcases hname.ending_cases with ⟨rfl, hdot⟩ | ⟨-, extension, rfl, hdot⟩
  · -- the name is the longer one, and has the dot behind the other stem
    have hlt : (encode language.toList ++ []).length < (encode language.toList ++ (ending' ++
        dot :: (encode kind.key.toList ++ dot :: encode "map".toList))).length := by
      simp only [List.length_append, List.length_cons, List.length_nil]
      omega
    obtain ⟨rest, rfl⟩ := concat_isPrefix_of_append_eq hbytes hlt
    cases stem' with
    | nil => exact hother'.stem_ne_nil hother rfl
    | cons byte stem' => exact hdot (by simp)
  · -- what is before the extension ends in the language and in the word for the kind
    have hkey : dot ∉ encode kind.key.toList := by cases kind <;> decide
    have hcut : Cut dot (outputName name language)
        ((stem ++ dot :: encode language.toList) ++ [dot]) extension :=
      ⟨by simp [houtput], Or.inr ⟨_, rfl⟩, hdot⟩
    have hcut' : Cut dot (outputName name language)
        ((outputName other language ++ dot :: encode kind.key.toList) ++ [dot]) (encode "map".toList) :=
      ⟨by simp [heq, mapName], Or.inr ⟨_, rfl⟩, by decide⟩
    have hfronts := List.append_cancel_right (hcut.unique hcut').1
    have hsuffix : encode kind.key.toList <:+ stem ++ dot :: encode language.toList :=
      ⟨outputName other language ++ [dot], by simp [hfronts]⟩
    rcases Nat.lt_or_ge (encode language.toList).length (encode kind.key.toList).length with hlt | hge
    · have hlonger : dot :: encode language.toList <:+ encode kind.key.toList :=
        List.suffix_of_suffix_length_le (List.suffix_append _ _) hsuffix hlt
      exact hkey (hlonger.subset (by simp))
    · exact hlanguage (List.suffix_of_suffix_length_le hsuffix ⟨stem ++ [dot], by simp⟩ hge)

end Inlay.CommandLine
