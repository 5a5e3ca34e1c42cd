/-
**Documents that are compiled at the same time.**

Each document has a thread of its own: the thread reads the file, and then writes the compiled document
and its position maps, one file after the other.  The threads share the store and nothing else, and a
step of one of them can come at any time between the steps of the others.  A thread that cannot take
its next step has failed and takes no more.

Main definitions:

* `Inlay.CommandLine.documentWrites` — what is written for a document, in order;
* `Inlay.CommandLine.Thread`, `Inlay.CommandLine.Thread.advance` — threads, and what one does next;
* `Inlay.CommandLine.Work.follow` — steps of the threads in a given order;
* `Inlay.CommandLine.Separate` — what keeps the documents of a request apart;
* `Inlay.CommandLine.Invariant` — what holds at every time.

Main results:

* `Inlay.CommandLine.Thread.advance_cases` — what a thread can do;
* `Inlay.CommandLine.Invariant.step` — **what one step keeps**;
* `Inlay.CommandLine.invariant_of_follow` — **what every order of the steps keeps**;
* `Inlay.CommandLine.exists_read_of_follow` — the text that a thread works on was read in the run;
* `Inlay.CommandLine.Invariant.read_of_finished`, `Inlay.CommandLine.Invariant.pairwise_resolve` — what
  there is when all threads are through.
-/
import Inlay.CommandLine.Run
import Inlay.Proofs.Places
import Mathlib.Data.List.Induction

set_option autoImplicit false

namespace Inlay.CommandLine

/-! ### What is written for a document -/

/-- What is written for the position map of a block. -/
def mapWrites (output : Path) (kind : ScriptKind) (block : Option Block) : List (Path × String) :=
  ((block.bind Block.map).map fun map => (mapPath output kind, map.json.compact)).toList

/-- What is written for a document, in order. -/
def documentWrites (output : Path) (document : Document) : List (Path × String) :=
  (output, document.code) :: (mapWrites output .moduleScript document.moduleBlock
    ++ mapWrites output .instanceScript document.instanceBlock)

theorem eq_mapPath_of_mem_mapWrites {output : Path} {kind : ScriptKind} {block : Option Block}
    {entry : Path × String} (h : entry ∈ mapWrites output kind block) :
    entry.1 = mapPath output kind := by
  unfold mapWrites at h
  simp only [Option.mem_toList, Option.map_eq_some_iff] at h
  obtain ⟨map, -, rfl⟩ := h
  rfl

/-- Behind the document itself come its position maps. -/
theorem exists_mapPath_of_mem {output : Path} {document : Document} {entry : Path × String}
    (h : entry ∈ (documentWrites output document).tail) : ∃ kind, entry.1 = mapPath output kind := by
  rcases List.mem_append.1 h with h | h
  · exact ⟨_, eq_mapPath_of_mem_mapWrites h⟩
  · exact ⟨_, eq_mapPath_of_mem_mapWrites h⟩

/-! ### Threads -/

namespace PreprocessRequest

variable (request : PreprocessRequest) (tools : Tools) (rules : Rules)

/-- The document that the text of a file is compiled to. -/
def document (path : Path) (text : String) : Document :=
  (Normalizer.documentBy ⟨rules, tools.reader⟩ (tools.compile request.compiler)
    { path := path.text, text }).1

/-- The path that a compiled document is written to. -/
def output (path : Path) : Path :=
  outputPath path request.directory rules.outputLang

end PreprocessRequest

/-- How far a thread has come. -/
inductive Stage where
  /-- The file is not read yet. -/
  | waiting
  /-- The file was read, and some of what is written for it is left. -/
  | writing (text : String) (left : List (Path × String))
  deriving DecidableEq

/-- The thread of a file. -/
structure Thread where
  path : Path
  stage : Stage
  deriving DecidableEq

/-- A thread before its first step. -/
def Thread.waiting (path : Path) : Thread :=
  ⟨path, .waiting⟩

/-- A thread that has written everything for the text that it read. -/
def Thread.finished (path : Path) (text : String) : Thread :=
  ⟨path, .writing text []⟩

/-- Whether a thread has written everything. -/
def Thread.IsFinished (thread : Thread) : Prop :=
  ∃ text, thread = .finished thread.path text

/-- What a thread does next, and what it makes of the store. -/
def Thread.advance (tools : Tools) (request : PreprocessRequest) (rules : Rules) (store : Store)
    (thread : Thread) : Option (Store × Thread) :=
  match thread.stage with
  | .waiting =>
    (store.read thread.path).map fun text =>
      (store, { thread with
        stage := .writing text
          (documentWrites (request.output rules thread.path)
            (request.document tools rules thread.path text)) })
  | .writing text ((file, content) :: left) =>
    (store.write file content).map fun next => (next, { thread with stage := .writing text left })
  | .writing _ [] => none

/-- The store and the threads that work on it. -/
structure Work where
  store : Store
  threads : List Thread
  deriving DecidableEq

namespace Work

/-- One of the threads takes its next step. -/
def advance (tools : Tools) (request : PreprocessRequest) (rules : Rules) (work : Work) (index : Nat) :
    Option Work :=
  work.threads[index]?.bind fun thread =>
    (thread.advance tools request rules work.store).map fun (next, moved) =>
      ⟨next, work.threads.set index moved⟩

/-- The threads take their steps in the given order. -/
def follow (tools : Tools) (request : PreprocessRequest) (rules : Rules) (work : Work)
    (order : List Nat) : Option Work :=
  order.foldlM (advance tools request rules) work

/-- The threads of a request before their first steps. -/
def start (request : PreprocessRequest) (store : Store) : Work :=
  ⟨store, request.files.map Thread.waiting⟩

end Work

section Steps

variable {tools : Tools} {request : PreprocessRequest} {rules : Rules} {store next : Store}
  {thread moved : Thread} {work later : Work} {index : Nat}

/-- **What a thread can do**: it reads its file, or writes the next of what is left. -/
theorem Thread.advance_cases (h : thread.advance tools request rules store = some (next, moved)) :
    (∃ text, thread.stage = .waiting ∧ store.read thread.path = some text ∧ next = store ∧
      moved = ⟨thread.path, .writing text
        (documentWrites (request.output rules thread.path)
          (request.document tools rules thread.path text))⟩)
    ∨ ∃ text file content left, thread.stage = .writing text ((file, content) :: left) ∧
      store.write file content = some next ∧ moved = ⟨thread.path, .writing text left⟩ := by
  unfold advance at h
  split at h
  next hstage =>
      obtain ⟨text, htext, heq⟩ := Option.map_eq_some_iff.1 h
      obtain ⟨rfl, rfl⟩ := Prod.mk.inj heq
      exact Or.inl ⟨text, hstage, htext, rfl, rfl⟩
  next text file content left hstage =>
      obtain ⟨written, hwritten, heq⟩ := Option.map_eq_some_iff.1 h
      obtain ⟨rfl, rfl⟩ := Prod.mk.inj heq
      exact Or.inr ⟨text, file, content, left, hstage, hwritten, rfl⟩
  next => simp at h

theorem Thread.path_of_advance (h : thread.advance tools request rules store = some (next, moved)) :
    moved.path = thread.path := by
  rcases advance_cases h with ⟨_, _, _, _, rfl⟩ | ⟨_, _, _, _, _, _, rfl⟩
  · rfl
  · rfl

theorem Work.advance_eq_some_iff :
    work.advance tools request rules index = some later ↔
      ∃ thread next moved, work.threads[index]? = some thread ∧
        thread.advance tools request rules work.store = some (next, moved) ∧
        later = ⟨next, work.threads.set index moved⟩ := by
  simp only [advance, Option.bind_eq_some_iff, Option.map_eq_some_iff, Prod.exists]
  constructor
  · rintro ⟨thread, hthread, next, moved, hmoved, rfl⟩
    exact ⟨thread, next, moved, hthread, hmoved, rfl⟩
  · rintro ⟨thread, next, moved, hthread, hmoved, rfl⟩
    exact ⟨thread, hthread, next, moved, hmoved, rfl⟩

end Steps

/-! ### What every step keeps -/

/-- What keeps the documents of a request apart: the paths are texts, the language is no path of its own,
the sources are apart, and a document that has the name of another's position map goes to another
directory. -/
structure Separate (request : PreprocessRequest) (rules : Rules) (store : Store) : Prop where
  texts : ∀ path ∈ request.files, path.IsText
  directory : ∀ folder ∈ request.directory, folder.IsText
  language : '/' ∉ rules.outputLang.toList
  apart : request.files.Pairwise (Apart store request.directory)
  maps : ∀ path ∈ request.files, ∀ other ∈ request.files, ∀ kind,
    outputName (path.fileName?.getD []) rules.outputLang
        = mapName (outputName (other.fileName?.getD []) rules.outputLang) kind →
      store.folder (outputFolders path request.directory)
        ≠ store.folder (outputFolders other request.directory)

/-- What is left to write for the text of a file is the end of what is written for it; when the document
is among the rest, it is in the store. -/
structure Kept (tools : Tools) (request : PreprocessRequest) (rules : Rules) (store : Store)
    (path : Path) (text : String) (left : List (Path × String)) : Prop where
  exists_leads : ∃ above name, path.Leads above name
  exists_done : ∃ done,
    documentWrites (request.output rules path) (request.document tools rules path text) = done ++ left ∧
    (done ≠ [] →
      store.read (request.output rules path) = some (request.document tools rules path text).code)

/-- What holds at every time. -/
structure Invariant (tools : Tools) (request : PreprocessRequest) (rules : Rules) (store : Store)
    (work : Work) : Prop where
  paths : work.threads.map Thread.path = request.files
  directories : Store.SameDirectories store work.store
  kept : ∀ thread ∈ work.threads, ∀ text left, thread.stage = .writing text left →
    Kept tools request rules work.store thread.path text left

section Invariant

variable {tools : Tools} {request : PreprocessRequest} {rules : Rules} {store next : Store}
  {thread moved : Thread} {work later : Work} {index : Nat} {path other file : Path} {text content : String}
  {left : List (Path × String)}

theorem invariant_start (request : PreprocessRequest) (store : Store) :
    Invariant tools request rules store (Work.start request store) where
  paths := by simp [Work.start, Function.comp_def, Thread.waiting]
  directories := Store.SameDirectories.refl store
  kept thread hthread text left hstage := by
    obtain ⟨path, -, rfl⟩ := List.mem_map.1 hthread
    simp [Thread.waiting] at hstage

/-- The next that is written is the document, or one of its position maps when the document is there. -/
theorem Kept.next_cases (h : Kept tools request rules store path text ((file, content) :: left)) :
    (file = request.output rules path ∧ content = (request.document tools rules path text).code) ∨
    (store.read (request.output rules path) = some (request.document tools rules path text).code ∧
      ∃ kind, file = mapPath (request.output rules path) kind) := by
  obtain ⟨done, hdone, hread⟩ := h.exists_done
  cases done with
  | nil =>
      rw [documentWrites, List.nil_append, List.cons.injEq, Prod.mk.injEq] at hdone
      exact Or.inl ⟨hdone.1.1.symm, hdone.1.2.symm⟩
  | cons first done =>
      have hmem : (file, content) ∈
          (documentWrites (request.output rules path) (request.document tools rules path text)).tail := by
        simp [hdone]
      exact Or.inr ⟨hread (by simp), exists_mapPath_of_mem hmem⟩

/-- A write that goes elsewhere leaves a document where it is. -/
theorem Kept.write_of_ne (h : Kept tools request rules store path text left)
    (hwrite : store.write file content = some next)
    (hne : ∀ place, store.resolve file = some place →
      store.resolve (request.output rules path) ≠ some place) :
    Kept tools request rules next path text left := by
  obtain ⟨done, hdone, hread⟩ := h.exists_done
  refine ⟨h.exists_leads, done, hdone, fun hsome => ?_⟩
  rw [Store.read_write_of_ne hwrite hne]
  exact hread hsome

/-- The next write of a thread puts its document in the store, or leaves it there. -/
theorem Kept.write_self {base : Store}
    (h : Kept tools request rules store path text ((file, content) :: left))
    (hwrite : store.write file content = some next) (hseparate : Separate request rules base)
    (hpath : path ∈ request.files) : Kept tools request rules next path text left := by
  obtain ⟨above, name, hleads⟩ := h.exists_leads
  obtain ⟨done, hdone, -⟩ := h.exists_done
  have htext := hseparate.texts path hpath
  refine ⟨h.exists_leads, done ++ [(file, content)], by simp [hdone], fun _ => ?_⟩
  rcases h.next_cases with ⟨rfl, rfl⟩ | ⟨hread, kind, rfl⟩
  · exact Store.read_write_self hwrite
      (resolve_outputPath_ne_nullDevice hleads htext hseparate.language)
  · rw [← hread]
    exact Store.read_write_of_ne hwrite fun place hplace =>
      resolve_outputPath_ne_mapPath hleads htext hleads htext hseparate.directory hseparate.language
        (fun hname => absurd hname (ne_mapName _ kind)) hplace

/-- The next write of another thread goes elsewhere. -/
theorem Kept.write_other {base : Store} (h : Kept tools request rules store path text left)
    {otherText : String} {otherLeft : List (Path × String)}
    (hother : Kept tools request rules store other otherText ((file, content) :: otherLeft))
    (hwrite : store.write file content = some next) (hseparate : Separate request rules base)
    (hsame : Store.SameDirectories base store) (hpath : path ∈ request.files)
    (hother' : other ∈ request.files) (hapart : Apart store request.directory path other) :
    Kept tools request rules next path text left := by
  obtain ⟨above, name, hleads⟩ := h.exists_leads
  obtain ⟨above', name', hleads'⟩ := hother.exists_leads
  have htext := hseparate.texts path hpath
  have htext' := hseparate.texts other hother'
  apply h.write_of_ne hwrite
  intro place hplace
  rcases hother.next_cases with ⟨rfl, -⟩ | ⟨-, kind, rfl⟩
  · exact hapart.resolve_outputPath_ne hleads htext hleads' htext' hseparate.language hplace
  · have hmaps := hseparate.maps path hpath other hother' kind
    rw [hleads.fileName?, hleads'.fileName?, Option.getD_some, Option.getD_some, ← hsame.folder_eq,
      ← hsame.folder_eq] at hmaps
    exact resolve_outputPath_ne_mapPath hleads htext hleads' htext' hseparate.directory
      hseparate.language hmaps hplace

theorem Invariant.mem_files (h : Invariant tools request rules store work)
    (hthread : thread ∈ work.threads) : thread.path ∈ request.files := by
  rw [← h.paths]
  exact List.mem_map_of_mem hthread

/-- Threads at different places in the list have sources that are apart. -/
theorem Invariant.apart (h : Invariant tools request rules store work)
    (hseparate : Separate request rules store) {first second : Nat} {a b : Thread}
    (ha : work.threads[first]? = some a) (hb : work.threads[second]? = some b) (hne : first ≠ second) :
    Apart work.store request.directory a.path b.path := by
  have hpairs := hseparate.apart
  rw [← h.paths, List.pairwise_map, List.pairwise_iff_getElem] at hpairs
  obtain ⟨hfirst, rfl⟩ := List.getElem?_eq_some_iff.1 ha
  obtain ⟨hsecond, rfl⟩ := List.getElem?_eq_some_iff.1 hb
  rcases Nat.lt_or_gt_of_ne hne with hlt | hgt
  · exact (hpairs first second hfirst hsecond hlt).congr h.directories
  · exact (hpairs second first hsecond hfirst hgt).symm.congr h.directories

/-- A thread that moves keeps its place in the list. -/
theorem map_path_set {threads : List Thread} (hthread : threads[index]? = some thread)
    (hpath : moved.path = thread.path) :
    (threads.set index moved).map Thread.path = threads.map Thread.path := by
  obtain ⟨hlt, rfl⟩ := List.getElem?_eq_some_iff.1 hthread
  have hlt' : index < (threads.map Thread.path).length := by simpa using hlt
  have hsame : moved.path = (threads.map Thread.path)[index] := by rw [hpath, List.getElem_map]
  rw [List.map_set, hsame, List.set_getElem_self]

/-- **What one step keeps.** -/
theorem Invariant.step (h : Invariant tools request rules store work)
    (hseparate : Separate request rules store) (hstep : work.advance tools request rules index = some later) :
    Invariant tools request rules store later := by
  obtain ⟨thread, next, moved, hthread, hadvance, rfl⟩ := Work.advance_eq_some_iff.1 hstep
  have hpath := Thread.path_of_advance hadvance
  have hmem := List.mem_of_getElem? hthread
  have hpaths : (work.threads.set index moved).map Thread.path = request.files :=
    (map_path_set hthread hpath).trans h.paths
  rcases Thread.advance_cases hadvance with
    ⟨text, -, hread, rfl, rfl⟩ | ⟨text, file, content, left, hstage, hwrite, rfl⟩
  · -- reading leaves the store as it is, and nothing of the document is written
    refine ⟨hpaths, h.directories, fun other hother text' left' hstage' => ?_⟩
    rcases List.mem_or_eq_of_mem_set hother with hother | rfl
    · exact h.kept other hother text' left' hstage'
    · obtain ⟨rfl, rfl⟩ := Stage.writing.inj hstage'
      exact ⟨Store.exists_leads_of_read hread, [], rfl, fun hnil => absurd rfl hnil⟩
  · have hkept := h.kept thread hmem text _ hstage
    refine ⟨hpaths, ?_, ?_⟩
    · exact h.directories.trans (Store.sameDirectories_write hwrite)
    · intro other hother text' left' hstage'
      obtain ⟨position, hposition⟩ := List.getElem?_of_mem hother
      by_cases hsame : index = position
      · -- the thread that writes
        subst hsame
        obtain ⟨hlt, -⟩ := List.getElem?_eq_some_iff.1 hthread
        rw [List.getElem?_set_self hlt] at hposition
        obtain rfl := Option.some_inj.1 hposition
        obtain ⟨rfl, rfl⟩ := Stage.writing.inj hstage'
        exact hkept.write_self hwrite hseparate (h.mem_files hmem)
      · rw [List.getElem?_set_ne hsame] at hposition
        have hother := List.mem_of_getElem? hposition
        exact (h.kept other hother text' left' hstage').write_other hkept hwrite hseparate h.directories
          (h.mem_files hother) (h.mem_files hmem) (h.apart hseparate hposition hthread (Ne.symm hsame))

end Invariant

/-! ### What every run keeps -/

section Runs

variable {tools : Tools} {request : PreprocessRequest} {rules : Rules} {store : Store}
  {work later : Work} {order : List Nat}

theorem Work.follow_append (first second : List Nat) :
    work.follow tools request rules (first ++ second) =
      (work.follow tools request rules first).bind fun between =>
        between.follow tools request rules second := by
  simp [follow, List.foldlM_append]

theorem Work.follow_concat_eq_some_iff {index : Nat} :
    work.follow tools request rules (order ++ [index]) = some later ↔
      ∃ between, work.follow tools request rules order = some between ∧
        between.advance tools request rules index = some later := by
  rw [follow_append, Option.bind_eq_some_iff]
  exact exists_congr fun between => and_congr_right fun _ => by simp [follow]

/-- **What every order of the steps keeps.** -/
theorem invariant_of_follow (hseparate : Separate request rules store)
    (h : (Work.start request store).follow tools request rules order = some work) :
    Invariant tools request rules store work := by
  -- the start is fixed, so the order grows at its end
  induction order using List.reverseRecOn generalizing work with
  | nil =>
      obtain rfl : Work.start request store = work := by simpa [Work.follow] using h
      exact invariant_start request store
  | append_singleton order index ih =>
      obtain ⟨between, hbetween, hstep⟩ := Work.follow_concat_eq_some_iff.1 h
      exact (ih hbetween).step hseparate hstep

/-- The text that a thread works on was in its file at some time of the run. -/
theorem exists_read_of_follow {thread : Thread} {text : String} {left : List (Path × String)}
    (h : (Work.start request store).follow tools request rules order = some work)
    (hthread : thread ∈ work.threads) (hstage : thread.stage = .writing text left) :
    ∃ first earlier, first <+: order ∧
      (Work.start request store).follow tools request rules first = some earlier ∧
      earlier.store.read thread.path = some text := by
  induction order using List.reverseRecOn generalizing work thread left with
  | nil =>
      obtain rfl : Work.start request store = work := by simpa [Work.follow] using h
      obtain ⟨path, -, rfl⟩ := List.mem_map.1 hthread
      simp [Thread.waiting] at hstage
  | append_singleton order index ih =>
      obtain ⟨between, hbetween, hstep⟩ := Work.follow_concat_eq_some_iff.1 h
      have hearlier : ∀ {other : Thread} {left : List (Path × String)}, other ∈ between.threads →
          other.stage = .writing text left → ∃ first earlier, first <+: order ++ [index] ∧
            (Work.start request store).follow tools request rules first = some earlier ∧
            earlier.store.read other.path = some text := by
        intro other left hother hstage
        obtain ⟨first, earlier, hprefix, hfollow, hread⟩ := ih hbetween hother hstage
        exact ⟨first, earlier, hprefix.trans (List.prefix_append _ _), hfollow, hread⟩
      obtain ⟨actor, next, moved, hactor, hadvance, rfl⟩ := Work.advance_eq_some_iff.1 hstep
      have hmem := List.mem_of_getElem? hactor
      rcases List.mem_or_eq_of_mem_set hthread with hthread | rfl
      · exact hearlier hthread hstage
      · rcases Thread.advance_cases hadvance with
          ⟨read, -, hread, -, rfl⟩ | ⟨_, _, _, _, hactor, -, rfl⟩
        · obtain ⟨rfl, -⟩ := Stage.writing.inj hstage
          exact ⟨order, between, List.prefix_append _ _, hbetween, hread⟩
        · obtain ⟨rfl, -⟩ := Stage.writing.inj hstage
          have hread := hearlier hmem hactor
          exact hread

/-- A thread that has nothing left to write finds its document in the store. -/
theorem Invariant.read_of_finished (h : Invariant tools request rules store work) {path : Path}
    {text : String}
    (hthread : Thread.finished path text ∈ work.threads) :
    work.store.read (request.output rules path) =
      some (request.document tools rules path text).code := by
  obtain ⟨done, hdone, hread⟩ := (h.kept _ hthread text [] rfl).exists_done
  apply hread
  rintro rfl
  simp [documentWrites] at hdone

/-- Threads that have nothing left to write have written their documents to different files. -/
theorem Invariant.pairwise_resolve (h : Invariant tools request rules store work)
    (hseparate : Separate request rules store)
    (hfinished : ∀ thread ∈ work.threads, thread.IsFinished) :
    request.files.Pairwise fun path other =>
      store.resolve (request.output rules path) ≠ store.resolve (request.output rules other) := by
  have hleads : ∀ thread ∈ work.threads, ∃ above name, thread.path.Leads above name := by
    intro thread hthread
    obtain ⟨text, hstage⟩ := hfinished thread hthread
    exact (h.kept thread hthread text [] (congrArg Thread.stage hstage)).exists_leads
  have htexts : ∀ thread ∈ work.threads, thread.path.IsText := fun thread hthread =>
    hseparate.texts _ (h.mem_files hthread)
  have hpairs := hseparate.apart
  rw [← h.paths, List.pairwise_map] at hpairs ⊢
  refine hpairs.imp_of_mem fun {first second} hfirst hsecond hapart => ?_
  obtain ⟨_, _, hleads₁⟩ := hleads first hfirst
  obtain ⟨_, _, hleads₂⟩ := hleads second hsecond
  obtain ⟨text, hsecond'⟩ := hfinished second hsecond
  have hread := h.read_of_finished (hsecond' ▸ hsecond)
  obtain ⟨place, hplace, -⟩ := Store.read_eq_some_iff.1 hread
  rw [h.directories.resolve_eq] at hplace
  have hne := hapart.resolve_outputPath_ne hleads₁ (htexts first hfirst) hleads₂ (htexts second hsecond)
    hseparate.language hplace
  exact fun hsame => hne (hsame.trans hplace)

end Runs

end Inlay.CommandLine
