/-
**Compiling the documents of a request.**

The command does one document after the other, which is one of the orders in which their threads can
take their steps.  In every order each document is found at its own path when all threads are through,
provided that the documents are kept apart; and each of the provisos is needed.

Main definitions:

* `Inlay.CommandLine.Gives`, `Inlay.CommandLine.Ends` — what actions on a store and sessions come to;
* `Inlay.CommandLine.Loses` — a run of the threads that leaves a document out of the store.

Main results:

* `Inlay.CommandLine.gives_writeDocument_iff` — writing a document is writing its files in order;
* `Inlay.CommandLine.exists_follow_of_preprocess` — **the command is a run of the threads**;
* `Inlay.CommandLine.PreprocessRequest.documents_kept` — **compiled documents are kept**;
* `Inlay.CommandLine.PreprocessRequest.documents_lost` — how documents are lost without the provisos.
-/
import Inlay.Proofs.Findings
import Inlay.Proofs.Threads

set_option autoImplicit false

namespace Inlay.CommandLine

/-! ### Actions on a store -/

section Actions

variable {α β : Type} {store next : Store}

/-- What an action gives, and the store that it leaves. -/
def Gives (action : StateM Store α) (store : Store) (value : α) (next : Store) : Prop :=
  Id.run (action.run store) = (value, next)

theorem gives_pure_iff {value result : α} :
    Gives (pure value) store result next ↔ result = value ∧ next = store := by
  simp [Gives, eq_comm]

theorem gives_bind_iff {action : StateM Store α} {more : α → StateM Store β} {result : β} :
    Gives (action >>= more) store result next ↔
      ∃ value between, Gives action store value between ∧ Gives (more value) between result next := by
  unfold Gives
  rw [StateT.run_bind, Id.run_bind]
  rcases Id.run (action.run store) with ⟨value, between⟩
  simp

theorem gives_attempt_iff {change : Store → Option Store} :
    Gives (Store.attempt change) store true next ↔ change store = some next := by
  unfold Gives StateT.run Store.attempt
  cases change store with
  | none => simp [Id.run]
  | some changed => simp [Id.run]

/-- An action that is taken if another one could be. -/
theorem gives_ite_iff {first second : StateM Store Bool} :
    Gives (do if ← first then second else pure false) store true next ↔
      ∃ between, Gives first store true between ∧ Gives second between true next := by
  rw [gives_bind_iff]
  constructor
  · rintro ⟨could, between, hfirst, hsecond⟩
    cases could with
    | false => simp [gives_pure_iff] at hsecond
    | true => exact ⟨between, hfirst, by simpa using hsecond⟩
  · rintro ⟨between, hfirst, hsecond⟩
    exact ⟨true, between, hfirst, by simpa using hsecond⟩

/-- The value of a session that does not stop, what it has printed, and the store that it leaves. -/
def Ends (session : Session (StateM Store) α) (printed : Printed) (store : Store) (value : α)
    (later : Printed) (next : Store) : Prop :=
  Gives (session.run.run printed) store (.ok value, later) next

variable {printed later : Printed}

theorem Ends.unique {session : Session (StateM Store) α} {value value' : α} {later' : Printed}
    {next' : Store} (h : Ends session printed store value later next)
    (h' : Ends session printed store value' later' next') :
    value = value' ∧ later = later' ∧ next = next' := by
  have heq := Eq.trans (Eq.symm h) h'
  simpa [and_assoc] using heq

theorem ends_pure_iff {value result : α} :
    Ends (pure value) printed store result later next ↔
      result = value ∧ later = printed ∧ next = store := by
  simp [Ends, gives_pure_iff, and_assoc]

theorem ends_bind_iff {session : Session (StateM Store) α} {more : α → Session (StateM Store) β}
    {result : β} :
    Ends (session >>= more) printed store result later next ↔
      ∃ value between middle, Ends session printed store value between middle ∧
        Ends (more value) between middle result later next := by
  simp only [Ends, ExceptT.run_bind, StateT.run_bind, gives_bind_iff, Prod.exists]
  constructor
  · rintro ⟨value, between, middle, hsession, hmore⟩
    cases value with
    | error failure => simp [gives_pure_iff] at hmore
    | ok value => exact ⟨value, between, middle, hsession, hmore⟩
  · rintro ⟨value, between, middle, hsession, hmore⟩
    exact ⟨.ok value, between, middle, hsession, hmore⟩

theorem not_ends_throw {failure : Failure} {value : α} :
    ¬ Ends (throw failure) printed store value later next := by
  simp [Ends, gives_pure_iff]

theorem ends_lift_iff {action : StateM Store α} {value : α} :
    Ends (liftM action) printed store value later next ↔
      Gives action store value next ∧ later = printed := by
  have hrun : ((liftM action : Session (StateM Store) α).run.run printed) =
      action >>= fun value => pure (.ok value, printed) := rfl
  rw [Ends, hrun, gives_bind_iff]
  constructor
  · rintro ⟨result, between, haction, hpure⟩
    obtain ⟨heq, rfl⟩ := gives_pure_iff.1 hpure
    obtain ⟨hvalue, rfl⟩ := Prod.mk.inj heq
    obtain rfl := Except.ok.inj hvalue
    exact ⟨haction, rfl⟩
  · rintro ⟨haction, rfl⟩
    exact ⟨value, next, haction, gives_pure_iff.2 ⟨rfl, rfl⟩⟩

theorem ends_read_iff {path : Path} {found : Option String} :
    Ends (liftM (Store.files.read path)) printed store found later next ↔
      found = store.read path ∧ next = store ∧ later = printed := by
  have hrun : Id.run ((Store.files.read path).run store) = (store.read path, store) := rfl
  rw [ends_lift_iff, Gives, hrun, Prod.mk.injEq, and_assoc]
  exact and_congr eq_comm (and_congr_left fun _ => eq_comm)

/-- Reporting leaves the store as it is. -/
theorem store_of_report {path : String} {diagnostics : List Diagnostic}
    (h : Ends (report path diagnostics) printed store () later next) : next = store := by
  have hrun : ∃ reported, ((report path diagnostics : Session (StateM Store) Unit).run.run printed) =
      pure (.ok (), reported) := ⟨_, rfl⟩
  obtain ⟨reported, hrun⟩ := hrun
  rw [Ends, hrun] at h
  exact (gives_pure_iff.1 h).2

end Actions

/-! ### One document -/

/-- The store after several files are written. -/
def Store.writeAll (store : Store) (entries : List (Path × String)) : Option Store :=
  entries.foldlM (fun store entry => store.write entry.1 entry.2) store

section Documents

variable {store next : Store} {tools : Tools} {request : PreprocessRequest} {rules : Rules}
  {printed later : Printed}

theorem Store.writeAll_append (first second : List (Path × String)) :
    store.writeAll (first ++ second) = (store.writeAll first).bind (·.writeAll second) := by
  simp [writeAll, List.foldlM_append]

theorem Store.writeAll_cons (entry : Path × String) (entries : List (Path × String)) :
    store.writeAll (entry :: entries) = (store.write entry.1 entry.2).bind (·.writeAll entries) := by
  simp [writeAll]

theorem gives_write_iff {path : Path} {text : String} :
    Gives (Store.files.write path text) store true next ↔ store.write path text = some next :=
  gives_attempt_iff

theorem gives_writeMap_iff {output : Path} {kind : ScriptKind} {block : Option Block} :
    Gives (writeMap Store.files output kind block) store true next ↔
      store.writeAll (mapWrites output kind block) = some next := by
  unfold writeMap mapWrites
  cases block.bind Block.map with
  | none => simp [Store.writeAll, gives_pure_iff, eq_comm]
  | some map => simp [Store.writeAll, gives_write_iff]

theorem gives_writeDocument_iff {output : Path} {document : Document} :
    Gives (writeDocument Store.files output document) store true next ↔
      store.writeAll (documentWrites output document) = some next := by
  unfold writeDocument documentWrites
  simp only [gives_ite_iff, gives_write_iff, gives_writeMap_iff, Store.writeAll_cons,
    Store.writeAll_append, Option.bind_eq_some_iff]

theorem exists_of_preprocessFile {path : Path}
    (h : Ends (preprocessFile tools Store.files request rules path) printed store true later next) :
    ∃ text, store.read path = some text ∧
      store.writeAll (documentWrites (request.output rules path) (request.document tools rules path text))
        = some next := by
  unfold preprocessFile at h
  obtain ⟨found, between, middle, hread, hfound⟩ := ends_bind_iff.1 h
  obtain ⟨htext, rfl, rfl⟩ := ends_read_iff.1 hread
  cases found with
  | none => simp [ends_pure_iff] at hfound
  | some text =>
      obtain ⟨_, reported, same, hreport, hwrite⟩ := ends_bind_iff.1 hfound
      obtain rfl := store_of_report hreport
      exact ⟨text, htext.symm, gives_writeDocument_iff.1 (ends_lift_iff.1 hwrite).1⟩

/-! ### One document after the other -/

theorem follow_cons {work between final : Work} {index : Nat} {order : List Nat}
    (hstep : work.advance tools request rules index = some between)
    (h : between.follow tools request rules order = some final) :
    work.follow tools request rules (index :: order) = some final := by
  simpa [Work.follow, hstep] using h

theorem advance_middle {thread moved : Thread} {before after : List Thread}
    (h : thread.advance tools request rules store = some (next, moved)) :
    (Work.mk store (before ++ thread :: after)).advance tools request rules before.length =
      some ⟨next, before ++ moved :: after⟩ := by
  rw [Work.advance_eq_some_iff]
  exact ⟨thread, next, moved, by simp, h, by simp⟩

/-- A thread can write all that is left at once. -/
theorem exists_follow_of_writeAll (tools : Tools) (request : PreprocessRequest) (rules : Rules)
    (before after : List Thread) (path : Path) (text : String) {left : List (Path × String)}
    (h : store.writeAll left = some next) :
    ∃ order, (Work.mk store (before ++ ⟨path, .writing text left⟩ :: after)).follow tools request rules order =
      some ⟨next, before ++ .finished path text :: after⟩ := by
  induction left generalizing store with
  | nil =>
      obtain rfl : store = next := by simpa [Store.writeAll] using h
      exact ⟨[], rfl⟩
  | cons entry left ih =>
      rw [Store.writeAll_cons] at h
      obtain ⟨between, hwrite, hrest⟩ := Option.bind_eq_some_iff.1 h
      obtain ⟨order, horder⟩ := ih hrest
      have hadvance : Thread.advance tools request rules store ⟨path, .writing text (entry :: left)⟩ =
          some (between, ⟨path, .writing text left⟩) := by
        simp [Thread.advance, hwrite]
      exact ⟨before.length :: order, follow_cons (advance_middle hadvance) horder⟩

/-- A thread can do all its work at once. -/
theorem exists_follow_of_preprocessFile {path : Path} (before after : List Thread)
    (h : Ends (preprocessFile tools Store.files request rules path) printed store true later next) :
    ∃ text order, (Work.mk store (before ++ .waiting path :: after)).follow tools request rules order =
      some ⟨next, before ++ .finished path text :: after⟩ := by
  obtain ⟨text, hread, hwrites⟩ := exists_of_preprocessFile h
  obtain ⟨order, horder⟩ := exists_follow_of_writeAll tools request rules before after path text hwrites
  have hadvance : Thread.advance tools request rules store (.waiting path) =
      some (store, ⟨path, .writing text
        (documentWrites (request.output rules path) (request.document tools rules path text))⟩) := by
    simp [Thread.advance, Thread.waiting, hread]
  exact ⟨text, before.length :: order, follow_cons (advance_middle hadvance) horder⟩

/-- The threads can do their work one after the other. -/
theorem exists_follow_of_mapM {files : List Path} {done : List Bool} (before : List Thread)
    (h : Ends (files.mapM (preprocessFile tools Store.files request rules)) printed store done later next)
    (hdone : ∀ could ∈ done, could = true) :
    ∃ order threads,
      (Work.mk store (before ++ files.map Thread.waiting)).follow tools request rules order =
        some ⟨next, before ++ threads⟩ ∧ ∀ thread ∈ threads, thread.IsFinished := by
  induction files generalizing before printed store done with
  | nil =>
      obtain ⟨-, -, rfl⟩ := ends_pure_iff.1 h
      exact ⟨[], [], rfl, by simp⟩
  | cons path files ih =>
      rw [List.mapM_cons] at h
      obtain ⟨could, between, middle, hfile, h⟩ := ends_bind_iff.1 h
      obtain ⟨rest, between', middle', hfiles, hpure⟩ := ends_bind_iff.1 h
      obtain ⟨rfl, rfl, rfl⟩ := ends_pure_iff.1 hpure
      obtain rfl : could = true := hdone could (by simp)
      obtain ⟨text, first, hfirst⟩ := exists_follow_of_preprocessFile before
        (files.map Thread.waiting) hfile
      obtain ⟨second, threads, hsecond, hfinished⟩ := ih (before ++ [.finished path text]) hfiles
        fun could hcould => hdone could (by simp [hcould])
      refine ⟨first ++ second, .finished path text :: threads, ?_, ?_⟩
      · rw [Work.follow_append, List.map_cons, hfirst]
        simpa using hsecond
      · intro thread hthread
        rcases List.mem_cons.1 hthread with rfl | hthread
        · exact ⟨text, rfl⟩
        · exact hfinished thread hthread

/-! ### The command -/

theorem ends_orFail_iff {α : Type} {failure : Failure} {found : Option α} {value : α} :
    Ends (orFail failure found) printed store value later next ↔
      found = some value ∧ later = printed ∧ next = store := by
  cases found with
  | none => simp [orFail, not_ends_throw]
  | some found => simp [orFail, ends_pure_iff, eq_comm]

/-- Compiling the options leaves the store as it is. -/
theorem store_of_options {options : Options}
    (h : Ends (match options.rules with
      | .ok rules => pure rules
      | .error option => throw (Failure.pattern option)) printed store rules later next) :
    next = store := by
  split at h
  · exact (ends_pure_iff.1 h).2.2
  · exact absurd h not_ends_throw

/-- Looking up the rules leaves the store as it is. -/
theorem store_of_rules {config : Option Path}
    (h : Ends (Store.files.rules config) printed store rules later next) : next = store := by
  unfold Files.rules at h
  cases config with
  | none =>
      obtain ⟨options, _, _, hoptions, hrules⟩ := ends_bind_iff.1 h
      obtain ⟨-, rfl, rfl⟩ := ends_pure_iff.1 hoptions
      exact store_of_options hrules
  | some path =>
      obtain ⟨found, _, _, hread, hfound⟩ := ends_bind_iff.1 h
      obtain ⟨-, rfl, rfl⟩ := ends_read_iff.1 hread
      obtain ⟨text, _, _, htext, hoptions⟩ := ends_bind_iff.1 hfound
      obtain ⟨-, rfl, rfl⟩ := ends_orFail_iff.1 htext
      obtain ⟨options, _, _, hoptions, hrules⟩ := ends_bind_iff.1 hoptions
      obtain ⟨-, rfl, rfl⟩ := ends_orFail_iff.1 hoptions
      exact store_of_options hrules

/-- What comes after the directory is made. -/
theorem exists_follow_of_documents
    (h : Ends (do
      let done ← request.files.mapM (preprocessFile tools Store.files request rules)
      let failed := done.countP (!·)
      if failed ≠ 0 then throw (Failure.documents failed done.length)) printed store () later next) :
    ∃ order threads, (Work.start request store).follow tools request rules order = some ⟨next, threads⟩ ∧
      ∀ thread ∈ threads, thread.IsFinished := by
  obtain ⟨done, _, final, hdone, hfailed⟩ := ends_bind_iff.1 h
  dsimp only at hfailed
  split at hfailed
  next => exact absurd hfailed not_ends_throw
  next hzero =>
      obtain ⟨-, -, rfl⟩ := ends_pure_iff.1 hfailed
      have hall : ∀ could ∈ done, could = true := by
        simpa [List.countP_eq_zero] using hzero
      exact exists_follow_of_mapM [] hdone hall

/-- **A request that does not fail is a run of the threads**, one after the other, from the store with the
directory in it. -/
theorem exists_follow_of_preprocess {between : Printed} {same : Store}
    (hrules : Ends (Store.files.rules request.config) printed store rules between same)
    (h : Ends (preprocess tools Store.files request) printed store () later next) :
    ∃ made order threads, request.directory.elim (some store) store.makeDirectory = some made ∧
      (Work.start request made).follow tools request rules order = some ⟨next, threads⟩ ∧
      ∀ thread ∈ threads, thread.IsFinished := by
  unfold preprocess at h
  obtain ⟨_, _, _, hrules', hrest⟩ := ends_bind_iff.1 h
  obtain ⟨rfl, rfl, rfl⟩ := hrules.unique hrules'
  obtain rfl := store_of_rules hrules
  cases hdirectory : request.directory with
  | none =>
      rw [hdirectory] at hrest
      obtain ⟨order, threads, hfollow⟩ := exists_follow_of_documents hrest
      exact ⟨same, order, threads, rfl, hfollow⟩
  | some directory =>
      rw [hdirectory] at hrest
      obtain ⟨could, _, made, hmake, hrest⟩ := ends_bind_iff.1 hrest
      cases could with
      | false =>
          obtain ⟨_, _, _, hthrow, -⟩ := ends_bind_iff.1 hrest
          exact absurd hthrow not_ends_throw
      | true =>
          obtain ⟨order, threads, hfollow⟩ := exists_follow_of_documents hrest
          exact ⟨made, order, threads, gives_attempt_iff.1 (ends_lift_iff.1 hmake).1, hfollow⟩

end Documents

/-! ### The documents of a request -/

/-- **Compiled documents are kept**, whatever compiles the snippets and reads their syntax.  For every
language, from names that are texts, documents beside different sources have different paths, and in a
directory those from sources of one name share a path.  If the language has no slash, this also holds
of paths that are only written differently.  If the documents are kept apart, then in whatever order
the threads take their steps, once all of them are through each document is found at the path it was
written to, compiled from what its source held when it was read.  The command itself is such a run. -/
theorem PreprocessRequest.documents_kept (tools : Tools) (request : PreprocessRequest) (rules : Rules) :
    (∀ path other : Path, path.HasTextName → other.HasTextName →
      match request.directory with
      | none => request.output rules path = request.output rules other →
          path.components = other.components
      | some _ => request.output rules path = request.output rules other ↔
          path.fileName? = other.fileName?) ∧
    ('/' ∉ rules.outputLang.toList → ∀ (path other : Path) (name otherName : Name),
      path.fileName? = some name → Text.Utf8.IsText name →
      other.fileName? = some otherName → Text.Utf8.IsText otherName →
      ((request.output rules path).components = (request.output rules other).components ↔
        match request.directory with
        | none => path.components = other.components
        | some _ => path.fileName? = other.fileName?)) ∧
    (∀ (store : Store) (order : List Nat) (work : Work), Separate request rules store →
      (Work.start request store).follow tools request rules order = some work →
      (∀ thread ∈ work.threads, thread.IsFinished) →
      (request.files.Pairwise fun path other =>
        store.resolve (request.output rules path) ≠ store.resolve (request.output rules other)) ∧
      ∀ path ∈ request.files, ∃ text, .finished path text ∈ work.threads ∧
        (∃ first earlier, first <+: order ∧
          (Work.start request store).follow tools request rules first = some earlier ∧
          earlier.store.read path = some text) ∧
        work.store.read (request.output rules path) =
          some (request.document tools rules path text).code) ∧
    (∀ (printed between later : Printed) (store same next : Store),
      Ends (Store.files.rules request.config) printed store rules between same →
      Ends (preprocess tools Store.files request) printed store () later next →
      ∃ made order threads, request.directory.elim (some store) store.makeDirectory = some made ∧
        (Work.start request made).follow tools request rules order = some ⟨next, threads⟩ ∧
        ∀ thread ∈ threads, thread.IsFinished) := by
  refine ⟨fun path other hpath hother => ?_, ?_, fun store order work hseparate hfollow hfinished => ?_, ?_⟩
  · unfold output
    cases request.directory with
    | none => exact components_eq_of_outputPath_eq hpath hother
    | some directory => exact outputPath_inside_iff directory hpath hother
  · intro hlanguage path other name otherName hname htext hother htext'
    exact components_outputPath_iff hname htext hother htext' hlanguage request.directory
  · have hinvariant := invariant_of_follow hseparate hfollow
    refine ⟨hinvariant.pairwise_resolve hseparate hfinished, fun path hpath => ?_⟩
    obtain ⟨thread, hthread, rfl⟩ : ∃ thread ∈ work.threads, thread.path = path := by
      rw [← hinvariant.paths] at hpath
      exact List.mem_map.1 hpath
    obtain ⟨text, heq⟩ := hfinished thread hthread
    have hmem : .finished thread.path text ∈ work.threads := heq ▸ hthread
    have hread := exists_read_of_follow hfollow hmem rfl
    exact ⟨text, hmem, hread, hinvariant.read_of_finished hmem⟩
  · intro printed between later store same next hrules hpreprocess
    exact exists_follow_of_preprocess hrules hpreprocess

/-- A program that answers every snippet with one line and an empty position map. -/
def answering : Command :=
  ⟨"sh", ["-c", "cat > /dev/null; printf '\x7b\"code\":\"y\",\"sourceMap\":\x7b\"lines\":[]\x7d\x7d'"]⟩

/-- Two sources of one name, one of them found from the root, with documents beside them, in steps that
alternate. -/
theorem PreprocessRequest.documents_kept_alternating :
    ∃ (request : PreprocessRequest) (store : Store) (work : Work),
      request = ⟨[.ofText "/src//App.svelte", .ofText "lib/App.svelte"], answering, none, none⟩ ∧
      store = { contents :=
        [((Path.ofText "src/App.svelte").names, .text "<script lang=\"civet\">x := 1</script>\n"),
          (Store.namesOf "lib/App.svelte", .text "text")] } ∧
      Separate request Rules.standard store ∧
      (Work.start request store).follow .known request Rules.standard [0, 1, 0, 1, 0] = some work ∧
      (∀ thread ∈ work.threads, thread.IsFinished) ∧
      ∀ path ∈ request.files, ∃ text, .finished path text ∈ work.threads ∧
        work.store.read (request.output Rules.standard path)
          = some (request.document .known Rules.standard path text).code := by
  let request : PreprocessRequest :=
    ⟨[.ofText "/src//App.svelte", .ofText "lib/App.svelte"], answering, none, none⟩
  let store : Store :=
    { contents :=
      [((Path.ofText "src/App.svelte").names, .text "<script lang=\"civet\">x := 1</script>\n"),
        (Store.namesOf "lib/App.svelte", .text "text")] }
  have hname : ∀ path ∈ request.files, path.fileName? = (Path.ofText "App.svelte").fileName? := by
    decide +kernel
  have hseparate : Separate request Rules.standard store := by
    refine ⟨?_, by simp [request], by decide +kernel, ?_, ?_⟩
    · intro path hpath
      simp only [request, List.mem_cons, List.not_mem_nil, or_false] at hpath
      rcases hpath with rfl | rfl
      · exact Path.isText_ofText _
      · exact Path.isText_ofText _
    · rw [List.pairwise_pair]
      show store.resolve (.ofText "/src//App.svelte") ≠ store.resolve (.ofText "lib/App.svelte")
      decide +kernel
    · intro path hpath other hother kind heq
      have htext : Text.Utf8.IsText ((Path.ofText "App.svelte").fileName?.getD []) :=
        (Path.isText_ofText "App.svelte").hasTextName.isText
      rw [hname path hpath, hname other hother] at heq
      refine absurd heq (outputName_ne_mapName htext htext (by decide +kernel) ?_)
      cases kind <;> decide +kernel
  have hthreads : ((Work.start request store).follow .known request Rules.standard [0, 1, 0, 1, 0]).map
      Work.threads = some
        [.finished (.ofText "/src//App.svelte") "<script lang=\"civet\">x := 1</script>\n",
          .finished (.ofText "lib/App.svelte") "text"] := by
    decide +kernel
  obtain ⟨work, hfollow, hthreads⟩ := Option.map_eq_some_iff.1 hthreads
  have hfinished : ∀ thread ∈ work.threads, thread.IsFinished := by
    simp [hthreads, Thread.IsFinished, Thread.finished]
  obtain ⟨-, hdocuments⟩ := (documents_kept .known request Rules.standard).2.2.1 store _ work hseparate
    hfollow hfinished
  refine ⟨request, store, work, rfl, rfl, hseparate, hfollow, hfinished, ?_⟩
  intro path hpath
  obtain ⟨text, hthread, -, hread⟩ := hdocuments path hpath
  exact ⟨text, hthread, hread⟩

/-- A document is lost though the paths are different and no file is a directory too: the threads are
through, and one of them does not find its document. -/
def Loses (request : PreprocessRequest) (rules : Rules) (store : Store) : Prop :=
  (∀ entry ∈ store.contents, store.isDirectory entry.1 = false) ∧
    (request.files.map Path.components).Nodup ∧
    ∃ order work path text, (Work.start request store).follow .known request rules order = some work ∧
      (∀ thread ∈ work.threads, thread.IsFinished) ∧ .finished path text ∈ work.threads ∧
      work.store.read (request.output rules path) ≠ some (request.document .known rules path text).code

theorem loses_of_follow {request : PreprocessRequest} {rules : Rules} {store : Store}
    (order : List Nat) (path : Path) (text : String) (others : List (Path × String))
    (hfiles : ∀ entry ∈ store.contents, store.isDirectory entry.1 = false)
    (hpaths : (request.files.map Path.components).Nodup)
    (h : ((Work.start request store).follow .known request rules order).map
        (fun work => (work.threads, work.store.read (request.output rules path)
          == some (request.document .known rules path text).code)) =
      some (.finished path text :: others.map fun other => .finished other.1 other.2, false)) :
    Loses request rules store := by
  obtain ⟨work, hfollow, heq⟩ := Option.map_eq_some_iff.1 h
  obtain ⟨hthreads, hne⟩ := Prod.mk.inj heq
  refine ⟨hfiles, hpaths, order, work, path, text, hfollow, ?_, by simp [hthreads], by simpa using hne⟩
  intro thread hthread
  rw [hthreads] at hthread
  rcases List.mem_cons.1 hthread with rfl | hthread
  · exact ⟨text, rfl⟩
  · obtain ⟨other, -, rfl⟩ := List.mem_map.1 hthread
    exact ⟨other.2, rfl⟩

/-- A store with texts below the working directory. -/
def Store.ofTexts (texts : List (String × String)) (directories : List String) : Store where
  contents := texts.map fun (path, text) => (namesOf path, .text text)
  directories := directories.map namesOf

/-- Documents are lost in one directory, from one file under two paths, with a language that is a path,
to a position map, and from names whose bytes are no text. -/
theorem PreprocessRequest.documents_lost :
    Loses ⟨[.ofText "a/App.svelte", .ofText "b/App.svelte"], answering, some (.ofText "out"), none⟩
      Rules.standard
      (.ofTexts [("a/App.svelte", "a\n"), ("b/App.svelte", "<script lang=\"civet\">x := 1</script>\n")]
        ["out"]) ∧
    Loses ⟨[.ofText "./App.svelte", .ofText "App.svelte"],
        ⟨"sh", ["-c", "cat > /dev/null; printf '\x7b\"code\":\"%s\"\x7d' \"$1\""]⟩, none, none⟩
      Rules.standard (.ofTexts [("App.svelte", "<script lang=\"civet\">x := 1</script>\n")] []) ∧
    Loses ⟨[.ofText "a", .ofText "b"], answering, none, none⟩ { Rules.standard with outputLang := "/../x" }
      (.ofTexts [("a", "1"), ("b", "2")] ["a.", "b."]) ∧
    Loses ⟨[.ofText "App.instance.svelte.map", .ofText "App.svelte"], answering, none, none⟩
      { Rules.standard with outputLang := "instance" }
      (.ofTexts [("App.instance.svelte.map", "a\n"),
        ("App.svelte", "<script lang=\"civet\">x := 1</script>\n")] []) ∧
    Loses ⟨[⟨[0xff]⟩, ⟨[0xfe]⟩], answering, none, none⟩ Rules.standard
      { contents := [(Store.defaultHome ++ [[0xff]], .text "1"),
        (Store.defaultHome ++ [[0xfe]], .text "2")] } := by
  refine ⟨?_, ?_, ?_, ?_, ?_⟩
  · apply loses_of_follow [0, 0, 1, 1, 1] (.ofText "a/App.svelte") "a\n"
      [(.ofText "b/App.svelte", "<script lang=\"civet\">x := 1</script>\n")] <;> decide +kernel
  · apply loses_of_follow [0, 0, 1, 1] (.ofText "./App.svelte")
      "<script lang=\"civet\">x := 1</script>\n"
      [(.ofText "App.svelte", "<script lang=\"civet\">x := 1</script>\n")] <;> decide +kernel
  · apply loses_of_follow [0, 0, 1, 1] (.ofText "a") "1" [(.ofText "b", "2")] <;> decide +kernel
  · apply loses_of_follow [0, 0, 1, 1, 1] (.ofText "App.instance.svelte.map") "a\n"
      [(.ofText "App.svelte", "<script lang=\"civet\">x := 1</script>\n")] <;> decide +kernel
  · apply loses_of_follow [0, 0, 1, 1] ⟨[0xff]⟩ "1" [(⟨[0xfe]⟩, "2")] <;> decide +kernel

end Inlay.CommandLine
