import ApiReference.CommandLine.Run
import ApiReference.Proofs.FileView
import Mathlib.Control.Monad.Basic

/-! ## Conversions are all or nothing

A conversion that fails leaves all files and folders as they were, and one that
succeeds changes a single file, which then holds the document of the input. The command
line does the same, once it has made sure that the folder of the output exists. -/

namespace ApiReference

variable {σ Place : Type} {files : FileAccess (StateM σ)} {view : σ → FileView Place}

/-! ### Conversions -/

namespace Conversion

/-- The courses that a conversion may take, from the state before it to its outcome and
the state after it. -/
inductive Course (files : FileAccess (StateM σ)) (options : Options) (before : σ) :
    Except Failure Text → σ → Prop
  | notFound {after : σ} :
      (files.holds options.input).run before = (false, after) →
      Course files options before (.error (.inputNotFound options.input)) after
  | unreadable {found after : σ} :
      (files.holds options.input).run before = (true, found) →
      (files.read options.input).run found = (none, after) →
      Course files options before (.error (.inputUnreadable options.input)) after
  | noExport {found after : σ} {source : Text} {failure : Failure} :
      (files.holds options.input).run before = (true, found) →
      (files.read options.input).run found = (some source, after) →
      Export.read source = .error failure →
      Course files options before (.error failure) after
  | notWritten {found read after : σ} {source : Text} {entries : Export} :
      (files.holds options.input).run before = (true, found) →
      (files.read options.input).run found = (some source, read) →
      Export.read source = .ok entries →
      (files.write options.destination
        ((Catalog.ofExport entries).toMarkdown options.language)).run read =
          (false, after) →
      Course files options before (.error (.outputNotWritten options.destination)) after
  | written {found read after : σ} {source : Text} {entries : Export} :
      (files.holds options.input).run before = (true, found) →
      (files.read options.input).run found = (some source, read) →
      Export.read source = .ok entries →
      (files.write options.destination
        ((Catalog.ofExport entries).toMarkdown options.language)).run read =
          (true, after) →
      Course files options before (.ok options.destination) after

/-- A run in two steps goes through a value and a state in between. -/
theorem exists_of_run_bind {α β : Type} {first : StateM σ α} {next : α → StateM σ β}
    {before after : σ} {value : β}
    (ran : (first >>= next).run before = (value, after)) :
    ∃ found middle,
      first.run before = (found, middle) ∧ (next found).run middle = (value, after) :=
  ⟨_, _, rfl, ran⟩

theorem readExport_cases {path : Text} {before after : σ}
    {outcome : Except Failure Export}
    (ran : (readExport files path).run before = (outcome, after)) :
    ((files.holds path).run before = (false, after) ∧
        outcome = .error (.inputNotFound path)) ∨
      ∃ found, (files.holds path).run before = (true, found) ∧
        (((files.read path).run found = (none, after) ∧
            outcome = .error (.inputUnreadable path)) ∨
          ∃ source, (files.read path).run found = (some source, after) ∧
            outcome = Export.read source) := by
  obtain ⟨isThere, found, held, rest⟩ := exists_of_run_bind ran
  cases isThere with
  | false =>
      cases rest
      exact Or.inl ⟨held, rfl⟩
  | true =>
      obtain ⟨source, read, got, rest⟩ := exists_of_run_bind rest
      refine Or.inr ⟨found, held, ?_⟩
      cases source with
      | none =>
          cases rest
          exact Or.inl ⟨got, rfl⟩
      | some source =>
          cases rest
          exact Or.inr ⟨source, got, rfl⟩

theorem writeDocument_cases {options : Options} {catalog : Catalog} {before after : σ}
    {report : Report Text}
    (ran : (writeDocument files options catalog).run before = (report, after)) :
    ∃ done,
      (files.write options.destination (catalog.toMarkdown options.language)).run
          before = (done, after) ∧
        report.outcome =
          if done then .ok options.destination
          else .error (.outputNotWritten options.destination) := by
  obtain ⟨done, written, wrote, rest⟩ := exists_of_run_bind ran
  cases done with
  | false =>
      cases rest
      exact ⟨false, wrote, rfl⟩
  | true =>
      cases rest
      exact ⟨true, wrote, rfl⟩

/-- Every run of a conversion takes one of the courses. -/
theorem course_of_run {options : Options} {before after : σ} {report : Report Text}
    (ran : (run files options).run before = (report, after)) :
    Course files options before report.outcome after := by
  obtain ⟨loaded, read, loadedRun, rest⟩ := exists_of_run_bind ran
  obtain ⟨outcome, middle, readRun, loadedRest⟩ := exists_of_run_bind loadedRun
  -- The stages of reading are kept apart before the outcome says where it ended.
  have stages := readExport_cases readRun
  cases outcome with
  | error failure =>
      cases loadedRest
      cases rest
      rcases stages with
        ⟨held, same⟩ | ⟨found, held, ⟨got, same⟩ | ⟨source, got, same⟩⟩
      · cases same
        exact Course.notFound held
      · cases same
        exact Course.unreadable held got
      · exact Course.noExport held got same.symm
  | ok entries =>
      cases loadedRest
      rcases stages with
        ⟨held, same⟩ | ⟨found, held, ⟨got, same⟩ | ⟨source, got, same⟩⟩
      · cases same
      · cases same
      · obtain ⟨written, final, writtenRun, last⟩ := exists_of_run_bind rest
        obtain ⟨done, wrote, meaning⟩ := writeDocument_cases writtenRun
        cases last
        change Course files options before written.outcome after
        rw [meaning]
        cases done with
        | false =>
            exact Course.notWritten held got same.symm wrote
        | true =>
            exact Course.written held got same.symm wrote

/-- What an outcome may mean for the files. After a failure all are as they were. After
a success the destination holds the document of the export in the input, which was read
before, and all other places are as they were. -/
def AllOrNothing (view : σ → FileView Place) (options : Options) (before : σ)
    (outcome : Except Failure Text) (after : σ) : Prop :=
  match outcome with
  | .error _ => view after = view before
  | .ok path =>
    path = options.destination ∧
      ∃ source entries place,
        (view before).text options.input = some source ∧
          Export.read source = .ok entries ∧
          (view before).place path = some place ∧
          (view after).place path = some place ∧
          (view after).entry place =
            some (.file (Store.encode
              ((Catalog.ofExport entries).toMarkdown options.language))) ∧
          ∀ other, other ≠ place → (view after).entry other = (view before).entry other

/-- All courses but the last leave the files alone, and the last changes one place. -/
theorem Course.allOrNothing (lawful : files.Lawful view) {options : Options}
    {before after : σ} {outcome : Except Failure Text}
    (course : Course files options before outcome after) :
    AllOrNothing view options before outcome after := by
  cases course with
  | notFound held =>
      exact lawful.holds_keeps held
  | unreadable held got =>
      exact (lawful.read_keeps got).trans (lawful.holds_keeps held)
  | noExport held got =>
      exact (lawful.read_keeps got).trans (lawful.holds_keeps held)
  | notWritten held got _ wrote =>
      exact (lawful.write_failed wrote).trans <|
        (lawful.read_keeps got).trans (lawful.holds_keeps held)
  | written held got isExport wrote =>
      have keptFound := lawful.holds_keeps held
      have keptRead := (lawful.read_keeps got).trans keptFound
      have source := lawful.read_text got
      obtain ⟨place, named, still, holds, frame⟩ := lawful.write_done wrote
      rw [keptFound] at source
      rw [keptRead] at named frame
      exact ⟨rfl, _, _, place, source, isExport, named, still, holds, frame⟩

/-- What a conversion needs to succeed: an input that is there, that can be read and
that holds an export, and a destination that can be written. -/
def CanSucceed (files : FileAccess (StateM σ)) (options : Options) (before : σ) :
    Prop :=
  ∃ source entries found read written,
    (files.holds options.input).run before = (true, found) ∧
      (files.read options.input).run found = (some source, read) ∧
      Export.read source = .ok entries ∧
      (files.write options.destination
        ((Catalog.ofExport entries).toMarkdown options.language)).run read =
          (true, written)

/-- A conversion succeeds exactly if nothing that it needs is missing. -/
theorem Course.succeeds_iff {options : Options} {before after : σ}
    {outcome : Except Failure Text}
    (course : Course files options before outcome after) :
    (∃ path, outcome = .ok path) ↔ CanSucceed files options before := by
  constructor
  · rintro ⟨path, rfl⟩
    cases course with
    | written held got isExport wrote =>
        exact ⟨_, _, _, _, _, held, got, isExport, wrote⟩
  · rintro ⟨source, entries, found, read, written, wasHeld, wasGot, isExport, wasWritten⟩
    -- A step has one result only, so no course that fails can be the one taken.
    cases course with
    | notFound held =>
        rw [held] at wasHeld
        cases wasHeld
    | unreadable held got =>
        rw [held] at wasHeld
        cases wasHeld
        rw [got] at wasGot
        cases wasGot
    | noExport held got failed =>
        rw [held] at wasHeld
        cases wasHeld
        rw [got] at wasGot
        cases wasGot
        rw [failed] at isExport
        cases isExport
    | notWritten held got wasExport wrote =>
        rw [held] at wasHeld
        cases wasHeld
        rw [got] at wasGot
        cases wasGot
        rw [wasExport] at isExport
        cases isExport
        rw [wrote] at wasWritten
        cases wasWritten
    | written =>
        exact ⟨_, rfl⟩

end Conversion

/-! ### The command line -/

namespace CommandLine

/-- Whether a folder is the one that the output was asked for in, and is not there. -/
def FolderMissing (files : FileAccess (StateM σ)) (options : Options) (before : σ)
    (folder : Text) : Prop :=
  options.output.bind Path.parent? = some folder ∧ folder ≠ [] ∧
    ((files.holds folder).run before).1 = false

/-- The courses that looking for the folder of the output may take, from the state
before it to the folder that is missing, if it is, and the state after it. -/
inductive FolderCheck (files : FileAccess (StateM σ)) (options : Options) (before : σ) :
    Option Text → σ → Prop
  | notNeeded :
      (∀ folder, options.output.bind Path.parent? = some folder → folder = []) →
      FolderCheck files options before none before
  | found {folder : Text} {after : σ} :
      options.output.bind Path.parent? = some folder → folder ≠ [] →
      (files.holds folder).run before = (true, after) →
      FolderCheck files options before none after
  | missing {folder : Text} {after : σ} :
      options.output.bind Path.parent? = some folder → folder ≠ [] →
      (files.holds folder).run before = (false, after) →
      FolderCheck files options before (some folder) after

theorem folderCheck_of_run {options : Options} {before after : σ}
    {outcome : Option Text}
    (ran : (missingFolder files options).run before = (outcome, after)) :
    FolderCheck files options before outcome after := by
  unfold missingFolder at ran
  cases asked : options.output.bind Path.parent? with
  | none =>
      rw [asked] at ran
      cases ran
      refine FolderCheck.notNeeded ?_
      intro folder same
      rw [asked] at same
      cases same
  | some folder =>
      rw [asked] at ran
      by_cases empty : folder = []
      · subst empty
        cases ran
        refine FolderCheck.notNeeded ?_
        intro folder same
        rw [asked] at same
        cases same
        rfl
      · simp only [List.isEmpty_iff, empty, if_false] at ran
        obtain ⟨isThere, looked, held, rest⟩ := Conversion.exists_of_run_bind ran
        cases isThere with
        | false =>
            cases rest
            exact FolderCheck.missing asked empty held
        | true =>
            cases rest
            exact FolderCheck.found asked empty held

namespace FolderCheck

variable {options : Options} {before after : σ}

/-- To look for the folder of the output changes nothing that can be seen. -/
theorem view_eq (lawful : files.Lawful view) {outcome : Option Text}
    (check : FolderCheck files options before outcome after) :
    view after = view before := by
  cases check with
  | notNeeded =>
      rfl
  | found _ _ held =>
      exact lawful.holds_keeps held
  | missing _ _ held =>
      exact lawful.holds_keeps held

theorem folderMissing {folder : Text}
    (check : FolderCheck files options before (some folder) after) :
    FolderMissing files options before folder ∧
      after = ((files.holds folder).run before).2 := by
  cases check with
  | missing asked named held =>
      rw [FolderMissing, held]
      exact ⟨⟨asked, named, rfl⟩, rfl⟩

theorem not_folderMissing
    (check : FolderCheck files options before none after) (folder : Text) :
    ¬ FolderMissing files options before folder := by
  rintro ⟨asked, named, missing⟩
  cases check with
  | notNeeded unasked =>
      exact named (unasked folder asked)
  | found wasAsked _ held =>
      rw [asked] at wasAsked
      cases wasAsked
      rw [held] at missing
      cases missing

end FolderCheck

/-! #### Runs -/

def checked (files : FileAccess (StateM σ)) (options : Options) (before : σ) : σ :=
  ((missingFolder files options).run before).2

def endingOf : Except Failure Text → Ending
  | .ok _ => .done
  | .error failure => .failed failure

/-- What a run of the command line with given options does. If the folder of the output
is missing, looking for it is all that is done. Otherwise the run converts, tells how
the conversion went, and shows the notices that are asked for. -/
structure RunsAs (files : FileAccess (StateM σ)) (view : σ → FileView Place)
    (options : Options) (before : σ) (result : Result) (after : σ) : Prop where
  refused : ∀ folder, FolderMissing files options before folder →
    result = ⟨.failed (.noOutputFolder folder), [], []⟩ ∧
      after = ((files.holds folder).run before).2 ∧ view after = view before
  converted : (∀ folder, ¬ FolderMissing files options before folder) →
    view (checked files options before) = view before ∧
      ∃ report,
        (Conversion.run files options).run (checked files options before) =
            (report, after) ∧
          Conversion.AllOrNothing view options before report.outcome after ∧
          result.ending = endingOf report.outcome ∧
          (result.exitCode = 0 ↔ ∃ path, report.outcome = .ok path) ∧
          result.notices = shownNotices options.verbose report.notices
  prints_nothing : result.printed = []

theorem exitCode_eq_zero_iff {outcome : Except Failure Text} {printed : Text}
    {notices : List Notice} :
    Result.exitCode ⟨endingOf outcome, printed, notices⟩ = 0 ↔
      ∃ path, outcome = .ok path := by
  cases outcome with
  | error failure =>
      simp [endingOf, Result.exitCode]
  | ok path =>
      simp [endingOf, Result.exitCode]

theorem convert_of_missing {options : Options} {before after : σ} {folder : Text}
    (looked : (missingFolder files options).run before = (some folder, after)) :
    (convert files options).run before =
      (⟨.failed (.noOutputFolder folder), [], []⟩, after) := by
  rw [convert, StateT.run_bind, looked]
  rfl

theorem convert_of_found {options : Options} {before middle after : σ}
    {report : Report Text}
    (looked : (missingFolder files options).run before = (none, middle))
    (converted : (Conversion.run files options).run middle = (report, after)) :
    (convert files options).run before =
      (⟨endingOf report.outcome, [], shownNotices options.verbose report.notices⟩,
        after) := by
  rw [convert, StateT.run_bind, looked]
  change (Conversion.run files options >>= _).run middle = _
  rw [StateT.run_bind, converted]
  obtain ⟨notices, outcome⟩ := report
  cases outcome with
  | error failure =>
      rfl
  | ok path =>
      rfl

/-- With a folder missing, a run of the command line ends after looking for it; with
none missing, it ends as the conversion ends. -/
theorem convert_cases {options : Options} {before after : σ} {result : Result}
    (ran : (convert files options).run before = (result, after)) :
    (∃ folder, FolderCheck files options before (some folder) after ∧
        result = ⟨.failed (.noOutputFolder folder), [], []⟩) ∨
      (FolderCheck files options before none (checked files options before) ∧
        ∃ report,
          (Conversion.run files options).run (checked files options before) =
              (report, after) ∧
            result =
              ⟨endingOf report.outcome, [],
                shownNotices options.verbose report.notices⟩) := by
  cases looked : (missingFolder files options).run before with
  | mk missing middle =>
      have check := folderCheck_of_run looked
      have sameState : checked files options before = middle := by
        rw [checked, looked]
      cases missing with
      | some folder =>
          rw [convert_of_missing looked] at ran
          cases ran
          exact Or.inl ⟨folder, check, rfl⟩
      | none =>
          rw [sameState]
          cases converted : (Conversion.run files options).run middle with
          | mk report final =>
              rw [convert_of_found looked converted] at ran
              cases ran
              exact Or.inr ⟨check, report, rfl, rfl⟩

theorem allOrNothing_of_view_eq {options : Options} {before middle after : σ}
    {outcome : Except Failure Text} (same : view middle = view before)
    (all : Conversion.AllOrNothing view options middle outcome after) :
    Conversion.AllOrNothing view options before outcome after := by
  unfold Conversion.AllOrNothing at all ⊢
  rw [same] at all
  exact all

/-- A run with given options does what it is meant to, over any lawful access to files. -/
theorem runsAs_of_run (lawful : files.Lawful view) {options : Options}
    {before after : σ} {result : Result}
    (ran : (convert files options).run before = (result, after)) :
    RunsAs files view options before result after := by
  rcases convert_cases ran with
    ⟨folder, check, rfl⟩ | ⟨check, report, converted, rfl⟩
  · have kept := check.view_eq lawful
    obtain ⟨missing, same⟩ := check.folderMissing
    refine ⟨?_, ?_, rfl⟩
    · rintro other ⟨asked, _, _⟩
      have sameFolder : some folder = some other := missing.1.symm.trans asked
      cases sameFolder
      exact ⟨rfl, same, kept⟩
    · intro noneMissing
      exact absurd missing (noneMissing folder)
  · have kept := check.view_eq lawful
    have noneMissing := check.not_folderMissing
    refine ⟨?_, ?_, rfl⟩
    · intro folder missing
      exact absurd missing (noneMissing folder)
    · intro _
      have course := Conversion.course_of_run converted
      exact ⟨kept, report, converted,
        allOrNothing_of_view_eq kept (course.allOrNothing lawful), rfl,
        exitCode_eq_zero_iff, rfl⟩

/-- Whether debug notices are wanted decides only which notices are shown, since
neither looking for the folder nor converting takes that wish into account. -/
theorem convert_verbose (files : FileAccess (StateM σ)) (options : Options)
    (before : σ) :
    ∃ ending notices after, ∀ verbose,
      (convert files { options with verbose := verbose }).run before =
        (⟨ending, [], shownNotices verbose notices⟩, after) := by
  cases looked : (missingFolder files options).run before with
  | mk missing middle =>
      cases missing with
      | some folder =>
          refine ⟨.failed (.noOutputFolder folder), [], middle, ?_⟩
          intro verbose
          exact convert_of_missing looked
      | none =>
          cases converted : (Conversion.run files options).run middle with
          | mk report after =>
              refine ⟨endingOf report.outcome, report.notices, after, ?_⟩
              intro verbose
              exact convert_of_found looked converted

theorem run_eq_convert {arguments : List Text} {options : Options}
    (understood : Request.read arguments = .ok (.convert options)) :
    run files arguments = convert files options := by
  unfold run
  rw [understood]

/-- Conversions and runs of the command line are all or nothing. A conversion succeeds
exactly if nothing that it needs is missing. A run of the command line does what its
options say, and those that differ only in whether debug notices are wanted make runs
that differ only in the notices shown. -/
theorem run_allOrNothing (lawful : files.Lawful view) (options : Options) (before : σ) :
    Conversion.AllOrNothing view options before
        ((Conversion.run files options).run before).1.outcome
        ((Conversion.run files options).run before).2 ∧
      ((∃ path, ((Conversion.run files options).run before).1.outcome = .ok path) ↔
        Conversion.CanSucceed files options before) ∧
      (∀ arguments, Request.read arguments = .ok (.convert options) →
        RunsAs files view options before ((run files arguments).run before).1
          ((run files arguments).run before).2) ∧
      ∃ ending notices after, ∀ arguments verbose,
        Request.read arguments = .ok (.convert { options with verbose := verbose }) →
          (run files arguments).run before =
            (⟨ending, [], shownNotices verbose notices⟩, after) := by
  have course : Conversion.Course files options before
      ((Conversion.run files options).run before).1.outcome
      ((Conversion.run files options).run before).2 :=
    Conversion.course_of_run rfl
  refine ⟨course.allOrNothing lawful, course.succeeds_iff, ?_, ?_⟩
  · intro arguments understood
    rw [run_eq_convert understood]
    exact runsAs_of_run lawful rfl
  · obtain ⟨ending, notices, after, same⟩ := convert_verbose files options before
    refine ⟨ending, notices, after, ?_⟩
    intro arguments verbose understood
    rw [run_eq_convert understood]
    exact same verbose

def sampleText : Text :=
  "<doc><member name='T:Ring'/></doc>".toList

def sampleExport : Export :=
  ⟨none, [⟨.classType, "Ring".toList, by decide, []⟩]⟩

/-- A store with an export, and without the folder that the output is asked for in. -/
def sampleStore : Store :=
  ⟨[(["in.xml".toList], .file (Store.encode sampleText))], []⟩

def readyStore : Store :=
  ⟨(["docs".toList], .folder) :: sampleStore.entries, []⟩

def sampleOptions : Options :=
  ⟨"in.xml".toList, some "docs/out.md".toList, Options.defaultLanguage, true⟩

def sampleArguments : List Text :=
  ["-v".toList, "in.xml".toList, "--output=docs/out.md".toList]

theorem read_sampleText : Export.read sampleText = .ok sampleExport := by
  decide +kernel

theorem not_folderMissing_readyStore (folder : Text) :
    ¬ FolderMissing Store.access sampleOptions readyStore folder := by
  rintro ⟨asked, _, missing⟩
  have same : some "docs".toList = some folder := Eq.trans (by decide +kernel) asked
  cases same
  revert missing
  decide +kernel

theorem canSucceed_readyStore :
    Conversion.CanSucceed Store.access sampleOptions readyStore :=
  ⟨sampleText, sampleExport, readyStore, readyStore, _, Prod.ext (by decide +kernel) rfl,
    Prod.ext (by decide +kernel) rfl, read_sampleText, Prod.ext (by decide +kernel) rfl⟩

/-- Without the folder the run is refused and leaves the store as it is. With the folder
it writes the document of the export, and nothing else in the store changes. -/
theorem run_allOrNothing_sampleStore :
    Store.access.Lawful Store.view ∧
      Request.read sampleArguments = .ok (.convert sampleOptions) ∧
      FolderMissing Store.access sampleOptions sampleStore "docs".toList ∧
      (run Store.access sampleArguments).run sampleStore =
        (⟨.failed (.noOutputFolder "docs".toList), [], []⟩, sampleStore) ∧
      (∀ folder, ¬ FolderMissing Store.access sampleOptions readyStore folder) ∧
      ((run Store.access sampleArguments).run readyStore).1.exitCode = 0 ∧
      ∃ place,
        readyStore.filePlace "docs/out.md".toList = some place ∧
          ((run Store.access sampleArguments).run readyStore).2.find? place =
            some (.file (Store.encode
              ("## Features List\n\n1. [Ring](#ring)\n\n## Doc\n\n" ++
                "### Ring<a name=\"ring\"></a>\n\n").toList)) ∧
          ∀ other, other ≠ place →
            ((run Store.access sampleArguments).run readyStore).2.find? other =
              readyStore.find? other := by
  have understood : Request.read sampleArguments = .ok (.convert sampleOptions) := by
    rfl
  have missing : FolderMissing Store.access sampleOptions sampleStore "docs".toList :=
    ⟨by decide +kernel, by decide +kernel, by decide +kernel⟩
  obtain ⟨_, _, refusedRuns, _⟩ :=
    run_allOrNothing Store.access_lawful sampleOptions sampleStore
  obtain ⟨refused, same, _⟩ := (refusedRuns sampleArguments understood).refused _ missing
  obtain ⟨_, succeeds, runs, _⟩ :=
    run_allOrNothing Store.access_lawful sampleOptions readyStore
  obtain ⟨path, succeeded⟩ := succeeds.mpr canSucceed_readyStore
  obtain ⟨_, report, converted, written, _, exits, _⟩ :=
    (runs sampleArguments understood).converted not_folderMissing_readyStore
  -- To look for the folder leaves the store as it is, so the report is that of converting.
  have sameReport :
      ((Conversion.run Store.access sampleOptions).run readyStore).1 = report :=
    congrArg Prod.fst converted
  rw [sameReport] at succeeded
  rw [succeeded] at written
  obtain ⟨isDestination, source, entries, place, text, isExport, named, _, holds, frame⟩ :=
    written
  have sourceText : readyStore.view.text sampleOptions.input = some sampleText :=
    Store.view_text_of_readText (by decide +kernel)
  obtain rfl : sampleText = source := Option.some.inj (sourceText.symm.trans text)
  obtain rfl : sampleExport = entries := Except.ok.inj (read_sampleText.symm.trans isExport)
  have document :
      (Catalog.ofExport sampleExport).toMarkdown sampleOptions.language =
        ("## Features List\n\n1. [Ring](#ring)\n\n## Doc\n\n" ++
          "### Ring<a name=\"ring\"></a>\n\n").toList := by
    decide +kernel
  rw [document] at holds
  rw [isDestination] at named
  exact ⟨Store.access_lawful, understood, missing, Prod.ext refused same,
    not_folderMissing_readyStore, exits.mpr ⟨path, succeeded⟩, place, named, holds, frame⟩

end CommandLine

end ApiReference
