import ApiReference.Proofs.AllOrNothing
import ApiReference.Proofs.Paths
import ApiReference.Proofs.Text.Lines

/-! ## What a conversion does to its input

The input of a conversion is kept as it was, unless the document is written into the
same file. Where each file has one name only, that happens exactly if the input has the
extension of Markdown already. -/

namespace ApiReference

/-! ### Files with one name -/

/-- Each file has one name, which ends every path to it. -/
structure FileView.Unlinked {Place : Type} (view : FileView Place) : Prop where
  named : ∀ {path place},
    view.place path = some place → Path.lastName path ≠ []
  proper : ∀ {path place},
    view.place path = some place → Path.isRelative (Path.lastName path) = false
  sameName : ∀ {path other place},
    view.place path = some place → view.place other = some place →
      Path.lastName path = Path.lastName other

/-- The default destination of an input is the input itself exactly if that has the
extension of Markdown. -/
theorem FileView.Unlinked.place_withExtension_iff {Place : Type} {view : FileView Place}
    (unlinked : view.Unlinked) {extension path : Text} {place : Place}
    (dotFree : '.' ∉ extension) (single : '/' ∉ extension)
    (named : view.place path = some place) :
    view.place (Path.withExtension extension path) = some place ↔
      Path.HasExtension extension path := by
  rcases Path.withExtension_cases dotFree single (unlinked.named named)
      (unlinked.proper named) with ⟨has, same⟩ | ⟨hasNot, renamed⟩
  · rw [same]
    exact ⟨fun _ => has, fun _ => named⟩
  · constructor
    · intro sameFile
      have properAfter := unlinked.proper sameFile
      have sameAfter := unlinked.sameName sameFile named
      rcases renamed with relative | other
      · simp [properAfter] at relative
      · exact absurd sameAfter other
    · intro has
      exact absurd has hasNot

namespace Store

def IsTree (store : Store) : Prop :=
  ∀ place entry, store.find? place = some entry → store.isFolder place.dropLast = true

theorem isFolder_dropLast {store : Store} (tree : store.IsTree) {place : Place}
    (isFolder : store.isFolder place = true) :
    store.isFolder place.dropLast = true := by
  cases found : store.find? place with
  | none =>
      simp [Store.isFolder, found] at isFolder
  | some entry =>
      exact tree place entry found

theorem splitOn_eq_concat_lastName (path : Text) :
    ∃ earlier, path.splitOn '/' = earlier ++ [Path.lastName path] := by
  induction path using List.reverseRecOn with
  | nil =>
      exact ⟨[], rfl⟩
  | append_singleton start finish inductionHypothesis =>
      by_cases slash : finish = '/'
      · have empty : Path.lastName (start ++ [finish]) = [] := by
          simp [Path.lastName, slash]
        rw [empty, slash]
        exact ⟨_, List.splitOn_append_cons_self start []⟩
      · have longer :
            Path.lastName (start ++ [finish]) = Path.lastName start ++ [finish] := by
          simp [Path.lastName, slash]
        obtain ⟨earlier, last, cut, cutLonger⟩ := Text.splitOn_concat slash start
        obtain ⟨others, same⟩ := inductionHypothesis
        have sameLast : last = Path.lastName start := by
          simpa using (List.append_inj' (cut.symm.trans same) rfl).2
        rw [longer, ← sameLast]
        exact ⟨earlier, cutLonger⟩

theorem lastName_ne_nil {store : Store} {path : Text} {place : Place}
    (located : store.locate path = some place) (plain : wantsFolder path = false) :
    Path.lastName path ≠ [] := by
  intro empty
  have whole := Path.front_append_lastName path
  rw [empty, List.append_nil] at whole
  rcases (Path.cutBehind_lastName path).marked with none | slash
  · have noPath : path = [] := whole.symm.trans none
    simp [locate, isTakeable, noPath] at located
  · rw [whole] at slash
    simp [wantsFolder, slash] at plain

/-- The last name of a path is the last step on the way to the place. -/
theorem exists_step_of_locate {store : Store} {path : Text} {place : Place}
    (located : store.locate path = some place) (present : Path.lastName path ≠ []) :
    ∃ around, store.step around (Path.lastName path) = some place := by
  obtain ⟨earlier, cut⟩ := splitOn_eq_concat_lastName path
  have namesCut :
      names path = earlier.filter (· ≠ []) ++ [Path.lastName path] := by
    simp [names, cut, present]
  unfold locate at located
  split at located
  · rw [namesCut, List.foldlM_append] at located
    obtain ⟨around, _, last⟩ := Option.bind_eq_some_iff.mp located
    exact ⟨around, by simpa using last⟩
  · cases located

/-- A step to something that is no folder adds the name to the place. -/
theorem step_to_file {store : Store} (tree : store.IsTree) {around place : Place}
    {name : Text} (stepped : store.step around name = some place)
    (notFolder : store.isFolder place = false) :
    Path.isRelative name = false ∧ place = around ++ [name] := by
  unfold step at stepped
  split at stepped
  · cases stepped
  next entered =>
    have isFolder : store.isFolder around = true := by
      simpa using entered
    split at stepped
    · cases stepped
      simp [isFolder] at notFolder
    next notDot =>
      split at stepped
      · cases stepped
        simp [isFolder_dropLast tree isFolder] at notFolder
      next notDots =>
        cases stepped
        exact ⟨by simp [Path.isRelative, notDot, notDots], rfl⟩

/-- A path to a file ends in the last name of its place. -/
theorem filePlace_eq_concat {store : Store} (tree : store.IsTree) {path : Text}
    {place : Place} (named : store.filePlace path = some place) :
    Path.lastName path ≠ [] ∧ Path.isRelative (Path.lastName path) = false ∧
      ∃ around, place = around ++ [Path.lastName path] := by
  obtain ⟨located, plain, notFolder⟩ := filePlace_eq_some_iff.mp named
  have present := lastName_ne_nil located plain
  obtain ⟨around, stepped⟩ := exists_step_of_locate located present
  obtain ⟨proper, split⟩ := step_to_file tree stepped notFolder
  exact ⟨present, proper, around, split⟩

/-- In a tree each file has one name. -/
theorem unlinked_of_isTree {store : Store} (tree : store.IsTree) :
    store.view.Unlinked := by
  constructor
  · intro path place named
    exact (filePlace_eq_concat tree named).1
  · intro path place named
    exact (filePlace_eq_concat tree named).2.1
  · intro path other place named otherNamed
    obtain ⟨_, _, around, split⟩ := filePlace_eq_concat tree named
    obtain ⟨_, _, otherAround, otherSplit⟩ := filePlace_eq_concat tree otherNamed
    have same := split.symm.trans otherSplit
    simpa using (List.append_inj' same rfl).2

theorem isTree_of_entries {store : Store}
    (inFolder : ∀ item ∈ store.entries, store.isFolder item.1.dropLast = true) :
    store.IsTree := by
  intro place entry found
  unfold find? at found
  split at found
  next root =>
    rw [List.isEmpty_iff.mp root]
    rfl
  next =>
    obtain ⟨earlier, later, split, _⟩ := List.lookup_eq_some_iff.mp found
    have listed : (place, entry) ∈ store.entries := by
      rw [split]
      exact List.mem_append_right earlier List.mem_cons_self
    exact inFolder _ listed

end Store

/-! ### Conversions -/

namespace Conversion

variable {σ Place : Type} {files : FileAccess (StateM σ)} {view : σ → FileView Place}

/-- What becomes of the file with the input. It is kept unless the conversion succeeds
with that very file as the destination, which then holds the document of the export
that was in it. -/
structure InputFate (view : σ → FileView Place) (options : Options) (place : Place)
    (content : ByteArray) (before : σ) (outcome : Except Failure Text) (after : σ) :
    Prop where
  kept : ¬ ((∃ path, outcome = .ok path) ∧
      (view before).place options.destination = some place) →
    (view after).entry place = some (.file content)
  replaced : (∃ path, outcome = .ok path) →
    (view before).place options.destination = some place →
      ∃ source entries,
        Store.decode content = some source ∧ Export.read source = .ok entries ∧
          (view after).entry place =
            some (.file (Store.encode
              ((Catalog.ofExport entries).toMarkdown options.language)))

/-- The destination is the one place that a run changes, so the input is kept unless it
lies there. -/
theorem AllOrNothing.inputFate {options : Options} {before after : σ}
    {outcome : Except Failure Text} {place : Place} {content : ByteArray}
    (all : AllOrNothing view options before outcome after)
    (named : (view before).place options.input = some place)
    (isFile : (view before).entry place = some (.file content)) :
    InputFate view options place content before outcome after := by
  have text := FileView.text_eq_decode named isFile
  cases outcome with
  | error failure =>
      have same : view after = view before := all
      constructor
      · intro _
        rw [same, isFile]
      · rintro ⟨_, impossible⟩
        cases impossible
  | ok path =>
      obtain ⟨rfl, source, entries, target, read, isExport, written, _, holds, others⟩ :=
        all
      constructor
      · intro elsewhere
        have different : place ≠ target := by
          rintro rfl
          exact elsewhere ⟨⟨_, rfl⟩, written⟩
        rw [others place different, isFile]
      · intro _ sameFile
        have same : target = place := by
          simpa [written] using sameFile
        subst same
        exact ⟨source, entries, text.symm.trans read, isExport, holds⟩

/-- Where no output is asked for, a conversion keeps the file with the input, unless it
succeeds and the input with the extension of Markdown names the same file. If each file
has one name, that is so exactly if the input has this extension already. -/
theorem run_keeps_input (lawful : files.Lawful view) {options : Options}
    (byDefault : options.output = none) {before : σ} {place : Place}
    {content : ByteArray}
    (named : (view before).place options.input = some place)
    (isFile : (view before).entry place = some (.file content)) :
    InputFate view options place content before
        ((run files options).run before).1.outcome ((run files options).run before).2 ∧
      ((view before).Unlinked →
        ((view before).place options.destination = some place ↔
          Path.HasExtension "md".toList options.input)) := by
  have course : Course files options before
      ((run files options).run before).1.outcome ((run files options).run before).2 :=
    course_of_run rfl
  have destination :
      options.destination = Path.withExtension "md".toList options.input := by
    rw [Options.destination, byDefault, Option.getD_none]
  refine ⟨(course.allOrNothing lawful).inputFate named isFile, ?_⟩
  intro unlinked
  rw [destination]
  exact unlinked.place_withExtension_iff (by decide) (by decide) named

def exportStore : Store :=
  ⟨[(["docs".toList], .folder),
    (["docs".toList, "Shapes.xml".toList], .file (Store.encode "<doc/>".toList))], []⟩

def exportOptions : Options :=
  Options.ofInput "docs/Shapes.xml".toList

/-- An export that is not called a Markdown document is left as it is. -/
theorem run_keeps_input_exportStore :
    Store.access.Lawful Store.view ∧ exportOptions.output = none ∧
      exportStore.view.place exportOptions.input =
        some ["docs".toList, "Shapes.xml".toList] ∧
      exportStore.view.Unlinked ∧
      ((run Store.access exportOptions).run exportStore).2.find?
          ["docs".toList, "Shapes.xml".toList] =
        some (.file (Store.encode "<doc/>".toList)) := by
  have byDefault : exportOptions.output = none := by
    rfl
  have named : exportStore.view.place exportOptions.input =
      some ["docs".toList, "Shapes.xml".toList] := by
    decide +kernel
  have unlinked : exportStore.view.Unlinked :=
    Store.unlinked_of_isTree (Store.isTree_of_entries (by decide +kernel))
  obtain ⟨fate, sameFile⟩ := run_keeps_input Store.access_lawful byDefault named rfl
  have otherExtension : ¬ Path.HasExtension "md".toList exportOptions.input := by
    rintro ⟨stem, _, _, split⟩
    have cut : "Shapes".toList ++ '.' :: "xml".toList = stem ++ '.' :: "md".toList := by
      rw [← split]
      decide
    have same := (Path.extension_unique (by decide) (by decide) cut).2
    exact absurd same (by decide)
  refine ⟨Store.access_lawful, byDefault, named, unlinked, fate.kept ?_⟩
  rintro ⟨_, written⟩
  exact otherExtension ((sameFile unlinked).mp written)

/-- A store with an export whose name is that of a Markdown document. -/
def markdownStore : Store :=
  ⟨[(["Doc.md".toList], .file (Store.encode "<doc/>".toList))], []⟩

/-- An export that is called a Markdown document gives way to its own document. -/
theorem input_replaced_markdownStore :
    (Options.ofInput "Doc.md".toList).output = none ∧
      markdownStore.view.place "Doc.md".toList = some ["Doc.md".toList] ∧
      markdownStore.find? ["Doc.md".toList] =
        some (.file (Store.encode "<doc/>".toList)) ∧
      ((run Store.access (Options.ofInput "Doc.md".toList)).run
          markdownStore).2.find? ["Doc.md".toList] ≠
        some (.file (Store.encode "<doc/>".toList)) := by
  refine ⟨rfl, by decide +kernel, rfl, ?_⟩
  intro unchanged
  have named :
      ((run Store.access (Options.ofInput "Doc.md".toList)).run
          markdownStore).2.view.place "Doc.md".toList = some ["Doc.md".toList] := by
    decide +kernel
  have document :
      ((run Store.access (Options.ofInput "Doc.md".toList)).run
          markdownStore).2.view.text "Doc.md".toList =
        some "## Features List\n\n## Doc\n\n".toList :=
    Store.view_text_of_readText (by decide +kernel)
  have sameText :
      ((run Store.access (Options.ofInput "Doc.md".toList)).run
          markdownStore).2.view.text "Doc.md".toList = some "<doc/>".toList := by
    rw [FileView.text_eq_decode named unchanged, Store.decode_encode]
  rw [document] at sameText
  exact absurd sameText (by decide)

end Conversion

end ApiReference
