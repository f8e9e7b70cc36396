import ApiReference.Proofs.Grouping
import ApiReference.Proofs.SolidBlocks
import Mathlib.Logic.Relation

/-! ## Sections that are empty

Empty sections may come into the members of an export or go from them. They are not
written, and they are passed over where a name is looked for, so what is left of an export
without them shows all that the export shows. -/

namespace ApiReference

open Markdown Relation

/-! ### Members without empty sections -/

namespace Member

/-- An empty section comes in between the sections of a member. -/
inductive EmptyAdded : Member → Member → Prop
  | between {kind : Kind} {longName : Text} {named : longName ≠ []}
      {before after : List Section} {part : Section} :
      part.isEmpty = true →
      EmptyAdded ⟨kind, longName, named, before ++ after⟩
        ⟨kind, longName, named, before ++ part :: after⟩

def bare (member : Member) : Member :=
  { member with sections := member.writtenSections }

/-- An empty section more makes no difference to what is left without all of them. -/
theorem EmptyAdded.bare_eq {member fuller : Member} (added : EmptyAdded member fuller) :
    member.bare = fuller.bare := by
  cases added with
  | between empty =>
      simp [bare, writtenSections, empty]

/-- Empty sections can be taken away one after another, from the front on. -/
theorem eqvGen_filter (kind : Kind) (longName : Text) (named : longName ≠ [])
    (parts : List Section) :
    ∀ front : List Section,
      EqvGen EmptyAdded ⟨kind, longName, named, front ++ parts⟩
        ⟨kind, longName, named, front ++ parts.filter fun part => !part.isEmpty⟩ := by
  -- The sections in front are those that have been kept.
  induction parts with
  | nil =>
      intro front
      exact EqvGen.refl _
  | cons part rest inductionHypothesis =>
      intro front
      by_cases empty : part.isEmpty = true
      · rw [List.filter_cons_of_neg (by simp [empty])]
        have dropped : EqvGen EmptyAdded ⟨kind, longName, named, front ++ part :: rest⟩
            ⟨kind, longName, named, front ++ rest⟩ :=
          (EqvGen.rel _ _ (EmptyAdded.between empty)).symm
        exact dropped.trans _ _ _ (inductionHypothesis front)
      · rw [List.filter_cons_of_pos (by simpa using empty)]
        have kept := inductionHypothesis (front ++ [part])
        rw [List.append_assoc, List.append_assoc] at kept
        exact kept

theorem eqvGen_bare (member : Member) : EqvGen EmptyAdded member member.bare :=
  eqvGen_filter member.kind member.longName member.longName_ne_nil member.sections []

section Bare

variable (member : Member)

@[simp]
theorem longName_bare : member.bare.longName = member.longName :=
  rfl

@[simp]
theorem rawName_bare : member.bare.rawName = member.rawName :=
  rfl

@[simp]
theorem writtenSections_bare : member.bare.writtenSections = member.writtenSections := by
  simp [bare, writtenSections]

/-- An empty section gives no name, be it a name itself. -/
theorem nameIn_eq_none_of_isEmpty {part : Section} (empty : part.isEmpty = true) :
    nameIn part = none := by
  rw [nameIn_eq_none_iff]
  intro text same
  have shown := Section.text_eq_nil_of_isEmpty empty
  rw [same] at shown
  exact shown

/-- An empty section names no member, so the given name is found without any. -/
@[simp]
theorem givenName_bare : member.bare.givenName = member.givenName := by
  rw [givenName_eq_findSome?, givenName_eq_findSome?, bare, writtenSections]
  induction member.sections with
  | nil =>
      rfl
  | cons part rest inductionHypothesis =>
      by_cases empty : part.isEmpty = true
      · rw [List.filter_cons_of_neg (by simp [empty]), inductionHypothesis,
          List.findSome?_cons_of_isNone (by simp [nameIn_eq_none_of_isEmpty empty])]
      · rw [List.filter_cons_of_pos (by simpa using empty), List.findSome?_cons,
          List.findSome?_cons, inductionHypothesis]

@[simp]
theorem displayName_bare : member.bare.displayName = member.displayName := by
  rw [displayName, displayName, givenName_bare, longName_bare]

@[simp]
theorem anchor_bare : member.bare.anchor = member.anchor := by
  rw [anchor, anchor, displayName_bare]

@[simp]
theorem entry_bare (number : Nat) : member.bare.entry number = member.entry number := by
  rw [entry, entry, anchor_bare]
  rfl

/-- An empty section leaves nothing in the documentation. -/
@[simp]
theorem documentation_bare (language : Text) :
    member.bare.documentation language = member.documentation language := by
  have sameHeading : member.bare.plainHeading = member.plainHeading := by
    rw [plainHeading, plainHeading, anchor_bare]
    rfl
  rw [documentation, documentation, blocks, blocks, givenName_bare, writtenSections_bare,
    sameHeading]
  rfl

@[simp]
theorem notices_bare : member.bare.notices = member.notices := by
  rw [notices, notices, writtenSections_bare]

@[simp]
theorem writtenCount_bare : member.bare.writtenCount = member.writtenCount := by
  rw [← length_writtenSections, writtenSections_bare, length_writtenSections]

@[simp]
theorem isUndocumented_bare : member.bare.isUndocumented = member.isUndocumented := by
  rw [Bool.eq_iff_iff, ← writtenCount_eq_zero_iff, writtenCount_bare,
    writtenCount_eq_zero_iff]

end Bare

end Member

/-! ### Exports without empty sections -/

namespace Export

inductive EmptyAdded : Export → Export → Prop
  | within {assembly : Option Text} {before after : List Member} {member fuller : Member} :
      member.EmptyAdded fuller →
      EmptyAdded ⟨assembly, before ++ member :: after⟩ ⟨assembly, before ++ fuller :: after⟩

def bare (entries : Export) : Export :=
  ⟨entries.assembly, entries.members.map Member.bare⟩

theorem EmptyAdded.bare_eq {entries fuller : Export} (added : EmptyAdded entries fuller) :
    entries.bare = fuller.bare := by
  cases added with
  | within inMember =>
      simp [bare, inMember.bare_eq]

/-- What joins two members joins exports that differ in these members alone. -/
theorem eqvGen_within {member other : Member} (joined : EqvGen Member.EmptyAdded member other)
    (assembly : Option Text) (before after : List Member) :
    EqvGen EmptyAdded ⟨assembly, before ++ member :: after⟩
      ⟨assembly, before ++ other :: after⟩ := by
  induction joined with
  | rel member fuller added =>
      exact EqvGen.rel _ _ (EmptyAdded.within added)
  | refl member =>
      exact EqvGen.refl _
  | symm member other _ backward =>
      exact backward.symm
  | trans member middle other _ _ first second =>
      exact first.trans _ _ _ second

theorem eqvGen_map_bare (assembly : Option Text) (members : List Member) :
    ∀ front : List Member,
      EqvGen EmptyAdded ⟨assembly, front ++ members⟩
        ⟨assembly, front ++ members.map Member.bare⟩ := by
  induction members with
  | nil =>
      intro front
      exact EqvGen.refl _
  | cons member others inductionHypothesis =>
      intro front
      have first := eqvGen_within member.eqvGen_bare assembly front others
      have later := inductionHypothesis (front ++ [member.bare])
      rw [List.append_assoc, List.append_assoc] at later
      exact first.trans _ _ _ later

theorem eqvGen_bare (entries : Export) : EqvGen EmptyAdded entries entries.bare :=
  eqvGen_map_bare entries.assembly entries.members []

/-- Empty sections that come and go lead from one export to another exactly if the two are
the same without them. -/
theorem eqvGen_emptyAdded_iff {entries other : Export} :
    EqvGen EmptyAdded entries other ↔ entries.bare = other.bare := by
  constructor
  · intro joined
    -- No single change shows in what is left, so no series of changes does.
    have sameBare : Equivalence fun entries other : Export => entries.bare = other.bare :=
      eq_equivalence.comap bare
    exact sameBare.eqvGen_iff.mp (joined.mono fun _ _ added => added.bare_eq)
  · intro same
    have onward := entries.eqvGen_bare
    rw [same] at onward
    exact onward.trans _ _ _ other.eqvGen_bare.symm

end Export

/-! ### What is shown without them -/

theorem Markdown.entriesFrom_map_bare (number : Nat) (members : List Member) :
    entriesFrom number (members.map Member.bare) = entriesFrom number members := by
  induction members generalizing number with
  | nil =>
      rfl
  | cons member others inductionHypothesis =>
      rw [List.map_cons, entriesFrom, entriesFrom, inductionHypothesis, Member.entry_bare]
      rfl

/-- A notice that does not tell how many sections a member has. -/
def Notice.uncounted : Notice → Notice
  | taken kind longName _ => taken kind longName 0
  | other => other

namespace Catalog

theorem toMarkdown_bare (entries : Export) (language : Text) :
    (ofExport entries.bare).toMarkdown language = (ofExport entries).toMarkdown language := by
  have sameTitle : (ofExport entries.bare).titleBlock = (ofExport entries).titleBlock := by
    rfl
  have sameList : (ofExport entries.bare).featureList = (ofExport entries).featureList := by
    rw [featureList, featureList, members_ofExport, members_ofExport, Export.bare, Markdown.entries,
      entriesFrom_map_bare]
    rfl
  have sameDocumentation : (ofExport entries.bare).documentation language =
      (ofExport entries).documentation language := by
    simp [documentation, members_ofExport, Export.bare, List.flatMap_map]
  rw [toMarkdown, toMarkdown, sameTitle, sameList, sameDocumentation]

theorem writingNotices_bare (entries : Export) :
    (ofExport entries.bare).writingNotices = (ofExport entries).writingNotices := by
  simp [writingNotices, members_ofExport, Export.bare, List.flatMap_map]

theorem warnings_bare (entries : Export) :
    (notices entries.bare).filter (·.level = .warning) =
      (notices entries).filter (·.level = .warning) := by
  simp [warnings_eq, Export.bare, List.filter_map, Function.comp_def]

theorem map_uncounted_notices_bare (entries : Export) :
    (notices entries.bare).map Notice.uncounted =
      (notices entries).map Notice.uncounted := by
  have each (member : Member) : (memberNotices member.bare).map Notice.uncounted =
      (memberNotices member).map Notice.uncounted := by
    rw [memberNotices, memberNotices, Member.isUndocumented_bare, List.map_append,
      List.map_append]
    rfl
  simp [notices, Export.bare, List.flatMap_map, List.map_flatMap, each]

end Catalog

/-- Two exports show the same: their members, one by one, bear the same names and are
linked and documented alike, the documents are the same, and so are the notices but for
how many sections a member has. -/
structure Export.ShownAlike (entries other : Export) : Prop where
  rawNames_eq : entries.members.map (·.rawName) = other.members.map (·.rawName)
  givenNames_eq : entries.members.map (·.givenName) = other.members.map (·.givenName)
  displayNames_eq : entries.members.map (·.displayName) = other.members.map (·.displayName)
  anchors_eq : entries.members.map (·.anchor) = other.members.map (·.anchor)
  entries_eq : Markdown.entries entries.members = Markdown.entries other.members
  documentation_eq (language : Text) :
    entries.members.map (·.documentation language) =
      other.members.map (·.documentation language)
  toMarkdown_eq (language : Text) :
    (Catalog.ofExport entries).toMarkdown language =
      (Catalog.ofExport other).toMarkdown language
  warnings_eq :
    (Catalog.notices entries).filter (·.level = .warning) =
      (Catalog.notices other).filter (·.level = .warning)
  notices_eq :
    (Catalog.notices entries).map Notice.uncounted = (Catalog.notices other).map Notice.uncounted
  writingNotices_eq :
    (Catalog.ofExport entries).writingNotices = (Catalog.ofExport other).writingNotices

namespace Export

/-- An export without its empty sections shows the same. -/
theorem shownAlike_bare (entries : Export) : entries.bare.ShownAlike entries where
  rawNames_eq := by simp [bare]
  givenNames_eq := by simp [bare]
  displayNames_eq := by simp [bare]
  anchors_eq := by simp [bare]
  entries_eq := entriesFrom_map_bare 1 entries.members
  documentation_eq language := by simp [bare]
  toMarkdown_eq := Catalog.toMarkdown_bare entries
  warnings_eq := Catalog.warnings_bare entries
  notices_eq := Catalog.map_uncounted_notices_bare entries
  writingNotices_eq := Catalog.writingNotices_bare entries

/-- What shows the same as a third export shows the same. -/
theorem ShownAlike.of_common {common entries other : Export}
    (first : common.ShownAlike entries) (second : common.ShownAlike other) :
    entries.ShownAlike other where
  rawNames_eq := first.rawNames_eq.symm.trans second.rawNames_eq
  givenNames_eq := first.givenNames_eq.symm.trans second.givenNames_eq
  displayNames_eq := first.displayNames_eq.symm.trans second.displayNames_eq
  anchors_eq := first.anchors_eq.symm.trans second.anchors_eq
  entries_eq := first.entries_eq.symm.trans second.entries_eq
  documentation_eq language :=
    (first.documentation_eq language).symm.trans (second.documentation_eq language)
  toMarkdown_eq language :=
    (first.toMarkdown_eq language).symm.trans (second.toMarkdown_eq language)
  warnings_eq := first.warnings_eq.symm.trans second.warnings_eq
  notices_eq := first.notices_eq.symm.trans second.notices_eq
  writingNotices_eq := first.writingNotices_eq.symm.trans second.writingNotices_eq

/-- Whichever empty sections come into the members of an export or go from them, at any
places and in any order, the export goes on to show the same. -/
theorem shownAlike_of_eqvGen {entries other : Export}
    (joined : EqvGen EmptyAdded entries other) : entries.ShownAlike other := by
  have sameBare := eqvGen_emptyAdded_iff.mp joined
  have onward := entries.shownAlike_bare
  rw [sameBare] at onward
  exact onward.of_common other.shownAlike_bare

def plateClass : Member :=
  ⟨.classType, "Plane.Plate".toList, by decide,
    [.passage .summary "Flat.".toList, .passage .name "Plate".toList]⟩

def twiceNamedPlate : Member :=
  ⟨.classType, "Plane.Plate".toList, plateClass.longName_ne_nil,
    [.passage .summary "Flat.".toList, .passage .name [], .passage .name "Plate".toList]⟩

def cutMethod : Member :=
  ⟨.method, "Plane.Plate.Cut".toList, by decide, []⟩

def notedCut : Member :=
  ⟨.method, "Plane.Plate.Cut".toList, cutMethod.longName_ne_nil, [.other "note".toList []]⟩

/-- One section is added and another one left out. -/
theorem shownAlike_of_eqvGen_plates :
    EqvGen EmptyAdded ⟨none, [plateClass, notedCut]⟩ ⟨none, [twiceNamedPlate, cutMethod]⟩ ∧
      [plateClass, notedCut].map (·.anchor) = [twiceNamedPlate, cutMethod].map (·.anchor) ∧
      (Catalog.ofExport ⟨none, [plateClass, notedCut]⟩).toMarkdown "cs".toList =
        (Catalog.ofExport ⟨none, [twiceNamedPlate, cutMethod]⟩).toMarkdown "cs".toList ∧
      (Catalog.notices ⟨none, [plateClass, notedCut]⟩).filter (·.level = .warning) =
        [.undocumented "M:Plane.Plate.Cut".toList] := by
  have nameAdded : plateClass.EmptyAdded twiceNamedPlate :=
    @Member.EmptyAdded.between .classType _ plateClass.longName_ne_nil
      [.passage .summary "Flat.".toList] [.passage .name "Plate".toList] (.passage .name []) rfl
  have noteAdded : cutMethod.EmptyAdded notedCut :=
    @Member.EmptyAdded.between .method _ cutMethod.longName_ne_nil [] []
      (.other "note".toList []) rfl
  have inClass : EmptyAdded ⟨none, [plateClass, notedCut]⟩ ⟨none, [twiceNamedPlate, notedCut]⟩ :=
    @EmptyAdded.within none [] [notedCut] _ _ nameAdded
  have inMethod :
      EmptyAdded ⟨none, [twiceNamedPlate, cutMethod]⟩ ⟨none, [twiceNamedPlate, notedCut]⟩ :=
    @EmptyAdded.within none [twiceNamedPlate] [] _ _ noteAdded
  have joined := (EqvGen.rel _ _ inClass).trans _ _ _ ((EqvGen.rel _ _ inMethod).symm _ _)
  have alike := shownAlike_of_eqvGen joined
  refine ⟨joined, alike.anchors_eq, alike.toMarkdown_eq "cs".toList, ?_⟩
  rw [alike.warnings_eq]
  decide +kernel

end Export

end ApiReference
