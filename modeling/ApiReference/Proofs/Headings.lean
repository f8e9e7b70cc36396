import ApiReference.Proofs.Anchors

/-! ## Where the headings of members stand

Each member has one heading of its own. Without a given name the heading is the first
thing written. A given name is a heading in the place of the section that gives it, so
the sections written in front of that one stand in front of the heading as well. -/

namespace ApiReference

open Markdown

namespace Member

/-- The heading of a member between the sections in front of it and those behind. A
member is called by the first section that names it and is not empty. -/
inductive HeadingStands (member : Member) : List Section → Text → List Section → Prop
  | first :
      member.Unnamed →
      HeadingStands member []
        (member.headingMark ++ member.shortName ++ "<a name=\"".toList ++ member.anchor ++
          "\"></a>".toList)
        member.sections
  | given {ahead behind : List Section} {name : Text} :
      member.sections = ahead ++ Section.passage .name name :: behind →
      name ≠ [] →
      (∀ text, Section.passage .name text ∈ ahead → text = []) →
      HeadingStands member ahead (member.headingMark ++ name) behind

/-- What is written for sections of a member, the empty ones left out. -/
def writtenText (member : Member) (language : Text) (parts : List Section) : Text :=
  (parts.filter fun part => !part.isEmpty).flatMap fun part =>
    part.block member.headingDepth language ++ "\n\n".toList

theorem writtenText_append (member : Member) (language : Text)
    (front back : List Section) :
    member.writtenText language (front ++ back) =
      member.writtenText language front ++ member.writtenText language back := by
  simp only [writtenText, List.filter_append, List.flatMap_append]

theorem writtenText_eq_nil {member : Member} {parts : List Section}
    (empty : ∀ part ∈ parts, part.isEmpty = true) (language : Text) :
    member.writtenText language parts = [] := by
  have noneWritten : parts.filter (fun part => !part.isEmpty) = [] := by
    apply List.filter_eq_nil_iff.mpr
    intro part present
    simp [empty part present]
  rw [writtenText, noneWritten]
  rfl

/-- The documentation is that of the sections, behind the heading of a member that is given
no name. -/
theorem documentation_eq (member : Member) (language : Text) :
    member.documentation language =
      (if member.givenName.isNone then member.plainHeading ++ "\n\n".toList else []) ++
        member.writtenText language member.sections := by
  rw [documentation, blocks, List.flatMap_append, List.flatMap_map]
  split
  · simp [writtenText, writtenSections, separated]
  · rfl

/-- Every member has a heading, and what is written for its sections stands around it. -/
theorem exists_headingStands (member : Member)
    (made : ∀ part ∈ member.sections, part.FromTag) (language : Text) :
    ∃ ahead own behind,
      member.HeadingStands ahead own behind ∧
        member.documentation language =
          member.writtenText language ahead ++ (own ++ "\n\n".toList) ++
            member.writtenText language behind := by
  cases found : member.givenName with
  | none =>
      have unnamed := givenName_eq_none_iff.mp found
      refine ⟨[], _, _, HeadingStands.first unnamed, ?_⟩
      rw [documentation_eq, found, plainHeading_eq]
      rfl
  | some name =>
      have named := givenName_eq_some_iff.mp found
      obtain ⟨present, ahead, behind, split, nameless⟩ := named
      refine ⟨ahead, _, behind, HeadingStands.given split present nameless, ?_⟩
      have naming : Section.passage .name name ∈ member.sections := by
        rw [split]
        exact List.mem_append_right ahead List.mem_cons_self
      have block := member.block_name (made _ naming) present language
      have written : (Section.passage .name name).isEmpty = false := by
        simp [Section.isEmpty, present]
      have itself :
          member.writtenText language (Section.passage .name name :: behind) =
            member.headingMark ++ name ++ "\n\n".toList ++
              member.writtenText language behind := by
        simp [writtenText, written, block]
      rw [documentation_eq, found, split, writtenText_append, itself]
      simp

end Member

/-- The documentation of a catalog is that of its members, one after another. In that of
a member, the sections written in front of its heading are those that stand in front of
the section by which it is called, and there are none without a given name. If all of
them are empty, the documentation starts with the heading. -/
theorem documentation_around_headings (catalog : Catalog) (language : Text)
    (made : ∀ member ∈ catalog.members, ∀ part ∈ member.sections, part.FromTag) :
    catalog.documentation language =
        (catalog.members.map (·.documentation language)).flatten ∧
      ∀ member ∈ catalog.members, ∃ ahead own behind,
        member.HeadingStands ahead own behind ∧
          member.documentation language =
            member.writtenText language ahead ++ (own ++ "\n\n".toList) ++
              member.writtenText language behind ∧
          ((∀ part ∈ ahead, part.isEmpty = true) →
            own ++ "\n\n".toList <+: member.documentation language) := by
  constructor
  · rw [Catalog.documentation, List.flatMap_def]
  · intro member present
    obtain ⟨ahead, own, behind, stands, split⟩ :=
      member.exists_headingStands (made member present) language
    refine ⟨ahead, own, behind, stands, split, ?_⟩
    intro empty
    rw [split, Member.writtenText_eq_nil empty, List.nil_append]
    exact List.prefix_append _ _

/-- A class that is called by its second section. -/
def lateCircle : Member :=
  ⟨.classType, "Plane.Circle".toList, by decide,
    [.ofTag "summary".toList none "Round.".toList,
      .ofTag "name".toList none "Circle".toList]⟩

def lateShapes : Catalog :=
  ⟨none, [⟨some ⟨.classType, "Plane.Square".toList, by decide, []⟩, []⟩,
    ⟨some lateCircle, []⟩]⟩

theorem lateShapes_fromTag :
    ∀ member ∈ lateShapes.members, ∀ part ∈ member.sections, part.FromTag := by
  simp [lateShapes, lateCircle, Catalog.members, Group.all]

theorem documentation_around_headings_lateShapes :
    (∀ member ∈ lateShapes.members, ∀ part ∈ member.sections, part.FromTag) ∧
      ∃ ahead own behind,
        lateCircle.HeadingStands ahead own behind ∧
          lateCircle.documentation "csharp".toList =
            lateCircle.writtenText "csharp".toList ahead ++ (own ++ "\n\n".toList) ++
              lateCircle.writtenText "csharp".toList behind := by
  have among : lateCircle ∈ lateShapes.members := by
    simp [lateShapes, Catalog.members, Group.all]
  obtain ⟨_, each⟩ :=
    documentation_around_headings lateShapes "csharp".toList lateShapes_fromTag
  obtain ⟨ahead, own, behind, stands, split, _⟩ := each lateCircle among
  exact ⟨lateShapes_fromTag, ahead, own, behind, stands, split⟩

/-- The summary of the class stands in front of its heading, below that of the class
before it. -/
theorem heading_not_first_lateCircle :
    (∀ member ∈ lateShapes.members, ∀ part ∈ member.sections, part.FromTag) ∧
      lateCircle.NamedBy "Circle".toList ∧
      ¬ "### Circle".toList <+: lateCircle.documentation "csharp".toList ∧
      lateShapes.documentation "csharp".toList =
        ("### Square<a name=\"plane.square\"></a>\n\n" ++
          "Round.\n\n### Circle\n\n").toList := by
  have named : lateCircle.NamedBy "Circle".toList := by
    apply Member.givenName_eq_some_iff.mp
    decide +kernel
  exact ⟨lateShapes_fromTag, named, by decide +kernel, by decide +kernel⟩

end ApiReference
