import ApiReference.Markdown.Reference
import ApiReference.Proofs.Sections

/-! ## Links to members and their anchors

Each member has one entry in the list of features and one documentation, and the
link of the entry leads into the documentation. Both are made from the name of the
member, but by different rules: the anchor stands in the heading of a member without
a given name, and a given name is a heading of its own. -/

namespace ApiReference

open Markdown

/-! ### Given names -/

namespace Member

/-- A member that is given no name: every section that names it is empty. -/
def Unnamed (member : Member) : Prop :=
  ∀ text, Section.passage .name text ∈ member.sections → text = []

/-- The name that a member is given: the text of the first section that names it and
is not empty. -/
def NamedBy (member : Member) (name : Text) : Prop :=
  name ≠ [] ∧
    ∃ before after,
      member.sections = before ++ Section.passage .name name :: after ∧
        ∀ text, Section.passage .name text ∈ before → text = []

def nameIn : Section → Option Text
  | .passage .name text => if text.isEmpty then none else some text
  | _ => none

/-- A member is called by the first name that is found in its sections. -/
theorem givenName_eq_findSome? (member : Member) :
    member.givenName = member.sections.findSome? nameIn :=
  rfl

theorem nameIn_eq_some_iff {part : Section} {name : Text} :
    nameIn part = some name ↔ part = .passage .name name ∧ name ≠ [] := by
  constructor
  · intro found
    unfold nameIn at found
    split at found
    next text =>
      by_cases empty : text = []
      · simp [empty] at found
      · have same : text = name := by
          simpa [empty] using found
        exact ⟨by rw [same], same ▸ empty⟩
    next =>
      cases found
  · rintro ⟨rfl, given⟩
    simp [nameIn, given]

theorem nameIn_eq_none_iff {part : Section} :
    nameIn part = none ↔ ∀ text, part = .passage .name text → text = [] := by
  rw [Option.eq_none_iff_forall_ne_some]
  constructor
  · intro nothing text same
    by_contra given
    exact nothing text (nameIn_eq_some_iff.mpr ⟨same, given⟩)
  · intro empty name found
    obtain ⟨same, given⟩ := nameIn_eq_some_iff.mp found
    exact given (empty name same)

/-- No name is found in sections exactly if all sections that name are empty. -/
theorem forall_nameIn_eq_none_iff {parts : List Section} :
    (∀ part ∈ parts, nameIn part = none) ↔
      ∀ text, Section.passage .name text ∈ parts → text = [] := by
  constructor
  · intro nothing text present
    exact nameIn_eq_none_iff.mp (nothing _ present) text rfl
  · intro empty part present
    rw [nameIn_eq_none_iff]
    rintro text rfl
    exact empty text present

theorem givenName_eq_none_iff {member : Member} :
    member.givenName = none ↔ member.Unnamed := by
  rw [givenName_eq_findSome?, List.findSome?_eq_none_iff]
  exact forall_nameIn_eq_none_iff

/-- A member has a given name exactly if a section names it so, and no section in front
does. -/
theorem givenName_eq_some_iff {member : Member} {name : Text} :
    member.givenName = some name ↔ member.NamedBy name := by
  rw [givenName_eq_findSome?, List.findSome?_eq_some_iff]
  constructor
  · rintro ⟨before, part, after, split, found, nothing⟩
    obtain ⟨rfl, given⟩ := nameIn_eq_some_iff.mp found
    exact ⟨given, before, after, split, forall_nameIn_eq_none_iff.mp nothing⟩
  · rintro ⟨given, before, after, split, empty⟩
    exact ⟨before, _, after, split, nameIn_eq_some_iff.mpr ⟨rfl, given⟩,
      forall_nameIn_eq_none_iff.mpr empty⟩

/-! ### Places in the documentation of a member -/

def headingMark (member : Member) : Text :=
  if member.kind = .classType then "### ".toList else "#### ".toList

theorem heading_headingDepth (member : Member) (text : Text) :
    heading member.headingDepth text = member.headingMark ++ text := by
  rw [heading, headingDepth, headingMark]
  by_cases isClass : member.kind = .classType
  · rw [if_pos (Kind.isClass_iff.mpr isClass), if_pos isClass]
    rfl
  · rw [if_neg (by simpa using isClass), if_neg isClass]
    rfl

theorem plainHeading_eq (member : Member) :
    member.plainHeading =
      member.headingMark ++ member.shortName ++ "<a name=\"".toList ++ member.anchor ++
        "\"></a>".toList := by
  rw [plainHeading, anchored, heading_headingDepth]

/-- Whether a link to a place leads into the documentation of a member. Without a
given name the documentation starts with a heading that has the place in it; otherwise
one of its blocks is the given name as a heading, and the place is called by it. -/
def Reaches (member : Member) (language place : Text) : Prop :=
  (member.Unnamed ∧
    member.headingMark ++ member.shortName ++ "<a name=\"".toList ++ place ++
      "\"></a>".toList ++ "\n\n".toList <+: member.documentation language) ∨
    ∃ name, member.NamedBy name ∧ place = Markdown.anchor name ∧
      ∃ before after,
        member.blocks language = before ++ (member.headingMark ++ name) :: after ∧
          member.documentation language =
            (before ++ (member.headingMark ++ name) :: after).flatMap (· ++ "\n\n".toList)

theorem headingDepth_pos (member : Member) : 0 < member.headingDepth := by
  unfold headingDepth
  split <;> decide

/-- The block of a section that gives a member its name is a heading. A name is in normal
form, so trimming the block takes nothing away. -/
theorem block_name (member : Member) {name : Text}
    (made : (Section.passage .name name).FromTag) (given : name ≠ []) (language : Text) :
    (Section.passage .name name).block member.headingDepth language =
      member.headingMark ++ name := by
  rw [← heading_headingDepth]
  exact Section.block_name made.name_trimmed given member.headingDepth_pos language

/-- Every section that is not empty has its block in the documentation. -/
theorem block_mem_blocks {member : Member} {part : Section}
    (present : part ∈ member.sections) (written : part.isEmpty = false)
    (language : Text) :
    part.block member.headingDepth language ∈ member.blocks language := by
  apply List.mem_append_right
  apply List.mem_map_of_mem
  simp [writtenSections, present, written]

/-- The anchor of a member leads to its heading: to the one made of its names if it is
given none, and to the block of its name otherwise. -/
theorem reaches_anchor {member : Member}
    (made : ∀ part ∈ member.sections, part.FromTag) (language : Text) :
    member.Reaches language member.anchor := by
  cases found : member.givenName with
  | none =>
      refine Or.inl ⟨givenName_eq_none_iff.mp found, ?_⟩
      have first :
          member.blocks language =
            member.plainHeading ::
              member.writtenSections.map (·.block member.headingDepth language) := by
        simp [blocks, found]
      rw [documentation, first, List.flatMap_cons, ← member.plainHeading_eq]
      exact List.prefix_append _ _
  | some name =>
      have named := givenName_eq_some_iff.mp found
      obtain ⟨given, before, after, split, _⟩ := id named
      have present : Section.passage .name name ∈ member.sections := by
        simp [split]
      have among := block_mem_blocks present (by simp [Section.isEmpty, given]) language
      rw [member.block_name (made _ present) given] at among
      obtain ⟨blocksBefore, blocksAfter, blocksSplit⟩ := List.append_of_mem among
      refine Or.inr ⟨name, named, ?_, blocksBefore, blocksAfter, blocksSplit, ?_⟩
      · rw [anchor, displayName, found, Option.getD_some]
      · rw [documentation, blocksSplit]
        rfl

end Member

/-! ### Entries of the list -/

namespace Markdown

theorem length_entriesFrom (number : Nat) (members : List Member) :
    (entriesFrom number members).length = members.length := by
  induction members generalizing number with
  | nil =>
      rfl
  | cons member others inductionHypothesis =>
      rw [entriesFrom, List.length_cons, inductionHypothesis, List.length_cons]

/-- The entry at a place is that of the member at this place, and its number counts
the classes in front. -/
theorem getElem?_entriesFrom (number : Nat) (members : List Member) (index : Nat) :
    (entriesFrom number members)[index]? =
      members[index]?.map fun member =>
        member.entry (number + (members.take index).countP (·.kind.isClass)) := by
  induction members generalizing number index with
  | nil =>
      simp [entriesFrom]
  | cons member others inductionHypothesis =>
      cases index with
      | zero =>
          simp [entriesFrom]
      | succ index =>
          rw [entriesFrom, List.getElem?_cons_succ, inductionHypothesis,
            List.getElem?_cons_succ, List.take_succ_cons, List.countP_cons]
          by_cases isClass : member.kind.isClass = true
          · simp only [isClass, if_true, Nat.add_assoc, Nat.add_comm 1]
          · simp only [isClass, Bool.false_eq_true, if_false, Nat.add_zero]

end Markdown

theorem Member.entry_eq_append (number : Nat) (member : Member) :
    member.entry number =
      member.entryMark number ++ ['['] ++ member.longName ++ "](#".toList ++ member.anchor ++
        ")\n".toList := by
  rw [entry, link]
  simp only [List.append_assoc]
  rfl

/-! ### Links and their places -/

/-- The list of features and the documentation go through the same members, with one
entry and one documentation each, and the link of every entry leads into the
documentation of its member. -/
theorem links_reach_documentation (catalog : Catalog) (language : Text)
    (made : ∀ member ∈ catalog.members, ∀ part ∈ member.sections, part.FromTag) :
    catalog.featureList = (entries catalog.members).flatten ∧
      (entries catalog.members).length = catalog.members.length ∧
      catalog.documentation language =
        (catalog.members.map (·.documentation language)).flatten ∧
      ∀ (index : Nat) (member : Member), catalog.members[index]? = some member →
        ∃ place,
          (entries catalog.members)[index]? =
              some (member.entryMark
                    (1 + (catalog.members.take index).countP (·.kind.isClass)) ++
                  ['['] ++ member.longName ++ "](#".toList ++ place ++ ")\n".toList) ∧
            member.Reaches language place := by
  refine ⟨rfl, length_entriesFrom 1 catalog.members, ?_, ?_⟩
  · rw [Catalog.documentation, List.flatMap_def]
  · intro index member found
    have present : member ∈ catalog.members := List.mem_of_getElem? found
    refine ⟨member.anchor, ?_, Member.reaches_anchor (made member present) language⟩
    rw [entries, getElem?_entriesFrom, found, Option.map_some, Member.entry_eq_append]

/-- A class whose first name is blank, so that its second one counts. -/
def circle : Member :=
  ⟨.classType, "Shapes.Circle".toList, by decide,
    [.ofTag "name".toList none " ".toList, .ofTag "summary".toList none "Round.".toList,
      .ofTag "name".toList none " The Circle ".toList]⟩

def circles : Catalog :=
  ⟨some "Shapes".toList,
    [⟨some circle, [⟨.method, "Shapes.Circle.Area".toList, by decide, []⟩]⟩]⟩

theorem circles_fromTag :
    ∀ member ∈ circles.members, ∀ part ∈ member.sections, part.FromTag := by
  simp [circles, circle, Catalog.members, Group.all]

theorem links_reach_documentation_circles :
    (∀ member ∈ circles.members, ∀ part ∈ member.sections, part.FromTag) ∧
      ∃ place,
        (entries circles.members)[0]? =
            some ("\n1. [Shapes.Circle](#".toList ++ place ++ ")\n".toList) ∧
          circle.Reaches "csharp".toList place := by
  refine ⟨circles_fromTag, ?_⟩
  obtain ⟨_, _, _, reached⟩ :=
    links_reach_documentation circles "csharp".toList circles_fromTag
  exact reached 0 circle rfl

end ApiReference
