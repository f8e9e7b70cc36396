import ApiReference.Markdown.Reference
import ApiReference.Proofs.Grouping

/-! ## Documents of regrouped catalogs

Writing a catalog goes through its groups from the top. The number of the next class is
all that one group hands on to the next, so borders between groups leave no trace in the
document. -/

namespace ApiReference

open Markdown

/-! ### Entries of groups -/

namespace Markdown

/-- How many of the members are classes, and take a number each. -/
def classCount (members : List Member) : Nat :=
  members.countP (·.kind.isClass)

theorem classCount_cons (member : Member) (others : List Member) :
    classCount (member :: others) =
      classCount others + if member.kind.isClass then 1 else 0 :=
  List.countP_cons

theorem entriesFrom_append (number : Nat) (members others : List Member) :
    entriesFrom number (members ++ others) =
      entriesFrom number members ++ entriesFrom (number + classCount members) others := by
  induction members generalizing number with
  | nil =>
      rfl
  | cons member rest inductionHypothesis =>
      rw [List.cons_append, entriesFrom, entriesFrom, inductionHypothesis,
        List.cons_append, classCount_cons]
      by_cases isClass : member.kind.isClass = true
      · have sameNumber : number + 1 + classCount rest = number + (classCount rest + 1) := by
          omega
        rw [if_pos isClass, if_pos isClass, sameNumber]
      · rw [if_neg isClass, if_neg isClass, Nat.add_zero]

/-- The entries of groups, one group after the other. The first class gets the number
`number`. -/
def groupEntriesFrom (number : Nat) : List Group → List Text
  | [] => []
  | group :: others =>
    entriesFrom number group.all ++
      groupEntriesFrom (number + classCount group.all) others

/-- The entries of groups are those of their members in a row. -/
theorem groupEntriesFrom_eq (number : Nat) (groups : List Group) :
    groupEntriesFrom number groups = entriesFrom number (groups.flatMap Group.all) := by
  induction groups generalizing number with
  | nil =>
      rfl
  | cons group others inductionHypothesis =>
      rw [groupEntriesFrom, List.flatMap_cons, entriesFrom_append, inductionHypothesis]

end Markdown

/-! ### Documents -/

namespace Catalog

def groupwiseMarkdown (language : Text) (catalog : Catalog) : Text :=
  catalog.titleBlock ++ heading 2 "Features List".toList ++ ['\n'] ++
    (groupEntriesFrom 1 catalog.groups).flatten ++ ['\n'] ++
      separated (heading 2 "Doc".toList) ++
        catalog.groups.flatMap fun group => group.all.flatMap (·.documentation language)

/-- To go through the groups one by one leads to the same document. -/
theorem groupwiseMarkdown_eq (language : Text) (catalog : Catalog) :
    catalog.groupwiseMarkdown language = catalog.toMarkdown language := by
  have sameList : (groupEntriesFrom 1 catalog.groups).flatten = catalog.featureList := by
    rw [groupEntriesFrom_eq]
    rfl
  have sameDocumentation :
      (catalog.groups.flatMap fun group => group.all.flatMap (·.documentation language)) =
        catalog.documentation language := by
    rw [documentation, members, List.flatMap_assoc]
  rw [groupwiseMarkdown, sameList, sameDocumentation, toMarkdown]

/-- The title and the members make the document, and the notices on the way to it. -/
theorem toMarkdown_eq_of_members_eq {catalog other : Catalog}
    (sameTitle : other.title = catalog.title)
    (sameMembers : other.members = catalog.members) (language : Text) :
    other.toMarkdown language = catalog.toMarkdown language ∧
      other.writingNotices = catalog.writingNotices := by
  have sameBlock : other.titleBlock = catalog.titleBlock := by
    rw [titleBlock, titleBlock, sameTitle]
  have sameList : other.featureList = catalog.featureList := by
    rw [featureList, featureList, sameMembers]
  have sameDocumentation : other.documentation language = catalog.documentation language := by
    rw [documentation, documentation, sameMembers]
  constructor
  · rw [toMarkdown, toMarkdown, sameBlock, sameList, sameDocumentation]
  · rw [writingNotices, writingNotices, sameMembers]

/-- However the members of a catalog are grouped, its document is that of the catalog of
an export with its title and its members, and so are the notices. Written group by group
it is the same as well, and any catalog with this title and these members has this
document. -/
theorem toMarkdown_regrouped (catalog : Catalog) (language : Text) :
    (ofExport ⟨catalog.title, catalog.members⟩).toMarkdown language =
        catalog.toMarkdown language ∧
      (ofExport ⟨catalog.title, catalog.members⟩).writingNotices =
        catalog.writingNotices ∧
      catalog.groupwiseMarkdown language = catalog.toMarkdown language ∧
      ∀ other : Catalog, other.title = catalog.title → other.members = catalog.members →
        other.toMarkdown language = catalog.toMarkdown language ∧
          other.writingNotices = catalog.writingNotices := by
  have keptTitle : (ofExport ⟨catalog.title, catalog.members⟩).title = catalog.title := by
    rfl
  have keptMembers :
      (ofExport ⟨catalog.title, catalog.members⟩).members = catalog.members :=
    flatMap_all_groupsOf catalog.members
  obtain ⟨sameDocument, sameNotices⟩ :=
    toMarkdown_eq_of_members_eq keptTitle keptMembers language
  refine ⟨sameDocument, sameNotices, groupwiseMarkdown_eq language catalog, ?_⟩
  intro other sameTitle sameMembers
  exact toMarkdown_eq_of_members_eq sameTitle sameMembers language

def discMember : Member :=
  ⟨.classType, "Disc".toList, by decide, [.other "remark".toList "Round.".toList]⟩

def areaMember : Member :=
  ⟨.method, "Disc.Area".toList, by decide, []⟩

/-- A catalog with a method at the head of a group, a class below it, and an empty
group. -/
def oddlyGrouped : Catalog :=
  ⟨none, [⟨some areaMember, [discMember]⟩, ⟨none, []⟩, ⟨none, [areaMember]⟩]⟩

def ungrouped : Catalog :=
  ⟨none, [⟨none, [areaMember, discMember, areaMember]⟩]⟩

/-- Groups out of shape make no difference to the document. -/
theorem toMarkdown_regrouped_oddlyGrouped :
    ungrouped.title = oddlyGrouped.title ∧ ungrouped.members = oddlyGrouped.members ∧
      ungrouped.toMarkdown "cs".toList = oddlyGrouped.toMarkdown "cs".toList ∧
      ungrouped.writingNotices = [.plain "remark".toList] := by
  have sameTitle : ungrouped.title = oddlyGrouped.title := by
    rfl
  have sameMembers : ungrouped.members = oddlyGrouped.members := by
    rfl
  obtain ⟨_, _, _, regrouped⟩ := toMarkdown_regrouped oddlyGrouped "cs".toList
  obtain ⟨sameDocument, sameNotices⟩ := regrouped ungrouped sameTitle sameMembers
  have noted : oddlyGrouped.writingNotices = [.plain "remark".toList] := by
    decide +kernel
  exact ⟨sameTitle, sameMembers, sameDocument, sameNotices.trans noted⟩

end Catalog

end ApiReference
