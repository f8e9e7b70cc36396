import ApiReference.Catalog
import Mathlib.Data.List.Basic
import Mathlib.Data.Set.Function

/-! ## Members and their groups

Grouping loses nothing and adds nothing: the groups of a list of members are the
only well-formed groups that list exactly these members. -/

namespace ApiReference

/-! ### Groups in good form -/

/-- A group in good form. Its head is a class, no member below is one, and a group
that has no head has members. -/
structure Group.WellFormed (group : Group) : Prop where
  head_class : ∀ head, group.head = some head → head.kind = .classType
  members_not_class : ∀ member ∈ group.members, member.kind ≠ .classType
  members_ne_nil : group.head = none → group.members ≠ []

def StartsHeaded (groups : List Group) : Prop :=
  ∀ group ∈ groups.head?, group.head ≠ none

/-- Groups in good form, of which only the first may go without a head. -/
structure WellGrouped (groups : List Group) : Prop where
  wellFormed : ∀ group ∈ groups, group.WellFormed
  headed : ∀ group ∈ groups.tail, group.head ≠ none

theorem WellGrouped.nil : WellGrouped [] :=
  ⟨by simp, by simp⟩

theorem startsHeaded_of_wellGrouped_cons
    {group : Group} {groups : List Group}
    (well : WellGrouped (group :: groups)) : StartsHeaded groups := by
  intro next nextFirst
  exact well.headed next (List.mem_of_mem_head? nextFirst)

theorem WellGrouped.tail
    {group : Group} {groups : List Group}
    (well : WellGrouped (group :: groups)) : WellGrouped groups := by
  constructor
  · intro other member
    exact well.wellFormed other (List.mem_cons_of_mem group member)
  · intro other member
    exact well.headed other (List.mem_of_mem_tail member)

/-- A group may stand in front of others if the first of these has a head. -/
theorem WellGrouped.cons
    {group : Group} {groups : List Group}
    (formed : group.WellFormed) (started : StartsHeaded groups)
    (well : WellGrouped groups) : WellGrouped (group :: groups) := by
  constructor
  · intro other member
    rcases List.mem_cons.mp member with rfl | later
    · exact formed
    · exact well.wellFormed other later
  · intro other member
    cases groups with
    | nil =>
        simp at member
    | cons first rest =>
        rcases List.mem_cons.mp member with rfl | later
        · exact started other rfl
        · exact well.headed other later

/-! ### Entering a member -/

namespace Catalog

/-- In front of members without a head, a class becomes their head, and any other
member joins them. -/
theorem enter_headless (member : Member) (followers : List Member)
    (groups : List Group) :
    enter member (⟨none, followers⟩ :: groups) =
      (if member.kind = .classType then ⟨some member, followers⟩
        else ⟨none, member :: followers⟩) :: groups := by
  by_cases isClass : member.kind = .classType
  · simp [enter, isClass]
  · simp [enter, isClass]

/-- In front of a headed group, a member starts a group of its own. -/
theorem enter_headed (member : Member) {groups : List Group}
    (started : StartsHeaded groups) :
    enter member groups =
      (if member.kind = .classType then ⟨some member, []⟩
        else ⟨none, [member]⟩) :: groups := by
  rcases groups with _ | ⟨⟨_ | head, followers⟩, others⟩
  · by_cases isClass : member.kind = .classType
    · simp [enter, isClass]
    · simp [enter, isClass]
  · exact absurd rfl (started ⟨none, followers⟩ rfl)
  · by_cases isClass : member.kind = .classType
    · simp [enter, isClass]
    · simp [enter, isClass]

/-- Groups either start with one that has no head, or they start headed. -/
theorem headless_or_startsHeaded (groups : List Group) :
    (∃ followers others, groups = ⟨none, followers⟩ :: others) ∨
      StartsHeaded groups := by
  rcases groups with _ | ⟨⟨_ | head, followers⟩, others⟩
  · exact Or.inr (by simp [StartsHeaded])
  · exact Or.inl ⟨followers, others, rfl⟩
  · exact Or.inr (by simp [StartsHeaded])

theorem flatMap_all_enter (member : Member) (groups : List Group) :
    (enter member groups).flatMap Group.all =
      member :: groups.flatMap Group.all := by
  rcases headless_or_startsHeaded groups with ⟨followers, others, rfl⟩ | started
  · rw [enter_headless]
    split <;> simp [Group.all]
  · rw [enter_headed member started]
    split <;> simp [Group.all]

/-- A member that enters groups in good form at their front leaves them so. -/
theorem wellGrouped_enter (member : Member) {groups : List Group}
    (well : WellGrouped groups) : WellGrouped (enter member groups) := by
  rcases headless_or_startsHeaded groups with ⟨followers, others, rfl⟩ | started
  · have first : Group.WellFormed ⟨none, followers⟩ :=
      well.wellFormed _ List.mem_cons_self
    have othersStarted := startsHeaded_of_wellGrouped_cons well
    rw [enter_headless]
    apply WellGrouped.cons _ othersStarted well.tail
    by_cases isClass : member.kind = .classType
    · rw [if_pos isClass]
      exact ⟨by simp [isClass], first.members_not_class, by simp⟩
    · rw [if_neg isClass]
      refine ⟨by simp, ?_, by simp⟩
      intro other present
      rcases List.mem_cons.mp present with rfl | later
      · exact isClass
      · exact first.members_not_class other later
  · rw [enter_headed member started]
    apply WellGrouped.cons _ started well
    by_cases isClass : member.kind = .classType
    · rw [if_pos isClass]
      exact ⟨by simp [isClass], by simp, by simp⟩
    · rw [if_neg isClass]
      exact ⟨by simp, by simp [isClass], by simp⟩

/-! ### Grouping a list of members -/

theorem groupsOf_cons (member : Member) (others : List Member) :
    groupsOf (member :: others) = enter member (groupsOf others) :=
  rfl

/-- The groups of members list these members in their order. -/
theorem flatMap_all_groupsOf (members : List Member) :
    (groupsOf members).flatMap Group.all = members := by
  induction members with
  | nil =>
      rfl
  | cons member others inductionHypothesis =>
      rw [groupsOf_cons, flatMap_all_enter, inductionHypothesis]

theorem wellGrouped_groupsOf (members : List Member) :
    WellGrouped (groupsOf members) := by
  induction members with
  | nil =>
      exact WellGrouped.nil
  | cons member others inductionHypothesis =>
      exact wellGrouped_enter member inductionHypothesis

/-- Members that are no classes form one group in front of a class. -/
theorem foldr_enter_others
    {members : List Member} (present : members ≠ [])
    (notClasses : ∀ member ∈ members, member.kind ≠ .classType)
    {groups : List Group} (started : StartsHeaded groups) :
    members.foldr enter groups = ⟨none, members⟩ :: groups := by
  induction members with
  | nil =>
      exact absurd rfl present
  | cons member others inductionHypothesis =>
      have notClass := notClasses member List.mem_cons_self
      -- The last member finds a headed group and opens one; those before it join that.
      cases others with
      | nil =>
          rw [List.foldr_cons, List.foldr_nil, enter_headed member started,
            if_neg notClass]
      | cons next rest =>
          have laterGrouped := inductionHypothesis (by simp) fun other later =>
            notClasses other (List.mem_cons_of_mem member later)
          rw [List.foldr_cons, laterGrouped, enter_headless, if_neg notClass]

/-- Entering the members of a group in good form in front of a class makes the
group again. -/
theorem foldr_enter_all
    {group : Group} (formed : group.WellFormed)
    {groups : List Group} (started : StartsHeaded groups) :
    group.all.foldr enter groups = group :: groups := by
  obtain ⟨head, members⟩ := group
  cases head with
  | none =>
      have present := formed.members_ne_nil rfl
      simpa [Group.all] using
        foldr_enter_others present formed.members_not_class started
  | some head =>
      have isClass := formed.head_class head rfl
      change enter head (members.foldr enter groups) = _
      by_cases present : members = []
      · subst present
        rw [List.foldr_nil, enter_headed head started, if_pos isClass]
      · rw [foldr_enter_others present formed.members_not_class started,
          enter_headless, if_pos isClass]

/-- Groups in good form are found again in the list of their members. -/
theorem groupsOf_flatMap_all
    {groups : List Group} (well : WellGrouped groups) :
    groupsOf (groups.flatMap Group.all) = groups := by
  induction groups with
  | nil =>
      rfl
  | cons group others inductionHypothesis =>
      have othersGrouped := inductionHypothesis well.tail
      rw [groupsOf] at othersGrouped
      rw [List.flatMap_cons, groupsOf, List.foldr_append, othersGrouped]
      exact foldr_enter_all (well.wellFormed group List.mem_cons_self)
        (startsHeaded_of_wellGrouped_cons well)

/-! ### Grouping from the front

Members may as well be grouped in the order in which they are read. A member then
goes behind the groups made so far. -/

/-- Puts a member behind groups. A class opens a group, and any other member joins
the last group, which it opens if there is none. -/
def append (groups : List Group) (member : Member) : List Group :=
  if member.kind.isClass then groups ++ [⟨some member, []⟩]
  else
    match groups.getLast? with
    | none => [⟨none, [member]⟩]
    | some last => groups.dropLast ++ [⟨last.head, last.members ++ [member]⟩]

theorem append_class {member : Member} (isClass : member.kind = .classType)
    (groups : List Group) : append groups member = groups ++ [⟨some member, []⟩] := by
  simp [append, isClass]

theorem append_other_nil {member : Member} (notClass : member.kind ≠ .classType) :
    append [] member = [⟨none, [member]⟩] := by
  simp [append, notClass]

theorem append_other_concat {member : Member} (notClass : member.kind ≠ .classType)
    (groups : List Group) (last : Group) :
    append (groups ++ [last]) member =
      groups ++ [⟨last.head, last.members ++ [member]⟩] := by
  simp [append, notClass]

theorem wellGrouped_concat_iff {groups : List Group} {last : Group} :
    WellGrouped (groups ++ [last]) ↔
      WellGrouped groups ∧ last.WellFormed ∧ (groups ≠ [] → last.head ≠ none) := by
  constructor
  · intro well
    refine ⟨⟨?_, ?_⟩, well.wellFormed last (by simp), ?_⟩
    · intro group member
      exact well.wellFormed group (List.mem_append_left [last] member)
    · intro group member
      cases groups with
      | nil =>
          simp at member
      | cons first rest =>
          exact well.headed group (List.mem_append_left [last] member)
    · intro present
      cases groups with
      | nil =>
          exact absurd rfl present
      | cons first rest =>
          exact well.headed last (by simp)
  · rintro ⟨well, formed, headed⟩
    constructor
    · intro group member
      rcases List.mem_append.mp member with earlier | isLast
      · exact well.wellFormed group earlier
      · rw [List.mem_singleton.mp isLast]
        exact formed
    · intro group member
      cases groups with
      | nil =>
          simp at member
      | cons first rest =>
          rcases List.mem_append.mp member with earlier | isLast
          · exact well.headed group earlier
          · rw [List.mem_singleton.mp isLast]
            exact headed (by simp)

theorem flatMap_all_append (groups : List Group) (member : Member) :
    (append groups member).flatMap Group.all =
      groups.flatMap Group.all ++ [member] := by
  by_cases isClass : member.kind = .classType
  · simp [append_class isClass, Group.all]
  · rcases List.eq_nil_or_concat' groups with rfl | ⟨front, last, rfl⟩
    · simp [append_other_nil isClass, Group.all]
    · simp [append_other_concat isClass, Group.all]

theorem wellGrouped_append {groups : List Group} (well : WellGrouped groups)
    (member : Member) : WellGrouped (append groups member) := by
  by_cases isClass : member.kind = .classType
  · rw [append_class isClass, wellGrouped_concat_iff]
    exact ⟨well, ⟨by simp [isClass], by simp, by simp⟩, by simp⟩
  · rcases List.eq_nil_or_concat' groups with rfl | ⟨front, last, rfl⟩
    · rw [append_other_nil isClass]
      exact WellGrouped.cons ⟨by simp, by simp [isClass], by simp⟩
        (by simp [StartsHeaded]) WellGrouped.nil
    · obtain ⟨frontWell, formed, headed⟩ := wellGrouped_concat_iff.mp well
      rw [append_other_concat isClass, wellGrouped_concat_iff]
      refine ⟨frontWell, ⟨formed.head_class, ?_, by simp⟩, headed⟩
      intro other present
      rcases List.mem_append.mp present with earlier | isLast
      · exact formed.members_not_class other earlier
      · rw [List.mem_singleton.mp isLast]
        exact isClass

/-- Grouping from the front keeps the groups in good form and lists one more member
at each step. -/
theorem foldl_append_wellGrouped (members : List Member) :
    ∀ {groups : List Group}, WellGrouped groups →
      WellGrouped (members.foldl append groups) ∧
        (members.foldl append groups).flatMap Group.all =
          groups.flatMap Group.all ++ members := by
  induction members with
  | nil =>
      intro groups well
      simpa using well
  | cons member others inductionHypothesis =>
      intro groups well
      have appended := inductionHypothesis (wellGrouped_append well member)
      rw [flatMap_all_append] at appended
      simpa using appended

/-- Both ways of grouping make the same groups, since there is only one list of
groups in good form for these members. -/
theorem groupsOf_eq_foldl_append (members : List Member) :
    groupsOf members = members.foldl append [] := by
  obtain ⟨well, listed⟩ := foldl_append_wellGrouped members WellGrouped.nil
  have sameMembers : (members.foldl append []).flatMap Group.all = members := by
    simpa using listed
  have regrouped := groupsOf_flatMap_all well
  rw [sameMembers] at regrouped
  exact regrouped

/-! ### Exports and catalogs -/

def toExport (catalog : Catalog) : Export :=
  ⟨catalog.title, catalog.members⟩

@[simp]
theorem members_ofExport (entries : Export) : (ofExport entries).members = entries.members :=
  flatMap_all_groupsOf entries.members

/-- No member is lost or moved when an export is grouped. -/
theorem toExport_ofExport (entries : Export) :
    (ofExport entries).toExport = entries := by
  rw [toExport, members_ofExport]
  rfl

/-- A catalog in good form is that of its own export. -/
theorem ofExport_toExport {catalog : Catalog}
    (well : WellGrouped catalog.groups) : ofExport catalog.toExport = catalog := by
  simp [toExport, ofExport, members, groupsOf_flatMap_all well]

/-- Making catalogs is a bijection from the exports to the catalogs whose groups are
in good form. It keeps the name of the assembly and the members in their order, and
it gives back any such catalog from the title and the members alone. -/
theorem ofExport_bijOn_wellGrouped :
    Set.BijOn ofExport Set.univ {catalog | WellGrouped catalog.groups} ∧
      (∀ entries : Export,
        WellGrouped (ofExport entries).groups ∧
          (ofExport entries).title = entries.assembly ∧
          (ofExport entries).members = entries.members) ∧
      ∀ catalog : Catalog,
        WellGrouped catalog.groups ↔
          ofExport ⟨catalog.title, catalog.members⟩ = catalog := by
  have grouped : ∀ entries : Export, WellGrouped (ofExport entries).groups :=
    fun entries => wellGrouped_groupsOf entries.members
  have inverse :
      Set.InvOn toExport ofExport Set.univ {catalog | WellGrouped catalog.groups} :=
    ⟨fun entries _ => toExport_ofExport entries, fun _ well => ofExport_toExport well⟩
  refine ⟨?_, ?_, ?_⟩
  · apply inverse.bijOn
    · intro entries _
      exact grouped entries
    · intro catalog _
      exact Set.mem_univ _
  · intro entries
    exact ⟨grouped entries, rfl, flatMap_all_groupsOf entries.members⟩
  · intro catalog
    constructor
    · intro well
      exact ofExport_toExport well
    · intro same
      rw [← same]
      exact grouped _

end Catalog

end ApiReference
