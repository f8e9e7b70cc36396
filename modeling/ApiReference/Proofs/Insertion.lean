import ApiReference.Proofs.Numbering

/-! ## One member more

When a member comes in between others, or goes again, the catalog and the document change
in that place only. A class takes the members behind it into its own group and moves the
numbers of the later classes on by one; any other member joins a group that is there. -/

namespace ApiReference

open Markdown

/-! ### Groups of members in a row -/

theorem Group.WellFormed.all_ne_nil {group : Group} (formed : group.WellFormed) :
    group.all ≠ [] := by
  cases headed : group.head with
  | none =>
      simpa [Group.all, headed] using formed.members_ne_nil headed
  | some head =>
      simp [Group.all, headed]

namespace Catalog

def classFree (members : List Member) : List Member :=
  members.takeWhile fun member => !member.kind.isClass

def fromClass (members : List Member) : List Member :=
  members.dropWhile fun member => !member.kind.isClass

section Leading

variable {member : Member} (others : List Member)

theorem classFree_class (isClass : member.kind = .classType) :
    classFree (member :: others) = [] := by
  simp [classFree, isClass]

theorem fromClass_class (isClass : member.kind = .classType) :
    fromClass (member :: others) = member :: others := by
  simp [fromClass, isClass]

theorem classFree_other (notClass : member.kind ≠ .classType) :
    classFree (member :: others) = member :: classFree others :=
  List.takeWhile_cons_of_pos (by simpa using notClass)

theorem fromClass_other (notClass : member.kind ≠ .classType) :
    fromClass (member :: others) = fromClass others :=
  List.dropWhile_cons_of_pos (by simpa using notClass)

end Leading

/-- Members that are read behind groups join the last one up to their first class, and
are grouped on their own from there. -/
theorem foldl_append_concat (members : List Member) :
    ∀ (front : List Group) (head : Option Member) (listed : List Member),
      members.foldl append (front ++ [⟨head, listed⟩]) =
        front ++ ⟨head, listed ++ classFree members⟩ :: groupsOf (fromClass members) := by
  -- Of the groups made so far only the last one still grows. It is closed by the next
  -- class, and the groups behind it are made as if nothing had been read before.
  induction members with
  | nil =>
      intro front head listed
      simp [classFree, fromClass, groupsOf]
  | cons member others inductionHypothesis =>
      intro front head listed
      rw [List.foldl_cons]
      by_cases isClass : member.kind = .classType
      · have opened : groupsOf (member :: others) =
            ⟨some member, classFree others⟩ :: groupsOf (fromClass others) := by
          rw [groupsOf_eq_foldl_append, List.foldl_cons, append_class isClass]
          exact inductionHypothesis [] (some member) []
        rw [append_class isClass, inductionHypothesis, classFree_class others isClass,
          fromClass_class others isClass, opened]
        simp
      · rw [append_other_concat isClass, inductionHypothesis, classFree_other others isClass,
          fromClass_other others isClass, List.append_assoc, List.singleton_append]

/-- Members behind others join the last group, up to the first class among them. -/
theorem groupsOf_append {before : List Member} {front : List Group} {last : Group}
    (grouped : groupsOf before = front ++ [last]) (after : List Member) :
    groupsOf (before ++ after) =
      front ++ ⟨last.head, last.members ++ classFree after⟩ :: groupsOf (fromClass after) := by
  rw [groupsOf_eq_foldl_append, List.foldl_append, ← groupsOf_eq_foldl_append, grouped]
  exact foldl_append_concat after front last.head last.members

/-- A class opens a group behind those of the members in front. -/
theorem groupsOf_append_class {member : Member} (isClass : member.kind = .classType)
    (before after : List Member) :
    groupsOf (before ++ member :: after) =
      groupsOf before ++ ⟨some member, classFree after⟩ :: groupsOf (fromClass after) := by
  rw [groupsOf_eq_foldl_append, List.foldl_append, ← groupsOf_eq_foldl_append, List.foldl_cons,
    append_class isClass]
  exact foldl_append_concat after (groupsOf before) (some member) []

/-- The last of some members is the last one in the last of their groups. -/
theorem exists_last_group {members : List Member} (present : members ≠ []) :
    ∃ front last,
      groupsOf members = front ++ [last] ∧ last.all.getLast? = members.getLast? := by
  have listed := flatMap_all_groupsOf members
  have well := wellGrouped_groupsOf members
  rcases List.eq_nil_or_concat' (groupsOf members) with none | ⟨front, last, split⟩
  · rw [none] at listed
    exact absurd listed.symm present
  · have formed : last.WellFormed := well.wellFormed last (by simp [split])
    refine ⟨front, last, split, ?_⟩
    rw [split, List.flatMap_append, List.flatMap_singleton] at listed
    rw [← listed, List.getLast?_append_of_ne_nil _ formed.all_ne_nil]

/-! ### A member between others -/

/-- What a member that is no class does to the groups and the entries around it. It comes
right behind the last of the members before it, in the group of that one; with none before
it, it comes first among the members without a class, or is the only one of these. -/
structure JoinsOthers (before after : List Member) (member : Member) : Prop where
  behind_last : before ≠ [] → ∃ front last,
    groupsOf before = front ++ [last] ∧ last.all.getLast? = before.getLast? ∧
      groupsOf (before ++ after) =
        front ++ ⟨last.head, last.members ++ classFree after⟩ :: groupsOf (fromClass after) ∧
      groupsOf (before ++ member :: after) =
        front ++ ⟨last.head, last.members ++ member :: classFree after⟩ ::
          groupsOf (fromClass after)
  in_front : before = [] →
    (∃ leading later,
      groupsOf after = ⟨none, leading⟩ :: later ∧
        groupsOf (member :: after) = ⟨none, member :: leading⟩ :: later) ∨
      StartsHeaded (groupsOf after) ∧
        groupsOf (member :: after) = ⟨none, [member]⟩ :: groupsOf after
  entries_kept : ∃ later,
    entries (before ++ after) = entries before ++ later ∧
      entries (before ++ member :: after) =
        entries before ++
          ("- [".toList ++ member.longName ++ "](#".toList ++ member.anchor ++
            ")\n".toList) :: later

/-- What a class does to the groups and the entries around it. It opens a group in which
the members behind it stand up to the next class, and it takes a number, so that the
numbers behind it are the next ones. -/
structure OpensGroup (before after : List Member) (member : Member) : Prop where
  groups_eq :
    groupsOf (before ++ member :: after) =
      groupsOf before ++ ⟨some member, classFree after⟩ :: groupsOf (fromClass after)
  entries_renumbered : ∃ later renumbered,
    entries (before ++ after) = entries before ++ later ∧
      entries (before ++ member :: after) =
        entries before ++
          (['\n'] ++ Nat.toDigits 10 (classCount before + 1) ++ ". [".toList ++
            member.longName ++ "](#".toList ++ member.anchor ++ ")\n".toList) ::
              renumbered ∧
      List.Forall₂ NextNumber later renumbered

/-- Whether the classes of a list bear the numbers from one on in their order, and no
other member bears one or leaves one out. -/
structure NumbersClasses (members : List Member) : Prop where
  consecutive :
    (entries members).filterMap entryNumber? = List.range' 1 (classCount members)
  borne : ∀ (index : Nat) (member : Member), members[index]? = some member →
    (entries members)[index]?.bind entryNumber? =
      if member.kind.isClass then some (1 + classCount (members.take index)) else none

theorem entries_append (before after : List Member) :
    entries (before ++ after) =
      entries before ++ entriesFrom (classCount before + 1) after := by
  rw [entries, entriesFrom_append, Nat.add_comm]
  rfl

/-- An entry more moves the numbers behind it on, if it is that of a class. -/
theorem entries_append_cons (before after : List Member) (member : Member) :
    entries (before ++ member :: after) =
      entries before ++ member.entry (classCount before + 1) ::
        entriesFrom
          (if member.kind.isClass then classCount before + 1 + 1 else classCount before + 1)
          after := by
  rw [entries_append, entriesFrom]

theorem joinsOthers (before after : List Member) {member : Member}
    (notClass : member.kind ≠ .classType) : JoinsOthers before after member := by
  constructor
  · intro present
    obtain ⟨front, last, grouped, isLast⟩ := exists_last_group present
    refine ⟨front, last, grouped, isLast, groupsOf_append grouped after, ?_⟩
    rw [groupsOf_append grouped, classFree_other after notClass,
      fromClass_other after notClass]
  · intro _
    rcases headless_or_startsHeaded (groupsOf after) with ⟨leading, later, split⟩ | started
    · refine Or.inl ⟨leading, later, split, ?_⟩
      rw [groupsOf_cons, split, enter_headless, if_neg notClass]
    · refine Or.inr ⟨started, ?_⟩
      rw [groupsOf_cons, enter_headed member started, if_neg notClass]
  · refine ⟨_, entries_append before after, ?_⟩
    rw [entries_append_cons, entry_of_other notClass, if_neg (by simpa using notClass)]
    simp only [link, List.append_assoc]
    rfl

theorem opensGroup (before after : List Member) {member : Member}
    (isClass : member.kind = .classType) : OpensGroup before after member := by
  constructor
  · exact groupsOf_append_class isClass before after
  · refine ⟨_, _, entries_append before after, ?_,
      nextNumber_entriesFrom (classCount before + 1) after⟩
    rw [entries_append_cons, entry_of_class isClass, if_pos (Kind.isClass_iff.mpr isClass)]
    simp only [numbered, link, List.append_assoc]
    rfl

theorem numbersClasses (members : List Member) : NumbersClasses members := by
  constructor
  · exact filterMap_entryNumber?_entriesFrom 1 members
  · intro index member found
    exact entryNumber?_entriesFrom 1 found

theorem documentation_ofExport (assembly : Option Text) (members : List Member)
    (language : Text) :
    (ofExport ⟨assembly, members⟩).documentation language =
      members.flatMap (·.documentation language) := by
  rw [documentation, members_ofExport]

/-- A member that comes in between others leaves all else in the catalog and the document
as it was. Its documentation stands between theirs; the entries before it stay; and the
groups and entries behind it change in nothing but what a class takes over and counts. -/
theorem insertion_local (assembly : Option Text) (before after : List Member)
    (member : Member) (language : Text) :
    (ofExport ⟨assembly, before ++ after⟩).documentation language =
        (ofExport ⟨assembly, before⟩).documentation language ++
          (ofExport ⟨assembly, after⟩).documentation language ∧
      (ofExport ⟨assembly, before ++ member :: after⟩).documentation language =
        (ofExport ⟨assembly, before⟩).documentation language ++
          member.documentation language ++
            (ofExport ⟨assembly, after⟩).documentation language ∧
      (member.kind ≠ .classType → JoinsOthers before after member) ∧
      (member.kind = .classType → OpensGroup before after member) ∧
      ∀ members : List Member,
        (ofExport ⟨assembly, members⟩).groups = groupsOf members ∧
          (ofExport ⟨assembly, members⟩).featureList = (entries members).flatten ∧
          NumbersClasses members := by
  refine ⟨?_, ?_, joinsOthers before after, opensGroup before after, ?_⟩
  · simp only [documentation_ofExport, List.flatMap_append]
  · simp only [documentation_ofExport, List.flatMap_append, List.flatMap_cons,
      List.append_assoc]
  · intro members
    refine ⟨rfl, ?_, numbersClasses members⟩
    rw [featureList, members_ofExport]

def sphereClass : Member :=
  ⟨.classType, "Solids.Sphere".toList, by decide, []⟩

def cubeClass : Member :=
  ⟨.classType, "Solids.Cube".toList, by decide, []⟩

def volumeMethod : Member :=
  ⟨.method, "Solids.Volume".toList, by decide, []⟩

/-- A class that comes in takes the method behind it over, and one that is no class joins
the group that it finds. -/
theorem insertion_local_sphereClass :
    sphereClass.kind = .classType ∧ volumeMethod.kind ≠ .classType ∧
      OpensGroup [volumeMethod] [volumeMethod, cubeClass] sphereClass ∧
      JoinsOthers [sphereClass] [cubeClass] volumeMethod := by
  have isClass : sphereClass.kind = .classType := by
    rfl
  have notClass : volumeMethod.kind ≠ .classType := by
    decide
  obtain ⟨_, _, _, opens, _⟩ :=
    insertion_local none [volumeMethod] [volumeMethod, cubeClass] sphereClass "cs".toList
  obtain ⟨_, _, joins, _⟩ :=
    insertion_local none [sphereClass] [cubeClass] volumeMethod "cs".toList
  exact ⟨isClass, notClass, opens isClass, joins notClass⟩

example :
    entries [volumeMethod, sphereClass, volumeMethod, cubeClass] =
      ["- [Solids.Volume](#solids.volume)\n".toList,
        "\n1. [Solids.Sphere](#solids.sphere)\n".toList,
        "- [Solids.Volume](#solids.volume)\n".toList,
        "\n2. [Solids.Cube](#solids.cube)\n".toList] := by
  decide +kernel

end Catalog

end ApiReference
