import ApiReference.Proofs.Headings
import ApiReference.Proofs.Text.CodeLines

/-! ## Blocks that are never blank

A section that is worth writing makes a block that shows something, and the members that
the notices call undocumented are those without such a section. Of these the heading alone
is written. -/

namespace ApiReference

open Text Markdown

/-! ### Solid blocks -/

namespace Markdown

/-- A block that is not empty and has nothing white at its ends. -/
structure IsSolidBlock (block : Text) : Prop where
  present : block ≠ []
  trimmed : Trimmed block

theorem isSolidBlock_trim {text : Text} (notBlank : isBlank text = false) :
    IsSolidBlock text.trim := by
  refine ⟨?_, trimmed_trim text⟩
  intro empty
  have blank : isBlank text.trim = true := by
    rw [empty]
    rfl
  rw [isBlank_trim, notBlank] at blank
  cases blank

/-- What starts with one solid block and ends with another is one as well. -/
theorem IsSolidBlock.append {first last : Text} (solidFirst : IsSolidBlock first)
    (solidLast : IsSolidBlock last) (between : Text) :
    IsSolidBlock (first ++ between ++ last) := by
  refine ⟨by simp [solidFirst.present], ?_, ?_⟩
  · intro c isFirst
    apply solidFirst.trimmed.start
    rw [List.append_assoc, List.head?_append_of_ne_nil _ solidFirst.present] at isFirst
    exact isFirst
  · intro c isLast
    apply solidLast.trimmed.finish
    rw [List.getLast?_append_of_ne_nil _ solidLast.present] at isLast
    exact isLast

/-- Solid blocks one after another are a solid block themselves. -/
theorem exists_separated_of_solid {blocks : List Text} (present : blocks ≠ [])
    (solid : ∀ block ∈ blocks, IsSolidBlock block) :
    ∃ body, IsSolidBlock body ∧
      blocks.flatMap (· ++ "\n\n".toList) = body ++ "\n\n".toList := by
  induction blocks with
  | nil =>
      exact absurd rfl present
  | cons block others inductionHypothesis =>
      have solidFirst := solid block List.mem_cons_self
      -- Without a later block there are no line feeds between blocks either.
      by_cases alone : others = []
      · exact ⟨block, solidFirst, by rw [alone, List.flatMap_singleton]⟩
      · obtain ⟨body, solidBody, same⟩ := inductionHypothesis alone
          fun other later => solid other (List.mem_cons_of_mem block later)
        refine ⟨block ++ "\n\n".toList ++ body, solidFirst.append solidBody _, ?_⟩
        rw [List.flatMap_cons, same]
        simp only [List.append_assoc]

end Markdown

/-! ### Sections -/

namespace Section

/-- Texts in normal form do not end in white space, be they prose or code. -/
theorem FromTag.getLast?_text {part : Section} (made : part.FromTag) {c : Char}
    (last : part.text.getLast? = some c) : isWhite c = false := by
  obtain ⟨tag, firstValue, text, rfl⟩ := made
  have proseEnd : text.normalProse.getLast? = some c → isWhite c = false :=
    (trimmed_normalProse text).finish c
  rcases ofTag_cases tag firstValue text with
    ⟨role, made⟩ | ⟨role, value, made⟩ | ⟨value, _, _, made⟩ | made
  · rw [made] at last
    by_cases isCode : role = .code
    · rw [isCode] at last
      exact getLast?_trimEnd last
    · rw [Section.text, Passage.normal_eq_normalProse isCode] at last
      exact proseEnd last
  · rw [made] at last
    exact proseEnd last
  · rw [made] at last
    cases last
  · rw [made] at last
    exact proseEnd last

theorem FromTag.isBlank_text {part : Section} (made : part.FromTag)
    (present : part.text ≠ []) : isBlank part.text = false := by
  obtain ⟨front, last, split⟩ := (List.eq_nil_or_concat' part.text).resolve_left present
  have solidEnd : isWhite last = false := by
    apply made.getLast?_text
    rw [split, List.getLast?_concat]
  rw [split, isBlank_append]
  simp [isBlank, solidEnd]

/-- No layout hides a text that is not blank. -/
theorem isBlank_layout_of_text {part : Section} (notBlank : isBlank part.text = false)
    (level : Nat) (language : Text) : isBlank (part.layout level language) = false := by
  obtain ⟨before, after, shown⟩ := text_infix_layout level language part
  rw [← shown, isBlank_append, isBlank_append, notBlank, Bool.and_false, Bool.false_and]

theorem isBlank_introduction (role : Subject) : isBlank role.introduction = false := by
  cases role <;> decide

/-- A section that is worth writing shows something: its text, or the words in front of
the subject or target that it names. -/
theorem isBlank_layout {part : Section} (made : part.FromTag)
    (written : part.isEmpty = false) (level : Nat) (language : Text) :
    isBlank (part.layout level language) = false := by
  cases part with
  | passage role text =>
      have present : text ≠ [] := List.isEmpty_eq_false_iff.mp written
      exact isBlank_layout_of_text (made.isBlank_text present) level language
  | described role subject text =>
      change isBlank (role.introduction ++ subject ++ ": ".toList ++ text) = false
      rw [List.append_assoc, List.append_assoc, isBlank_append, isBlank_introduction,
        Bool.false_and]
  | seeAlso target =>
      have solidWords : isBlank "See also: ".toList = false := by
        decide
      change isBlank ("See also: ".toList ++ target) = false
      rw [isBlank_append, solidWords, Bool.false_and]
  | other tag text =>
      have present : text ≠ [] := List.isEmpty_eq_false_iff.mp written
      exact isBlank_layout_of_text (made.isBlank_text present) level language

/-- The block of a section that is not empty is solid. -/
theorem isSolidBlock_block {part : Section} (made : part.FromTag)
    (written : part.isEmpty = false) (level : Nat) (language : Text) :
    IsSolidBlock (part.block level language) :=
  isSolidBlock_trim (isBlank_layout made written level language)

end Section

/-! ### Members -/

namespace Member

def writtenCount (member : Member) : Nat :=
  member.sections.countP fun part => !part.isEmpty

theorem length_writtenSections (member : Member) :
    member.writtenSections.length = member.writtenCount :=
  List.countP_eq_length_filter.symm

theorem writtenCount_eq_zero_iff {member : Member} :
    member.writtenCount = 0 ↔ member.isUndocumented = true := by
  rw [writtenCount, List.countP_eq_zero, isUndocumented, List.all_eq_true]
  simp

/-- A heading made of names starts with its mark and ends in its anchor, so it is solid. -/
theorem isSolidBlock_plainHeading (member : Member) : IsSolidBlock member.plainHeading := by
  obtain ⟨rest, mark⟩ : ∃ rest, member.headingMark = '#' :: rest := by
    rw [headingMark]
    split
    · exact ⟨_, rfl⟩
    · exact ⟨_, rfl⟩
  have ends : member.plainHeading =
      '#' :: (rest ++ member.shortName ++ "<a name=\"".toList ++ member.anchor ++
        "\"></a".toList ++ ['>']) := by
    rw [plainHeading_eq, mark]
    simp
  rw [ends]
  exact ⟨List.cons_ne_nil _ _, trimmed_between (by decide) (by decide) _⟩

/-- The documentation of a member in solid blocks: one for each section that is worth
writing, and one more for the heading of a member that is given no name. So there is
always one. Where no section is worth writing, the notices say so, and the heading is all
there is. -/
structure InSolidBlocks (member : Member) (language : Text) : Prop where
  separated_blocks :
    member.documentation language =
      (member.blocks language).flatMap (· ++ "\n\n".toList)
  solid : ∀ block ∈ member.blocks language, IsSolidBlock block
  length_unnamed :
    member.Unnamed → (member.blocks language).length = 1 + member.writtenCount
  length_named :
    ¬ member.Unnamed → (member.blocks language).length = member.writtenCount
  present : 1 ≤ (member.blocks language).length
  section_solid : ∀ part ∈ member.sections, part.isEmpty = false →
    IsSolidBlock (part.block member.headingDepth language)
  noticed_iff :
    Notice.undocumented member.rawName ∈ Catalog.memberNotices member ↔
      member.writtenCount = 0
  bare : member.writtenCount = 0 →
    member.Unnamed ∧
      member.documentation language =
        member.headingMark ++ member.shortName ++ "<a name=\"".toList ++ member.anchor ++
          "\"></a>".toList ++ "\n\n".toList

theorem length_blocks_unnamed {member : Member} (unnamed : member.Unnamed)
    (language : Text) : (member.blocks language).length = 1 + member.writtenCount := by
  rw [blocks, givenName_eq_none_iff.mpr unnamed, Option.isNone_none, if_pos rfl,
    List.length_append, List.length_map, length_writtenSections, List.length_singleton]

theorem length_blocks_named {member : Member} (named : ¬ member.Unnamed)
    (language : Text) : (member.blocks language).length = member.writtenCount := by
  have given : member.givenName.isNone ≠ true := by
    rw [Ne, Option.isNone_iff_eq_none, givenName_eq_none_iff]
    exact named
  rw [blocks, if_neg given, List.nil_append, List.length_map, length_writtenSections]

/-- A name that is given is worth writing. -/
theorem unnamed_of_writtenCount_eq_zero {member : Member}
    (noneWritten : member.writtenCount = 0) : member.Unnamed := by
  intro text present
  rw [writtenCount, List.countP_eq_zero] at noneWritten
  have empty := noneWritten _ present
  simpa [Section.isEmpty] using empty

theorem undocumented_mem_memberNotices_iff (member : Member) :
    Notice.undocumented member.rawName ∈ Catalog.memberNotices member ↔
      member.writtenCount = 0 := by
  rw [writtenCount_eq_zero_iff, Catalog.memberNotices]
  by_cases undocumented : member.isUndocumented = true
  · simp [undocumented]
  · simp [undocumented]

theorem one_le_length_blocks (member : Member) (language : Text) :
    1 ≤ (member.blocks language).length := by
  by_cases unnamed : member.Unnamed
  · rw [length_blocks_unnamed unnamed]
    exact Nat.le_add_right 1 _
  · rw [length_blocks_named unnamed]
    have written := mt unnamed_of_writtenCount_eq_zero unnamed
    exact Nat.one_le_iff_ne_zero.mpr written

theorem documentation_of_writtenCount_eq_zero {member : Member}
    (noneWritten : member.writtenCount = 0) (language : Text) :
    member.documentation language = member.plainHeading ++ "\n\n".toList := by
  have unnamed := unnamed_of_writtenCount_eq_zero noneWritten
  have noSections : member.writtenSections = [] := by
    rw [← List.length_eq_zero_iff, length_writtenSections, noneWritten]
  rw [documentation, blocks, givenName_eq_none_iff.mpr unnamed, noSections]
  simp [separated]

theorem isSolidBlock_of_mem_blocks {member : Member} {language block : Text}
    (sectionSolid : ∀ part ∈ member.sections, part.isEmpty = false →
      IsSolidBlock (part.block member.headingDepth language))
    (present : block ∈ member.blocks language) : IsSolidBlock block := by
  rcases List.mem_append.mp present with isHeading | ofSection
  · split at isHeading
    · rw [List.mem_singleton.mp isHeading]
      exact member.isSolidBlock_plainHeading
    · cases isHeading
  · obtain ⟨part, listed, rfl⟩ := List.mem_map.mp ofSection
    obtain ⟨among, written⟩ := List.mem_filter.mp listed
    exact sectionSolid part among (by simpa using written)

/-- A member whose sections are made of tags is documented in solid blocks. -/
theorem inSolidBlocks {member : Member} (made : ∀ part ∈ member.sections, part.FromTag)
    (language : Text) : member.InSolidBlocks language := by
  have sectionSolid : ∀ part ∈ member.sections, part.isEmpty = false →
      IsSolidBlock (part.block member.headingDepth language) := by
    intro part present written
    exact Section.isSolidBlock_block (made part present) written _ language
  constructor
  case separated_blocks => rfl
  case solid => exact fun _ => isSolidBlock_of_mem_blocks sectionSolid
  case length_unnamed => exact (length_blocks_unnamed · language)
  case length_named => exact (length_blocks_named · language)
  case present => exact member.one_le_length_blocks language
  case section_solid => exact sectionSolid
  case noticed_iff => exact undocumented_mem_memberNotices_iff member
  case bare =>
    intro noneWritten
    rw [← plainHeading_eq]
    exact ⟨unnamed_of_writtenCount_eq_zero noneWritten,
      documentation_of_writtenCount_eq_zero noneWritten language⟩

end Member

/-! ### Catalogs -/

/-- The warnings about the members of an export are those about members without sections
that are worth writing. -/
theorem Catalog.warnings_eq (entries : Export) :
    (notices entries).filter (·.level = .warning) =
      (entries.members.filter (·.writtenCount = 0)).map fun member =>
        .undocumented member.rawName := by
  rw [notices]
  induction entries.members with
  | nil =>
      rfl
  | cons member others inductionHypothesis =>
      rw [List.flatMap_cons, List.filter_append, inductionHypothesis, List.filter_cons,
        memberNotices]
      by_cases undocumented : member.isUndocumented = true
      · rw [if_pos undocumented,
          if_pos (by simpa using Member.writtenCount_eq_zero_iff.mpr undocumented)]
        rfl
      · rw [if_neg undocumented,
          if_neg (by simpa using mt Member.writtenCount_eq_zero_iff.mp undocumented)]
        rfl

/-- The documentation of members is written in blocks that are never blank, and that of a
whole catalog neither starts nor ends with a blank one. The warnings are about those
members of which only a heading is written. -/
theorem documentation_in_solid_blocks (catalog : Catalog) (language : Text)
    (made : ∀ member ∈ catalog.members, ∀ part ∈ member.sections, part.FromTag) :
    (∀ member ∈ catalog.members, member.InSolidBlocks language) ∧
      (catalog.members ≠ [] →
        ∃ body, IsSolidBlock body ∧
          catalog.documentation language = body ++ "\n\n".toList) ∧
      ∀ entries : Export, entries.members = catalog.members →
        (Catalog.notices entries).filter (·.level = .warning) =
          (catalog.members.filter (·.writtenCount = 0)).map fun member =>
            .undocumented member.rawName := by
  have inBlocks : ∀ member ∈ catalog.members, member.InSolidBlocks language := by
    intro member present
    exact Member.inSolidBlocks (made member present) language
  refine ⟨inBlocks, ?_, ?_⟩
  · intro present
    have allBlocks : catalog.documentation language =
        (catalog.members.flatMap (·.blocks language)).flatMap (· ++ "\n\n".toList) := by
      rw [List.flatMap_assoc]
      rfl
    obtain ⟨member, others, split⟩ := List.exists_cons_of_ne_nil present
    have first : member ∈ catalog.members := by
      rw [split]
      exact List.mem_cons_self
    rw [allBlocks]
    apply exists_separated_of_solid
    · rw [split, List.flatMap_cons]
      have blocksPresent := (inBlocks member first).present
      exact List.append_ne_nil_of_left_ne_nil (List.ne_nil_of_length_pos blocksPresent) _
    · intro block within
      obtain ⟨owner, among, ofOwner⟩ := List.mem_flatMap.mp within
      exact (inBlocks owner among).solid block ofOwner
  · intro entries sameMembers
    rw [Catalog.warnings_eq, sameMembers]

/-- A property all of whose sections are blank. -/
def blankProperty : Member :=
  ⟨.property, "Shapes.Size".toList, by decide,
    [.ofTag "name".toList none " ".toList, .ofTag "code".toList none " \n ".toList,
      .ofTag "note".toList none []]⟩

def bareMethod : Member :=
  ⟨.method, "Shapes.Scale".toList, by decide,
    [.ofTag "param".toList (some []) " ".toList, .ofTag "seealso".toList (some []) []]⟩

def bareCatalog : Catalog :=
  ⟨none, [⟨none, [blankProperty, bareMethod]⟩]⟩

theorem bareCatalog_fromTag :
    ∀ member ∈ bareCatalog.members, ∀ part ∈ member.sections, part.FromTag := by
  simp [bareCatalog, blankProperty, bareMethod, Catalog.members, Group.all]

theorem documentation_in_solid_blocks_bareCatalog :
    (∀ member ∈ bareCatalog.members, ∀ part ∈ member.sections, part.FromTag) ∧
      blankProperty.documentation "cs".toList =
        "#### Size<a name=\"shapes.size\"></a>\n\n".toList ∧
      (bareMethod.blocks "cs".toList).length = 3 ∧
      (∀ block ∈ bareMethod.blocks "cs".toList, IsSolidBlock block) ∧
      (Catalog.notices ⟨none, bareCatalog.members⟩).filter (·.level = .warning) =
        [.undocumented "P:Shapes.Size".toList] := by
  have blankAmong : blankProperty ∈ bareCatalog.members := by
    simp [bareCatalog, Catalog.members, Group.all]
  have bareAmong : bareMethod ∈ bareCatalog.members := by
    simp [bareCatalog, Catalog.members, Group.all]
  have noneWritten : blankProperty.writtenCount = 0 := by
    decide +kernel
  have unnamed : bareMethod.Unnamed := by
    apply Member.givenName_eq_none_iff.mp
    decide +kernel
  have counted : bareMethod.writtenCount = 2 := by
    decide +kernel
  obtain ⟨inBlocks, _, warned⟩ :=
    documentation_in_solid_blocks bareCatalog "cs".toList bareCatalog_fromTag
  have lengths := (inBlocks bareMethod bareAmong).length_unnamed unnamed
  rw [counted] at lengths
  have heading := ((inBlocks blankProperty blankAmong).bare noneWritten).2
  refine ⟨bareCatalog_fromTag, heading.trans (by decide +kernel), lengths,
    (inBlocks bareMethod bareAmong).solid, ?_⟩
  rw [warned ⟨none, bareCatalog.members⟩ rfl]
  decide +kernel

end ApiReference
