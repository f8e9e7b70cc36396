import ApiReference.Markdown.MemberBlocks
import ApiReference.Proofs.Text.Lines

/-! ## Sections and the blocks they make

A section that an export makes holds its text in normal form. Its block shows all of
that text but for white space. -/

namespace ApiReference.Section

open Text

/-! ### Sections of an export -/

/-- Whether a section is made of a tag, the value of its first attribute and a text,
as those of an export are. -/
def FromTag (part : Section) : Prop :=
  ∃ tag firstValue text, part = ofTag tag firstValue text

@[simp]
theorem fromTag_ofTag (tag : Text) (firstValue : Option Text) (text : Text) :
    (ofTag tag firstValue text).FromTag :=
  ⟨tag, firstValue, text, rfl⟩

/-- Every section is a passage, or describes what its first attribute names, or points
to it, or keeps its tag; the text is in normal form in all of them. -/
theorem ofTag_cases (tag : Text) (firstValue : Option Text) (text : Text) :
    (∃ role, ofTag tag firstValue text = passage role (role.normal text)) ∨
      (∃ role value, ofTag tag firstValue text = described role value text.normalProse) ∨
      (∃ value, tag = seeAlsoTag ∧ firstValue = some value ∧
        ofTag tag firstValue text = seeAlso value) ∨
      ofTag tag firstValue text = other tag text.normalProse := by
  unfold ofTag
  cases Passage.ofTag? tag with
  | some role =>
      exact Or.inl ⟨role, rfl⟩
  | none =>
      cases firstValue with
      | none =>
          exact Or.inr (Or.inr (Or.inr rfl))
      | some value =>
          cases Subject.ofTag? tag with
          | some role =>
              exact Or.inr (Or.inl ⟨role, value, rfl⟩)
          | none =>
              by_cases pointer : tag = seeAlsoTag
              · exact Or.inr (Or.inr (Or.inl ⟨value, pointer, rfl, if_pos pointer⟩))
              · exact Or.inr (Or.inr (Or.inr (if_neg pointer)))

theorem FromTag.passage_normal {role : Passage} {text : Text}
    (made : (passage role text).FromTag) : ∃ raw, text = role.normal raw := by
  obtain ⟨tag, firstValue, raw, same⟩ := made
  rcases ofTag_cases tag firstValue raw with
    ⟨madeRole, made⟩ | ⟨madeRole, value, made⟩ | ⟨value, _, _, made⟩ | made
  · rw [made] at same
    cases same
    exact ⟨raw, rfl⟩
  · rw [made] at same
    cases same
  · rw [made] at same
    cases same
  · rw [made] at same
    cases same

theorem FromTag.name_trimmed {name : Text}
    (made : (passage .name name).FromTag) : Trimmed name := by
  obtain ⟨raw, rfl⟩ := made.passage_normal
  exact trimmed_normalProse raw

/-- Whether a section leaves out the text it is made of: it points to another symbol,
which the first attribute of its tag names. -/
def Points (tag : Text) (firstValue : Option Text) : Prop :=
  tag = seeAlsoTag ∧ firstValue ≠ none

/-- A normal form takes white space alone from a text. -/
theorem solid_normal (role : Passage) (text : Text) :
    solid (role.normal text) = solid text := by
  cases role with
  | code =>
      exact solid_normalCode text
  | name | summary | returns | remarks | inlineCode | sample | value =>
      exact solid_normalProse text

/-- Any other section holds all of its text that is not white. -/
theorem solid_text_ofTag {tag : Text} {firstValue : Option Text}
    (holdsText : ¬ Points tag firstValue) (text : Text) :
    solid (ofTag tag firstValue text).text = solid text := by
  rcases ofTag_cases tag firstValue text with
    ⟨role, made⟩ | ⟨role, value, made⟩ | ⟨value, pointer, given, made⟩ | made
  · rw [made]
    exact solid_normal role text
  · rw [made]
    exact solid_normalProse text
  · exact absurd ⟨pointer, by simp [given]⟩ holdsText
  · rw [made]
    exact solid_normalProse text

theorem text_eq_nil_of_isEmpty {part : Section} (empty : part.isEmpty = true) :
    part.text = [] := by
  cases part with
  | passage role text =>
      exact List.isEmpty_iff.mp empty
  | described role subject text =>
      simp [isEmpty] at empty
  | seeAlso target =>
      simp [isEmpty] at empty
  | other tag text =>
      exact List.isEmpty_iff.mp empty

/-! ### Blocks -/

/-- The layout of a passage shows its text in one piece. -/
theorem text_infix_passage (role : Passage) (level : Nat) (language text : Text) :
    text <:+: role.layout level language text := by
  cases role with
  | name =>
      exact (List.suffix_append _ text).isInfix
  | summary =>
      exact List.infix_rfl
  | returns =>
      exact (List.suffix_append _ text).isInfix
  | remarks =>
      exact (List.suffix_append _ text).isInfix
  | code =>
      have inner : text <:+: Markdown.fence ++ language ++ ['\n'] ++ text ++ ['\n'] :=
        List.infix_append _ text ['\n']
      exact inner.trans (List.prefix_append _ Markdown.fence).isInfix
  | inlineCode =>
      exact ⟨['`'], ['`'], rfl⟩
  | sample =>
      exact (List.suffix_append _ text).isInfix
  | value =>
      exact (List.suffix_append _ text).isInfix

/-- The layout of a section shows its text in one piece. -/
theorem text_infix_layout (level : Nat) (language : Text) (part : Section) :
    part.text <:+: part.layout level language := by
  cases part with
  | passage role text =>
      exact text_infix_passage role level language text
  | described role subject text =>
      exact (List.suffix_append _ text).isInfix
  | seeAlso target =>
      exact List.nil_infix
  | other tag text =>
      exact List.infix_rfl

/-- So does its block, but for white space. -/
theorem solid_text_infix_block (level : Nat) (language : Text) (part : Section) :
    solid part.text <:+: solid (part.block level language) := by
  obtain ⟨before, after, shown⟩ := text_infix_layout level language part
  rw [block, solid_trim, ← shown]
  exact ⟨solid before, solid after, by simp⟩

theorem trimmed_heading {name : Text} (trimmed : Trimmed name) (given : name ≠ [])
    {level : Nat} (positive : 0 < level) : Trimmed (Markdown.heading level name) := by
  obtain ⟨depth, rfl⟩ := Nat.exists_eq_add_of_lt positive
  constructor
  · intro c first
    have hash : '#' = c := by
      simpa [Markdown.heading, List.replicate_succ] using first
    rw [← hash]
    decide
  · intro c last
    apply trimmed.finish c
    rw [Markdown.heading, List.getLast?_append_of_ne_nil _ given] at last
    exact last

/-- The block of a name that is not empty is a heading. -/
theorem block_name {name : Text} (trimmed : Trimmed name) (given : name ≠ [])
    {level : Nat} (positive : 0 < level) (language : Text) :
    (passage .name name).block level language = Markdown.heading level name :=
  trim_eq_self (trimmed_heading trimmed given positive)

end ApiReference.Section
