import ApiReference.Markdown.FeatureList
import ApiReference.Proofs.Sections
import ApiReference.Proofs.Text.Indents
import ApiReference.Proofs.TreeChanges
import Mathlib.Data.List.Forall2

/-! ## Exports that are indented anew

How far the lines of an export are indented does not matter to its prose: the sections
made of it are the same, and so is all that is written of the members. Only code keeps
its indentation. -/

namespace ApiReference

open Text Markup

/-! ### Indentation in trees -/

namespace Markup.Node

inductive Indented : List Node → List Node → Prop
  | text {old new : Text} : IndentAdded old new → Indented [.text old] [.text new]

abbrev SameOrIndented : Text → Text → Prop :=
  Relation.ReflGen IndentAdded

/-- An indentation more stays behind its line feed whatever stands around. -/
theorem contextual_sameOrIndented : Contextual SameOrIndented := by
  refine ⟨fun _ => Relation.ReflGen.refl, ?_, ?_⟩
  · intro old new before after related
    cases related with
    | refl =>
        exact Relation.ReflGen.refl
    | single added =>
        exact Relation.ReflGen.single (added.around before after)
  · intro old new related
    cases related with
    | refl =>
        rfl
    | single added =>
        exact isBlank_of_indentAdded added

theorem normalProse_of_sameOrIndented {old new : Text} (related : SameOrIndented old new) :
    old.normalProse = new.normalProse := by
  cases related with
  | refl =>
      rfl
  | single added =>
      exact normalProse_of_indentAdded added

/-- Indentation below an element is lost in its prose. -/
theorem normalProse_of_changedBelow {node changed : Node}
    (below : ChangedBelow Indented node changed) :
    node.elementText.normalProse = changed.elementText.normalProse := by
  apply normalProse_of_sameOrIndented
  apply below.elementText contextual_sameOrIndented
  intro old new changes
  cases changes with
  | text added =>
      simpa [shownTexts, shownText] using Relation.ReflGen.single added

end Markup.Node

/-! ### Sections -/

theorem Section.ofTag_eq_of_normalProse {tag old new : Text}
    (notCode : tag ≠ Passage.code.tag) (same : old.normalProse = new.normalProse)
    (firstValue : Option Text) : ofTag tag firstValue old = ofTag tag firstValue new := by
  unfold ofTag
  cases found : Passage.ofTag? tag with
  | some role =>
      have roleNotCode : role ≠ .code := by
        rintro rfl
        exact notCode (Passage.tag_of_ofTag? found).symm
      simp only [Passage.normal_eq_normalProse roleNotCode, same]
  | none =>
      simp only [same]

namespace Export

open Markup.Node

/-- A child of a member is indented anew: it is no element `code`, and spaces and tabs
behind line feeds in texts below it come in or go, any number of times. -/
def Reindented (child changed : Node) : Prop :=
  child.isLabelled Passage.code.tag = false ∧
    Relation.EqvGen (ChangedBelow Indented) child changed

theorem Reindented.sectionOf_eq {child changed : Node}
    (reindented : Reindented child changed) : sectionOf child = sectionOf changed := by
  obtain ⟨notCode, joined⟩ := reindented
  have sameLabel : child.label? = changed.label? :=
    ChangedBelow.eq_of_eqvGen (fun _ _ below => below.label?_eq) joined
  have sameAttributes : child.attributes = changed.attributes :=
    ChangedBelow.eq_of_eqvGen (fun _ _ below => below.attributes_eq) joined
  have sameProse : child.elementText.normalProse = changed.elementText.normalProse :=
    @ChangedBelow.eq_of_eqvGen _ _ _ _ (fun node => node.elementText.normalProse)
      (fun _ _ below => normalProse_of_changedBelow below) joined
  have tagNotCode : child.label?.getD [] ≠ Passage.code.tag := by
    cases named : child.label? with
    | none =>
        decide
    | some label =>
        simpa [isLabelled, named] using notCode
  rw [sectionOf, sectionOf, ← sameLabel, ← sameAttributes]
  exact Section.ofTag_eq_of_normalProse tagNotCode sameProse _

theorem Reindented.isElement_eq {child changed : Node}
    (reindented : Reindented child changed) : child.isElement = changed.isElement := by
  apply ChangedBelow.eq_of_eqvGen _ reindented.2
  intro _ _ below
  rw [below.isElement.1, below.isElement.2]

def SameOrReindented (child changed : Node) : Prop :=
  child = changed ∨ Reindented child changed

/-- An element makes the same section however its lines are indented. -/
theorem SameOrReindented.sectionOf_eq {child changed : Node}
    (related : SameOrReindented child changed) : sectionOf child = sectionOf changed := by
  rcases related with rfl | reindented
  · rfl
  · exact reindented.sectionOf_eq

theorem SameOrReindented.isElement_eq {child changed : Node}
    (related : SameOrReindented child changed) : child.isElement = changed.isElement := by
  rcases related with rfl | reindented
  · rfl
  · exact reindented.isElement_eq

theorem map_sectionOf_reindented {children changed : List Node}
    (pairs : List.Forall₂ SameOrReindented children changed) :
    (children.filter (·.isElement)).map sectionOf =
      (changed.filter (·.isElement)).map sectionOf := by
  induction pairs with
  | nil =>
      rfl
  | cons related _ inductionHypothesis =>
      rw [List.filter_cons, List.filter_cons, related.isElement_eq]
      split
      · rw [List.map_cons, List.map_cons, related.sectionOf_eq, inductionHypothesis]
      · exact inductionHypothesis

/-- A member whose children are indented anew, elements `code` apart, is the same member,
section by section. So are its documentation, its entry in the list of features, and the
notices about it. -/
theorem memberOf_reindented (name : Name) (attributes : List Attribute)
    {children changed : List Node}
    (pairs : List.Forall₂ SameOrReindented children changed) :
    List.Forall₂ (fun child other => sectionOf child = sectionOf other) children changed ∧
      memberOf (.element name attributes children) =
        memberOf (.element name attributes changed) ∧
      ∀ member, memberOf (.element name attributes children) = .ok member →
        ∃ other, memberOf (.element name attributes changed) = .ok other ∧
          (∀ language, other.documentation language = member.documentation language) ∧
          (∀ number, other.entry number = member.entry number) ∧
          Catalog.memberNotices other = Catalog.memberNotices member ∧
          other.notices = member.notices := by
  have sameMember : memberOf (.element name attributes children) =
      memberOf (.element name attributes changed) :=
    memberOf_congr (map_sectionOf_reindented pairs)
  refine ⟨pairs.imp fun _ _ related => related.sectionOf_eq, sameMember, ?_⟩
  intro member read
  exact ⟨member, sameMember.symm.trans read, fun _ => rfl, fun _ => rfl, rfl, rfl⟩

def summaryWith (opening inner : Text) : Node :=
  .element ⟨none, "summary".toList⟩ []
    [.text opening,
      .element ⟨none, "see".toList⟩ [⟨⟨none, "cref".toList⟩, "T:B".toList⟩] [.text inner]]

def indentedCode : Node :=
  .element ⟨none, "code".toList⟩ [] [.text "x\n  y".toList]

theorem memberOf_reindented_summaryWith :
    List.Forall₂ SameOrReindented
        [summaryWith ['a', '\n'] ['\n', '\t'], indentedCode]
        [summaryWith ['a', '\n', ' '] ['\n'], indentedCode] ∧
      ∃ other,
        memberOf (.element ⟨none, "member".toList⟩ [⟨⟨none, "name".toList⟩, "M:A".toList⟩]
          [summaryWith ['a', '\n', ' '] ['\n'], indentedCode]) = .ok other ∧
        other.documentation "cs".toList =
          "#### A<a name=\"a\"></a>\n\na\n`B`\n\n```cs\nx\n  y\n```\n\n".toList := by
  have inOpening : ChangedBelow Indented
      (summaryWith ['a', '\n'] ['\n', '\t']) (summaryWith ['a', '\n', ' '] ['\n', '\t']) :=
    @ChangedBelow.here _ _ _ [] [.text _] [.text _] _
      (Indented.text (@IndentAdded.behind ['a'] [' '] [] (by simp [isIndent])))
  have inReference : ChangedBelow Indented
      (summaryWith ['a', '\n', ' '] ['\n']) (summaryWith ['a', '\n', ' '] ['\n', '\t']) :=
    @ChangedBelow.deeper _ _ _ [.text _] [] _ _
      (@ChangedBelow.here _ _ _ [] [.text _] [.text _] []
        (Indented.text (@IndentAdded.behind [] ['\t'] [] (by simp [isIndent]))))
  have joined := (Relation.EqvGen.rel _ _ inOpening).trans _ _ _
    ((Relation.EqvGen.rel _ _ inReference).symm _ _)
  have pairs : List.Forall₂ SameOrReindented
      [summaryWith ['a', '\n'] ['\n', '\t'], indentedCode]
      [summaryWith ['a', '\n', ' '] ['\n'], indentedCode] :=
    .cons (Or.inr ⟨by decide, joined⟩) (.cons (Or.inl rfl) .nil)
  obtain ⟨_, _, unchanged⟩ := memberOf_reindented ⟨none, "member".toList⟩
    [⟨⟨none, "name".toList⟩, "M:A".toList⟩] pairs
  obtain ⟨other, read, sameDocumentation, _⟩ := unchanged
    ⟨.method, ['A'], by decide,
      [.passage .summary "a\n`B`".toList, .passage .code "x\n  y".toList]⟩
    (by decide +kernel)
  refine ⟨pairs, other, read, ?_⟩
  rw [sameDocumentation]
  decide +kernel

end Export

end ApiReference
