import ApiReference.Export.Basic
import ApiReference.Proofs.Sections
import Mathlib.Data.List.Forall2

/-! ## Text on its way from an export to Markdown

A text passes through the elements around it, the normal form of its section, the
layout of the section and the trimming of its block. All of these may drop white space
and add words of their own, but none of them drops anything else. -/

namespace ApiReference

open Text Markup

/-! ### Texts in the tree of a document -/

namespace Markup.Node

def ownText : Node → Text
  | text content => content
  | _ => []

def textBelow (node : Node) : Text :=
  (subtrees node.children).flatMap ownText

/-- What an element is resolved to shows the solid part of the text it holds. -/
theorem solid_resolvedText_sublist (target : Option Text) (held : Text) :
    (solid held).Sublist (solid (resolvedText target held)) := by
  unfold resolvedText
  split
  next blank =>
    rw [solid_eq_nil_iff.mpr blank]
    exact List.nil_sublist _
  next =>
    exact List.Sublist.refl _

mutual

/-- What a node contributes shows the solid part of all text in it. The elements
are resolved from the inside, so this goes by the structure of the tree. -/
theorem solid_subtree_sublist : ∀ node : Node,
    (solid (node.subtree.flatMap ownText)).Sublist (solid node.shownText)
  | element name attributes children => by
      have below := solid_subtrees_sublist children
      have resolved := solid_resolvedText_sublist
        (target? (element name attributes children)) (shownTexts children)
      simpa [subtree, shownText, ownText] using below.trans resolved
  | text content => by
      simp [subtree, shownText, ownText]
  | comment content => by
      simp [subtree, shownText, ownText]
  | instruction target content => by
      simp [subtree, shownText, ownText]

/-- Nodes show all that is solid in the texts among and below them. -/
theorem solid_subtrees_sublist : ∀ nodes : List Node,
    (solid ((subtrees nodes).flatMap ownText)).Sublist (solid (shownTexts nodes))
  | [] => by
      simp [subtrees, shownTexts]
  | node :: others => by
      have first := solid_subtree_sublist node
      have later := solid_subtrees_sublist others
      simpa [subtrees, shownTexts] using first.append later

end

/-- The text of an element shows the solid part of all text below it. -/
theorem solid_textBelow_sublist (node : Node) :
    (solid node.textBelow).Sublist (solid node.elementText) :=
  solid_subtrees_sublist node.children

end Markup.Node

/-! ### Sections and their elements -/

namespace Export

/-- Whether an element below a member points to another symbol, by its tag and by
having an attribute. -/
def isPointer (node : Node) : Bool :=
  node.isLabelled Section.seeAlsoTag && !node.attributes.isEmpty

/-- What an element below a member leaves in the documentation: the block of its
section, or nothing if the section is empty. -/
def writtenBlock (level : Nat) (language : Text) (node : Node) : Text :=
  if (sectionOf node).isEmpty then []
  else Markdown.separated ((sectionOf node).block level language)

/-- A section keeps all that is solid in the text of its element, unless this points to
another symbol. -/
theorem solid_text_sectionOf {node : Node} (notPointer : isPointer node = false) :
    solid (sectionOf node).text = solid node.elementText := by
  apply Section.solid_text_ofTag
  rintro ⟨pointerTag, given⟩
  have labelled : node.label? = some Section.seeAlsoTag := by
    cases known : node.label? with
    | none =>
        rw [known] at pointerTag
        exact absurd pointerTag (by decide)
    | some label =>
        rw [known] at pointerTag
        rw [← pointerTag]
        rfl
  have attributed : node.attributes ≠ [] := by
    intro none
    simp [none] at given
  simp [isPointer, Node.isLabelled, labelled, attributed] at notPointer

/-- The block of an element shows the solid part of its text in one piece. -/
theorem solid_elementText_infix_writtenBlock
    {node : Node} (notPointer : isPointer node = false)
    (level : Nat) (language : Text) :
    solid node.elementText <:+: solid (writtenBlock level language node) := by
  rw [← solid_text_sectionOf notPointer]
  unfold writtenBlock
  split
  next empty =>
    have noText := Section.text_eq_nil_of_isEmpty empty
    simp [noText]
  next =>
    have shown := Section.solid_text_infix_block level language (sectionOf node)
    rw [Markdown.separated, solid_append]
    exact shown.trans (List.prefix_append _ _).isInfix

theorem sections_of_memberOf {node : Node} {member : Member}
    (read : memberOf node = .ok member) : member.sections = sectionsOf node := by
  unfold memberOf at read
  split at read
  next =>
    cases read
  next rawName =>
    unfold Member.ofRawName at read
    split at read
    next =>
      cases read
    next letter rest =>
      split at read
      next =>
        cases read
      next =>
        cases read
        rfl
      next =>
        cases read

end Export

/-! ### The documentation of a member -/

def Member.opening (member : Member) : Text :=
  if member.givenName.isNone then Markdown.separated member.plainHeading else []

/-- The documentation of a member is its heading and what its elements leave, in their
order. -/
theorem Export.documentation_eq_flatMap_writtenBlock
    {node : Node} {member : Member} (read : memberOf node = .ok member)
    (language : Text) :
    member.documentation language =
      member.opening ++
        (node.children.filter (·.isElement)).flatMap
          (writtenBlock member.headingDepth language) := by
  have written : ∀ elements : List Node,
      (((elements.map sectionOf).filter fun part => !part.isEmpty).map
          (·.block member.headingDepth language)).flatMap Markdown.separated =
        elements.flatMap (writtenBlock member.headingDepth language) := by
    intro elements
    -- Both sides leave out empty sections, one element at a time.
    induction elements with
    | nil =>
        rfl
    | cons element others inductionHypothesis =>
        by_cases empty : (sectionOf element).isEmpty = true
        · simpa [writtenBlock, empty] using inductionHypothesis
        · simpa [writtenBlock, empty] using inductionHypothesis
  have sections := sections_of_memberOf read
  rw [Member.documentation, Member.blocks, List.flatMap_append,
    Member.writtenSections, sections, sectionsOf, written]
  congr 1
  unfold Member.opening
  split <;> simp

namespace Export

/-- What it means that the documentation of a member keeps the text of the element
that describes it. The blocks of the elements below follow each other; each of them
shows the solid part of the text of its element in one piece; and the solid part of all
texts in these elements is found in the whole, in its order. Only elements that point
to another symbol are free to lose their text. -/
structure KeepsText (language : Text) (node : Node) (member : Member) : Prop where
  blocks_in_order :
    member.documentation language =
      member.opening ++
        (node.children.filter (·.isElement)).flatMap
          (writtenBlock member.headingDepth language)
  text_in_block :
    ∀ element ∈ node.children.filter (·.isElement), isPointer element = false →
      solid element.elementText <:+:
          solid (writtenBlock member.headingDepth language element) ∧
        ((sectionOf element).isEmpty = true → solid element.elementText = [])
  text_in_order :
    (solid (((node.children.filter (·.isElement)).filter fun element =>
        !isPointer element).flatMap Node.textBelow)).Sublist
      (member.documentation language)

/-- The solid part of the texts in elements is found in what the elements leave. -/
theorem solid_textBelow_sublist_writtenBlock
    (level : Nat) (language : Text) (elements : List Node) :
    (solid ((elements.filter fun element => !isPointer element).flatMap
        Node.textBelow)).Sublist
      (solid (elements.flatMap (writtenBlock level language))) := by
  induction elements with
  | nil =>
      exact List.nil_sublist _
  | cons element others inductionHypothesis =>
      rw [List.flatMap_cons, solid_append]
      by_cases pointer : isPointer element = true
      · rw [List.filter_cons_of_neg (by simp [pointer])]
        exact inductionHypothesis.trans (List.sublist_append_right _ _)
      · have notPointer : isPointer element = false := by
          simpa using pointer
        have shown :=
          solid_elementText_infix_writtenBlock notPointer level language
        rw [List.filter_cons_of_pos (by simp [notPointer]), List.flatMap_cons,
          solid_append]
        exact ((Node.solid_textBelow_sublist element).trans shown.sublist).append
          inductionHypothesis

/-- The documentation of a member keeps the text of the element it was read from. -/
theorem keepsText_of_memberOf
    {node : Node} {member : Member} (read : memberOf node = .ok member)
    (language : Text) : KeepsText language node member := by
  have inOrder := documentation_eq_flatMap_writtenBlock read language
  refine ⟨inOrder, ?_, ?_⟩
  · intro element _ notPointer
    refine ⟨solid_elementText_infix_writtenBlock notPointer _ language, ?_⟩
    intro empty
    rw [← solid_text_sectionOf notPointer, Section.text_eq_nil_of_isEmpty empty,
      solid_nil]
  · have found := solid_textBelow_sublist_writtenBlock member.headingDepth language
      (node.children.filter (·.isElement))
    have inDocumentation := found.trans List.filter_sublist
    rw [inOrder]
    exact inDocumentation.trans (List.sublist_append_right _ _)

/-- A list that is read as a whole is read item by item. -/
theorem forall₂_of_mapM_ok {α β ε : Type} {read : α → Except ε β} :
    ∀ {items : List α} {results : List β}, items.mapM read = .ok results →
      List.Forall₂ (fun item result => read item = .ok result) items results
  | [], results, all => by
      cases all
      exact List.Forall₂.nil
  | item :: others, results, all => by
      rw [List.mapM_cons] at all
      cases first : read item with
      | error fault =>
          rw [first] at all
          cases all
      | ok result =>
          cases later : others.mapM read with
          | error fault =>
              rw [first, later] at all
              cases all
          | ok laterResults =>
              rw [first, later] at all
              cases all
              exact List.Forall₂.cons first (forall₂_of_mapM_ok later)

/-- The members of an export are read from the elements of its document one by one. -/
theorem parts_of_ofDocument_ok {document : Document} {entries : Export}
    (read : ofDocument document = .ok entries) :
    entries.assembly = assemblyOf document ∧
      (document.allNodes.filter (·.isLabelled "member".toList)).mapM memberOf =
        .ok entries.members := by
  dsimp only [ofDocument] at read
  cases all : (document.allNodes.filter (·.isLabelled "member".toList)).mapM
      memberOf with
  | error fault =>
      rw [all] at read
      cases read
  | ok members =>
      rw [all] at read
      cases read
      exact ⟨rfl, rfl⟩

theorem forall₂_memberOf {document : Document} {entries : Export}
    (read : ofDocument document = .ok entries) :
    List.Forall₂ (fun node member => memberOf node = .ok member)
      (document.allNodes.filter (·.isLabelled "member".toList)) entries.members :=
  forall₂_of_mapM_ok (parts_of_ofDocument_ok read).2

/-- No text of an export is lost: the documentation of each member keeps the text of
the element that describes it. -/
theorem documentation_keeps_text {document : Document} {entries : Export}
    (read : ofDocument document = .ok entries) (language : Text) :
    List.Forall₂ (KeepsText language)
      (document.allNodes.filter (·.isLabelled "member".toList)) entries.members :=
  (forall₂_memberOf read).imp fun _ _ readMember =>
    keepsText_of_memberOf readMember language

/-- A document with a member whose summary breaks a line before a reference, and whose
pointer to another symbol loses its text. -/
def sampleDocument : Document :=
  ⟨[.element ⟨none, "doc".toList⟩ []
    [.element ⟨none, "member".toList⟩ [⟨⟨none, "name".toList⟩, "T:Circle".toList⟩]
      [.element ⟨none, "summary".toList⟩ []
        [.text "\n  A round\n  ".toList,
          .element ⟨none, "see".toList⟩ [⟨⟨none, "cref".toList⟩, "T:Shape".toList⟩] []],
        .element ⟨none, "seealso".toList⟩ [⟨⟨none, "cref".toList⟩, "T:Disk".toList⟩]
          [.text "lost".toList]]]]⟩

def sampleExport : Export :=
  ⟨none,
    [⟨.classType, "Circle".toList, by decide,
      [.passage .summary "A round\n`Shape`".toList, .seeAlso "T:Disk".toList]⟩]⟩

theorem documentation_keeps_text_sample :
    ofDocument sampleDocument = .ok sampleExport ∧
      List.Forall₂ (KeepsText "csharp".toList)
        (sampleDocument.allNodes.filter (·.isLabelled "member".toList))
        sampleExport.members := by
  have read : ofDocument sampleDocument = .ok sampleExport := by
    decide +kernel
  exact ⟨read, documentation_keeps_text read "csharp".toList⟩

end Export

end ApiReference
