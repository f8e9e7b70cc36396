import ApiReference.Export.Basic
import Mathlib.Logic.Basic
import Mathlib.Logic.Relation

/-! ## Changes below an element

Children of an element may be replaced by others at any depth below it. Such a change
shows in the text of the element only as far as it shows in the texts of the children
replaced. -/

namespace ApiReference

open Text

namespace Markup.Node

/-- Some children in a row are replaced by others, right below an element or deeper. -/
inductive ChangedBelow (change : List Node → List Node → Prop) : Node → Node → Prop
  | here {name : Name} {attributes : List Attribute} {before old new after : List Node} :
      change old new →
      ChangedBelow change (element name attributes (before ++ old ++ after))
        (element name attributes (before ++ new ++ after))
  | deeper {name : Name} {attributes : List Attribute} {before after : List Node}
      {child changed : Node} :
      ChangedBelow change child changed →
      ChangedBelow change (element name attributes (before ++ [child] ++ after))
        (element name attributes (before ++ [changed] ++ after))

namespace ChangedBelow

variable {change : List Node → List Node → Prop} {node changed : Node}

theorem isElement (below : ChangedBelow change node changed) :
    node.isElement = true ∧ changed.isElement = true := by
  cases below <;> exact ⟨rfl, rfl⟩

theorem label?_eq (below : ChangedBelow change node changed) :
    node.label? = changed.label? := by
  cases below <;> rfl

theorem attributes_eq (below : ChangedBelow change node changed) :
    node.attributes = changed.attributes := by
  cases below <;> rfl

theorem attribute?_eq (below : ChangedBelow change node changed) (label : Text) :
    node.attribute? label = changed.attribute? label := by
  rw [attribute?, attribute?, below.attributes_eq]

theorem target?_eq (below : ChangedBelow change node changed) :
    node.target? = changed.target? := by
  unfold target?
  rw [below.label?_eq]
  simp only [below.attribute?_eq]

/-- What no single change shows, no changes and changes back show either. -/
theorem eq_of_eqvGen {α : Type} {reading : Node → α}
    (same : ∀ ⦃node changed : Node⦄, ChangedBelow change node changed →
      reading node = reading changed)
    (joined : Relation.EqvGen (ChangedBelow change) node changed) :
    reading node = reading changed := by
  have sameReading : Equivalence fun node changed => reading node = reading changed :=
    eq_equivalence.comap reading
  exact sameReading.eqvGen_iff.mp (joined.mono fun _ _ below => same below)

end ChangedBelow

/-! ### Texts of changed elements -/

@[simp]
theorem shownTexts_append (nodes others : List Node) :
    shownTexts (nodes ++ others) = shownTexts nodes ++ shownTexts others := by
  induction nodes with
  | nil =>
      simp [shownTexts]
  | cons node rest inductionHypothesis =>
      simp [shownTexts, inductionHypothesis]

@[simp]
theorem shownTexts_singleton (node : Node) : shownTexts [node] = node.shownText := by
  simp [shownTexts]

theorem shownText_of_isElement {node : Node} (isElement : node.isElement = true) :
    node.shownText = resolvedText node.target? node.elementText := by
  cases node with
  | element name attributes children =>
      rw [shownText]
      rfl
  | text content =>
      cases isElement
  | comment content =>
      cases isElement
  | instruction target content =>
      cases isElement

/-- A relation of texts that goes on to hold with the same texts around, and that tells
blank texts from others. -/
structure Contextual (related : Text → Text → Prop) : Prop where
  refl : ∀ text, related text text
  around : ∀ {old new : Text} (before after : Text), related old new →
    related (before ++ old ++ after) (before ++ new ++ after)
  isBlank_eq : ∀ {old new : Text}, related old new → old.isBlank = new.isBlank

theorem contextual_eq : Contextual Eq :=
  ⟨fun _ => rfl, fun _ _ same => by rw [same], fun same => by rw [same]⟩

variable {related : Text → Text → Prop} {change : List Node → List Node → Prop}

theorem Contextual.resolvedText (contextual : Contextual related) (target : Option Text)
    {old new : Text} (held : related old new) :
    related (resolvedText target old) (resolvedText target new) := by
  unfold Node.resolvedText
  -- Both texts are blank or neither is, so the reference shows its target both times or
  -- not at all.
  rw [← contextual.isBlank_eq held]
  split
  next =>
    cases target with
    | none =>
        exact held
    | some target =>
        dsimp only
        split
        next =>
          exact held
        next =>
          exact contextual.refl _
  next =>
    exact held

/-- What holds of the texts shown before and after a change holds of the texts of all
elements around it. -/
theorem ChangedBelow.elementText (contextual : Contextual related)
    (shown : ∀ ⦃old new : List Node⦄, change old new →
      related (shownTexts old) (shownTexts new))
    {node changed : Node} (below : ChangedBelow change node changed) :
    related node.elementText changed.elementText := by
  induction below with
  | @here name attributes before old new after changes =>
      have inPlace :=
        contextual.around (shownTexts before) (shownTexts after) (shown changes)
      simpa only [Node.elementText, children, shownTexts_append] using inPlace
  | @deeper name attributes before after child changed below inductionHypothesis =>
      have childElement := below.isElement
      have resolved : related child.shownText changed.shownText := by
        rw [shownText_of_isElement childElement.1, shownText_of_isElement childElement.2,
          ← below.target?_eq]
        exact contextual.resolvedText _ inductionHypothesis
      have inPlace := contextual.around (shownTexts before) (shownTexts after) resolved
      simpa only [Node.elementText, children, shownTexts_append, shownTexts_singleton]
        using inPlace

/-! ### Changes that touch no element -/

/-- Whether a change replaces only nodes that are no elements, by nodes that are none. -/
def SparesElements (change : List Node → List Node → Prop) : Prop :=
  ∀ ⦃old new : List Node⦄, change old new →
    ∀ node ∈ old ++ new, node.isElement = false

@[simp]
theorem subtrees_append (nodes others : List Node) :
    subtrees (nodes ++ others) = subtrees nodes ++ subtrees others := by
  induction nodes with
  | nil =>
      simp [subtrees]
  | cons node rest inductionHypothesis =>
      simp [subtrees, inductionHypothesis]

theorem subtrees_eq_self {nodes : List Node}
    (noElements : ∀ node ∈ nodes, node.isElement = false) : subtrees nodes = nodes := by
  induction nodes with
  | nil =>
      rfl
  | cons node rest inductionHypothesis =>
      have restSame := inductionHypothesis fun other later =>
        noElements other (List.mem_cons_of_mem node later)
      have single : node.subtree = [node] := by
        cases node with
        | element name attributes children =>
            cases noElements (element name attributes children) List.mem_cons_self
        | text content => rfl
        | comment content => rfl
        | instruction target content => rfl
      rw [subtrees, single, restSame, List.singleton_append]

theorem filter_isElement_eq_nil {nodes : List Node}
    (noElements : ∀ node ∈ nodes, node.isElement = false) :
    nodes.filter (·.isElement) = [] := by
  rw [List.filter_eq_nil_iff]
  intro node present
  simp [noElements node present]

theorem isElement_of_isLabelled {node : Node} {label : Text}
    (labelled : node.isLabelled label = true) : node.isElement = true := by
  have named : node.label? = some label := by
    simpa [isLabelled] using labelled
  simp [isElement, named]

theorem isLabelled_element (name : Name) (attributes : List Attribute)
    (children : List Node) (label : Text) :
    (element name attributes children).isLabelled label = decide (name.label = label) := by
  simp [isLabelled, label?]

theorem filter_isLabelled_eq_nil {nodes : List Node}
    (noElements : ∀ node ∈ nodes, node.isElement = false) (label : Text) :
    nodes.filter (·.isLabelled label) = [] := by
  rw [List.filter_eq_nil_iff]
  intro node present labelled
  have isElement := isElement_of_isLabelled labelled
  rw [noElements node present] at isElement
  cases isElement

def labelledReadings {α : Type} (reading : Node → α) (label : Text) (nodes : List Node) :
    List α :=
  ((subtrees nodes).filter (·.isLabelled label)).map reading

section Readings

variable {α : Type} {reading : Node → α} {label : Text}

theorem labelledReadings_append (nodes others : List Node) :
    labelledReadings reading label (nodes ++ others) =
      labelledReadings reading label nodes ++ labelledReadings reading label others := by
  simp [labelledReadings]

theorem labelledReadings_eq_nil {nodes : List Node}
    (noElements : ∀ node ∈ nodes, node.isElement = false) :
    labelledReadings reading label nodes = [] := by
  rw [labelledReadings, subtrees_eq_self noElements,
    filter_isLabelled_eq_nil noElements, List.map_nil]

theorem labelledReadings_element {name : Name} {attributes : List Attribute}
    {children others : List Node}
    (top : reading (element name attributes children) =
      reading (element name attributes others))
    (below : labelledReadings reading label children =
      labelledReadings reading label others) :
    labelledReadings reading label [element name attributes children] =
      labelledReadings reading label [element name attributes others] := by
  simp only [labelledReadings] at below
  by_cases labelled : name.label = label
  · simp [labelledReadings, subtrees, subtree, isLabelled_element, labelled, top, below]
  · simp [labelledReadings, subtrees, subtree, isLabelled_element, labelled, below]

/-- Whatever is read off elements, and does not show a change, is the same all over the
tree after the change. -/
theorem ChangedBelow.labelledReadings_eq (spares : SparesElements change)
    (same : ∀ ⦃node changed : Node⦄, ChangedBelow change node changed →
      reading node = reading changed)
    {node changed : Node} (below : ChangedBelow change node changed) :
    labelledReadings reading label [node] = labelledReadings reading label [changed] := by
  induction below with
  | @here _ _ _ old new _ changes =>
      apply labelledReadings_element (same (ChangedBelow.here changes))
      have oldNone : labelledReadings reading label old = [] :=
        labelledReadings_eq_nil fun node present =>
          spares changes node (List.mem_append_left _ present)
      have newNone : labelledReadings reading label new = [] :=
        labelledReadings_eq_nil fun node present =>
          spares changes node (List.mem_append_right _ present)
      simp only [labelledReadings_append, oldNone, newNone]
  | deeper below inductionHypothesis =>
      apply labelledReadings_element (same (ChangedBelow.deeper below))
      simp only [labelledReadings_append, inductionHypothesis]

end Readings

end Markup.Node

/-! ### Exports of changed documents -/

namespace Export

open Markup Markup.Node

variable {change : List Node → List Node → Prop}

def KeepsElementText (change : List Node → List Node → Prop) : Prop :=
  ∀ ⦃node changed : Node⦄, ChangedBelow change node changed →
    node.elementText = changed.elementText

variable {node changed : Node}

theorem sectionOf_eq_of_changedBelow (keeps : KeepsElementText change)
    (below : ChangedBelow change node changed) : sectionOf node = sectionOf changed := by
  rw [sectionOf, sectionOf, below.label?_eq, below.attributes_eq, keeps below]

theorem memberOf_congr {name : Name} {attributes : List Attribute}
    {children others : List Node}
    (sections : (children.filter (·.isElement)).map sectionOf =
      (others.filter (·.isElement)).map sectionOf) :
    memberOf (.element name attributes children) =
      memberOf (.element name attributes others) := by
  have sameSections :
      sectionsOf (.element name attributes children) =
        sectionsOf (.element name attributes others) :=
    sections
  unfold memberOf
  rw [sameSections]
  rfl

/-- A change that spares elements and keeps their texts leaves the member as it is. -/
theorem memberOf_eq_of_changedBelow (spares : SparesElements change)
    (keeps : KeepsElementText change) (below : ChangedBelow change node changed) :
    memberOf node = memberOf changed := by
  cases below with
  | here changes =>
      apply memberOf_congr
      have oldNone := filter_isElement_eq_nil
        fun node present => spares changes node (List.mem_append_left _ present)
      have newNone := filter_isElement_eq_nil
        fun node present => spares changes node (List.mem_append_right _ present)
      simp only [List.filter_append, oldNone, newNone]
  | @deeper _ _ before after child changed below =>
      apply memberOf_congr
      have sameSection := sectionOf_eq_of_changedBelow keeps below
      simp [below.isElement, sameSection]

def nameText (node : Node) : Option Text :=
  ((node.children.filter (·.isLabelled "name".toList)).map (·.elementText)).head?

theorem nameText_eq_of_changedBelow (spares : SparesElements change)
    (keeps : KeepsElementText change) (below : ChangedBelow change node changed) :
    nameText node = nameText changed := by
  cases below with
  | here changes =>
      have oldNone := filter_isLabelled_eq_nil
        (fun node present => spares changes node (List.mem_append_left _ present))
        "name".toList
      have newNone := filter_isLabelled_eq_nil
        (fun node present => spares changes node (List.mem_append_right _ present))
        "name".toList
      simp only [nameText, children, List.filter_append, oldNone, newNone]
  | @deeper _ _ before after child changed below =>
      have sameLabel :
          child.isLabelled "name".toList = changed.isLabelled "name".toList := by
        rw [isLabelled, isLabelled, below.label?_eq]
      have sameText := keeps below
      simp only [nameText, children, List.filter_append, List.filter_cons, sameLabel]
      split <;> simp [sameText]

theorem assemblyOf_eq_of_readings (document : Document) :
    assemblyOf document =
      (labelledReadings nameText "assembly".toList document.nodes).head?.join.bind
        fun name => if name.isBlank then none else some name.trim := by
  unfold assemblyOf
  rw [← List.head?_filter, Document.allNodes, labelledReadings, List.head?_map]
  cases ((subtrees document.nodes).filter (·.isLabelled "assembly".toList)).head? with
  | none =>
      rfl
  | some assembly =>
      simp only [Option.map_some, Option.join_some, nameText, List.head?_map,
        List.head?_filter]
      cases assembly.children.find? (·.isLabelled "name".toList) with
      | none =>
          rfl
      | some name =>
          rfl

/-- An export is made of what its members and assemblies are read as. -/
theorem ofDocument_eq_of_readings (document : Document) :
    ofDocument document =
      (labelledReadings memberOf "member".toList document.nodes).mapM id >>=
        fun members => .ok ⟨assemblyOf document, members⟩ := by
  rw [labelledReadings, List.mapM_map]
  rfl

/-- A change that shows in no text does not show in the export of the document. -/
theorem ofDocument_eq_of_changedBelow (spares : SparesElements change)
    (keeps : KeepsElementText change) (below : ChangedBelow change node changed)
    (before after : List Node) :
    ofDocument ⟨before ++ [node] ++ after⟩ = ofDocument ⟨before ++ [changed] ++ after⟩ := by
  have sameMembers : labelledReadings memberOf "member".toList [node] =
      labelledReadings memberOf "member".toList [changed] :=
    below.labelledReadings_eq spares fun _ _ => memberOf_eq_of_changedBelow spares keeps
  have sameNames : labelledReadings nameText "assembly".toList [node] =
      labelledReadings nameText "assembly".toList [changed] :=
    below.labelledReadings_eq spares fun _ _ => nameText_eq_of_changedBelow spares keeps
  simp only [ofDocument_eq_of_readings, assemblyOf_eq_of_readings,
    labelledReadings_append, sameMembers, sameNames]

end Export

end ApiReference
