import ApiReference.Proofs.Text.WhiteSpace
import ApiReference.Proofs.TreeChanges

/-! ## The text of an element as a list of pieces

Elements are resolved from the inside: whether a reference shows its target depends on
the text that the elements in it show. The outcome can be told without any resolving, by
looking at the nodes below an element one by one. -/

namespace ApiReference

open Text

namespace Markup.Node

/-! ### References that show their targets -/

/-- The attributes in which elements of a label may name a target. The first of them that
is present counts. -/
def targetLabels (label : Text) : List Text :=
  if label = "see".toList ∨ label = "seealso".toList then
    ["cref".toList, "href".toList, "langword".toList]
  else if label = "paramref".toList ∨ label = "typeparamref".toList then ["name".toList]
  else []

def solidTarget? (node : Node) : Option Text :=
  (((targetLabels (node.label?.getD [])).findSome? node.attribute?).map trim).filter
    fun target => !target.isBlank

def isSolidText : Node → Bool
  | text content => !content.isBlank
  | _ => false

/-- Whether a node is neither a text that is not blank nor an element that names a
target. -/
def isMute (node : Node) : Bool :=
  !node.isSolidText && node.solidTarget?.isNone

/-- Whether an element shows its target: it names one, and all below it is mute. -/
def isResolved (node : Node) : Bool :=
  node.solidTarget?.isSome && (subtrees node.children).all isMute

/-! ### Pieces of text -/

mutual

/-- A node and all nodes below it in document order, each with the elements around it,
the innermost first. -/
def placed (around : List Node) : Node → List (List Node × Node)
  | element name attributes children =>
    (around, element name attributes children) ::
      placedAll (element name attributes children :: around) children
  | text content => [(around, text content)]
  | comment content => [(around, comment content)]
  | instruction target content => [(around, instruction target content)]

def placedAll (around : List Node) : List Node → List (List Node × Node)
  | [] => []
  | node :: others => placed around node ++ placedAll around others

end

/-- What a node shows by itself: a text shows its content unless an element around it
shows a target, and such an element shows that target. -/
def piece : List Node × Node → Text
  | (around, text content) => if around.any isResolved then [] else content
  | (_, node) =>
    if node.isResolved then ['`'] ++ (node.solidTarget?.getD []).dropKindMark ++ ['`']
    else []

/-- The pieces of all nodes below a node, in document order. -/
def flatText (node : Node) : Text :=
  (placedAll [] node.children).flatMap piece

/-! ### Blank texts -/

/-- The backticks of a reference are seen even if its target is empty. -/
@[simp]
theorem isBlank_referenceText (target : Text) : isBlank (referenceText target) = false := by
  have notWhite : isWhite '`' = false := by
    decide
  simp [referenceText, isBlank, notWhite]

theorem target?_eq_findSome? (node : Node) :
    node.target? = (targetLabels (node.label?.getD [])).findSome? node.attribute? := by
  unfold target?
  cases node.label? with
  | none =>
      rfl
  | some label =>
      by_cases isLink : label = "see".toList ∨ label = "seealso".toList
      · have listed : linkLabels.contains label = true := by
          simpa [linkLabels] using isLink
        simp only [Option.getD_some, targetLabels, isLink, listed, if_true,
          List.findSome?_cons, List.findSome?_nil]
        cases node.attribute? "cref".toList <;> cases node.attribute? "href".toList <;>
          cases node.attribute? "langword".toList <;> rfl
      · have unlisted : linkLabels.contains label = false := by
          simpa [linkLabels] using isLink
        by_cases isParameter : label = "paramref".toList ∨ label = "typeparamref".toList
        · have parameter : parameterLabels.contains label = true := by
            simpa [parameterLabels] using isParameter
          simp only [Option.getD_some, targetLabels, isLink, isParameter, unlisted,
            parameter, if_true, if_false, Bool.false_eq_true, List.findSome?_cons,
            List.findSome?_nil]
          cases node.attribute? "name".toList <;> rfl
        · have notParameter : parameterLabels.contains label = false := by
            simpa [parameterLabels] using isParameter
          simp only [Option.getD_some, targetLabels, isLink, isParameter, unlisted,
            notParameter, if_false, Bool.false_eq_true, List.findSome?_nil]

/-- A text that is blank gives way to the target, if there is one that is not. -/
theorem resolvedText_target? (node : Node) (held : Text) :
    resolvedText node.target? held =
      if held.isBlank then (node.solidTarget?.map referenceText).getD held else held := by
  unfold resolvedText
  rw [solidTarget?, ← target?_eq_findSome?]
  cases node.target? with
  | none =>
      rfl
  | some target =>
      by_cases blank : target.isBlank = true
      · simp [Option.filter, blank]
      · simp [Option.filter, blank]

mutual

/-- A node shows a blank text exactly if the node and all below it are mute. -/
theorem isBlank_shownText : ∀ node : Node,
    node.shownText.isBlank = node.subtree.all isMute
  | element name attributes children => by
      have below := isBlank_shownTexts children
      rw [shownText, resolvedText_target?, subtree, List.all_cons, ← below]
      cases names : (element name attributes children).solidTarget? with
      | none =>
          simp [isMute, isSolidText, names]
      | some target =>
          by_cases blank : (shownTexts children).isBlank = true
          · simp [isMute, names, blank]
          · simp [isMute, names, blank]
  | text content => by
      simp [shownText, subtree, isMute, isSolidText, solidTarget?, label?, targetLabels]
  | comment content => by
      rfl
  | instruction target content => by
      rfl

/-- Nodes show a blank text exactly if all of them and all below are mute. -/
theorem isBlank_shownTexts : ∀ nodes : List Node,
    (shownTexts nodes).isBlank = (subtrees nodes).all isMute
  | [] => rfl
  | node :: others => by
      rw [shownTexts, isBlank_append, subtrees, List.all_append,
        isBlank_shownText node, isBlank_shownTexts others]

end

/-- An element shows its target if it has one and its text is blank. -/
theorem isResolved_eq (node : Node) :
    node.isResolved = (node.solidTarget?.isSome && node.elementText.isBlank) := by
  rw [isResolved, elementText, isBlank_shownTexts]

/-! ### The pieces of a resolved element -/

mutual

theorem map_snd_placed (around : List Node) : ∀ node : Node,
    (placed around node).map Prod.snd = node.subtree
  | element name attributes children => by
      rw [placed, List.map_cons, map_snd_placedAll, subtree]
  | text content => rfl
  | comment content => rfl
  | instruction target content => rfl

theorem map_snd_placedAll (around : List Node) : ∀ nodes : List Node,
    (placedAll around nodes).map Prod.snd = subtrees nodes
  | [] => rfl
  | node :: others => by
      rw [placedAll, List.map_append, map_snd_placed, map_snd_placedAll, subtrees]

end

mutual

theorem suffix_of_mem_placed {around : List Node} : ∀ (node : Node),
    ∀ place ∈ placed around node, around <:+ place.1
  | element name attributes children, place, present => by
      rcases List.mem_cons.mp present with rfl | below
      · exact List.suffix_refl around
      · exact (List.suffix_cons _ around).trans
          (suffix_of_mem_placedAll children place below)
  | text content, place, present => by
      obtain rfl := List.mem_singleton.mp present
      exact List.suffix_refl around
  | comment content, place, present => by
      obtain rfl := List.mem_singleton.mp present
      exact List.suffix_refl around
  | instruction target content, place, present => by
      obtain rfl := List.mem_singleton.mp present
      exact List.suffix_refl around

theorem suffix_of_mem_placedAll {around : List Node} : ∀ (nodes : List Node),
    ∀ place ∈ placedAll around nodes, around <:+ place.1
  | [], place, present => by
      cases present
  | node :: others, place, present => by
      rcases List.mem_append.mp present with first | later
      · exact suffix_of_mem_placed node place first
      · exact suffix_of_mem_placedAll others place later

end

/-- A mute node below an element that shows its target shows nothing. -/
theorem piece_eq_nil {around : List Node} {node : Node} (mute : node.isMute = true)
    (within : around.any isResolved = true) : piece (around, node) = [] := by
  have nameless : node.solidTarget?.isSome = false := by
    simp only [isMute, Bool.and_eq_true] at mute
    simpa using mute.2
  cases node with
  | text content =>
      rw [piece, if_pos within]
  | element name attributes children =>
      simp [piece, isResolved, nameless]
  | comment content =>
      simp [piece, isResolved, nameless]
  | instruction target content =>
      simp [piece, isResolved, nameless]

theorem flatMap_piece_eq_nil {around nodes : List Node}
    (mute : (subtrees nodes).all isMute = true) (within : around.any isResolved = true) :
    (placedAll around nodes).flatMap piece = [] := by
  rw [List.flatMap_eq_nil_iff]
  rintro ⟨outer, node⟩ present
  apply piece_eq_nil
  · have listed : node ∈ subtrees nodes := by
      rw [← map_snd_placedAll around]
      exact List.mem_map_of_mem present
    exact List.all_eq_true.mp mute node listed
  · obtain ⟨resolved, among, isResolved⟩ := List.any_eq_true.mp within
    have wider := suffix_of_mem_placedAll nodes _ present
    exact List.any_eq_true.mpr ⟨resolved, wider.subset among, isResolved⟩

/-! ### All pieces -/

mutual

/-- Outside of resolved elements, the pieces of a node make up the text it shows. -/
theorem flatMap_piece_placed : ∀ (node : Node) {around : List Node},
    around.any isResolved = false →
      (placed around node).flatMap piece = node.shownText
  | element name attributes children, around, outside => by
      have resolved := isResolved_eq (element name attributes children)
      rw [placed, List.flatMap_cons, shownText, resolvedText_target?]
      cases shows : (element name attributes children).isResolved with
      | true =>
          -- The target is the one piece, since all below the element is mute.
          have both := resolved.symm.trans shows
          simp only [Bool.and_eq_true] at both
          obtain ⟨names, blank⟩ := both
          obtain ⟨target, named⟩ := Option.isSome_iff_exists.mp names
          have mute : (subtrees children).all isMute = true := by
            rw [← isBlank_shownTexts]
            exact blank
          have below : (placedAll (element name attributes children :: around)
              children).flatMap piece = [] :=
            flatMap_piece_eq_nil mute (by simp [shows])
          have held : (shownTexts children).isBlank = true := blank
          rw [below, held, named]
          simp [piece, shows, named, referenceText]
      | false =>
          -- The element has no piece of its own, and may still name a target.
          have below : (placedAll (element name attributes children :: around)
              children).flatMap piece = shownTexts children :=
            flatMap_piece_placedAll children (by simp [shows, outside])
          have nothing : piece (around, element name attributes children) = [] := by
            simp [piece, shows]
          rw [below, nothing, List.nil_append]
          by_cases blank : (shownTexts children).isBlank = true
          · have unnamed : (element name attributes children).solidTarget? = none := by
              have both := resolved.symm.trans shows
              have held : (element name attributes children).elementText.isBlank = true :=
                blank
              simpa [held] using both
            simp [blank, unnamed]
          · simp [blank]
  | text content, around, outside => by
      simp [placed, piece, outside, shownText]
  | comment content, around, outside => by
      rfl
  | instruction target content, around, outside => by
      rfl

/-- The pieces of nodes, with no element around them that shows its target, make up their
texts. -/
theorem flatMap_piece_placedAll : ∀ (nodes : List Node) {around : List Node},
    around.any isResolved = false →
      (placedAll around nodes).flatMap piece = shownTexts nodes
  | [], around, outside => by
      rfl
  | node :: others, around, outside => by
      rw [placedAll, List.flatMap_append, flatMap_piece_placed node outside,
        flatMap_piece_placedAll others outside, shownTexts]

end

/-! ### Remarks and the cutting of texts -/

def isRemark : Node → Bool
  | comment _ => true
  | instruction _ _ => true
  | _ => false

/-- A change that no text shows: a remark comes in, or a text is cut in two. -/
inductive Unshown : List Node → List Node → Prop
  | remark {node : Node} : node.isRemark = true → Unshown [] [node]
  | cut (first second : Text) :
      Unshown [text (first ++ second)] [text first, text second]

theorem isElement_of_isRemark {node : Node} (isRemark : node.isRemark = true) :
    node.isElement = false := by
  cases node with
  | comment content => rfl
  | instruction target content => rfl
  | element name attributes children => cases isRemark
  | text content => cases isRemark

theorem shownText_of_isRemark {node : Node} (isRemark : node.isRemark = true) :
    node.shownText = [] := by
  cases node with
  | comment content => rfl
  | instruction target content => rfl
  | element name attributes children => cases isRemark
  | text content => cases isRemark

theorem sparesElements_unshown : SparesElements Unshown := by
  intro old new changes node present
  cases changes with
  | remark isRemark =>
      rw [List.nil_append, List.mem_singleton] at present
      rw [present]
      exact isElement_of_isRemark isRemark
  | cut first second =>
      simp only [List.cons_append, List.nil_append, List.mem_cons,
        List.not_mem_nil, or_false] at present
      rcases present with rfl | rfl | rfl <;> rfl

theorem shownTexts_unshown {old new : List Node} (changes : Unshown old new) :
    shownTexts old = shownTexts new := by
  cases changes with
  | remark isRemark =>
      rw [shownTexts_singleton, shownText_of_isRemark isRemark, shownTexts]
  | cut first second =>
      simp [shownTexts, shownText]

theorem keepsElementText_unshown : Export.KeepsElementText Unshown := by
  intro node changed below
  exact below.elementText contextual_eq fun _ _ => shownTexts_unshown

/-- The text of an element is made of the pieces of the nodes below it, in document
order. Remarks and the way in which texts are cut contribute nothing, so that changing
them changes neither texts nor sections nor exports. -/
theorem elementText_eq_flatText :
    (∀ node : Node, node.elementText = node.flatText) ∧
      ∀ node changed : Node, Relation.EqvGen (ChangedBelow Unshown) node changed →
        node.elementText = changed.elementText ∧
          Export.sectionOf node = Export.sectionOf changed ∧
          ∀ before after : List Node,
            Export.ofDocument ⟨before ++ [node] ++ after⟩ =
              Export.ofDocument ⟨before ++ [changed] ++ after⟩ := by
  refine ⟨fun node => (flatMap_piece_placedAll node.children rfl).symm, ?_⟩
  intro node changed joined
  have keeps := keepsElementText_unshown
  refine ⟨ChangedBelow.eq_of_eqvGen keeps joined, ?_, ?_⟩
  · apply ChangedBelow.eq_of_eqvGen _ joined
    intro _ _ below
    exact Export.sectionOf_eq_of_changedBelow keeps below
  · intro before after
    apply @ChangedBelow.eq_of_eqvGen Unshown node changed _
      (fun node => Export.ofDocument ⟨before ++ [node] ++ after⟩) _ joined
    intro _ _ below
    exact Export.ofDocument_eq_of_changedBelow sparesElements_unshown keeps below
      before after

def attributeNamed (words : String) (value : String) : Attribute :=
  ⟨⟨none, words.toList⟩, value.toList⟩

def outerReference (inner : List Node) : Node :=
  element ⟨none, "see".toList⟩ [attributeNamed "cref" " T:B "]
    ([element ⟨none, "see".toList⟩ [attributeNamed "cref" " "] [text [' ']]] ++ inner)

/-- A summary with this reference and with another, which gives way to the one in it. -/
def summaryAround (inner : List Node) : Node :=
  element ⟨none, "summary".toList⟩ []
    ([text ['a', '\n']] ++ [outerReference inner] ++
      [text [' '],
        element ⟨none, "seealso".toList⟩ [attributeNamed "href" "c"]
          [element ⟨none, "paramref".toList⟩ [attributeNamed "name" "d"] []]])

theorem elementText_eq_flatText_summaryAround :
    Relation.EqvGen (ChangedBelow Unshown) (summaryAround [])
        (summaryAround [comment "T:X".toList]) ∧
      (summaryAround []).elementText = "a\n`B` `d`".toList ∧
      (summaryAround [comment "T:X".toList]).elementText = "a\n`B` `d`".toList := by
  have inReference : ChangedBelow Unshown (outerReference [])
      (outerReference [comment "T:X".toList]) :=
    @ChangedBelow.here Unshown _ _ [_] [] [comment "T:X".toList] [] (Unshown.remark rfl)
  have joined := Relation.EqvGen.rel (summaryAround [])
    (summaryAround [comment "T:X".toList]) (ChangedBelow.deeper inReference)
  obtain ⟨flat, unchanged⟩ := elementText_eq_flatText
  have shown : (summaryAround []).elementText = "a\n`B` `d`".toList := by
    rw [flat]
    decide +kernel
  exact ⟨joined, shown, (unchanged _ _ joined).1.symm.trans shown⟩

end Markup.Node

end ApiReference
