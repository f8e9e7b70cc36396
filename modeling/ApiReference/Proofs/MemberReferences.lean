import ApiReference.Proofs.Anchors
import ApiReference.Proofs.CodeSpans
import ApiReference.Proofs.Loading
import ApiReference.Proofs.Text.Indents
import ApiReference.Proofs.Titles

/-! ## References to members

A reference that names a member shows the name under which the list of features has that
member. Members drop the mark of their kind when they are read, and references drop it
when they are shown; both drop the same. -/

namespace ApiReference

open Text Markdown

/-! ### Marks of kinds -/

namespace Text

/-- A name is what a reference leaves behind its mark: a character that takes one byte,
and the first colon. Where there is no such mark, all of the reference is left. -/
inductive BehindMark : (reference name : Text) → Prop
  | marked {letter : Char} {name : Text} :
      letter ≠ ':' → letter.utf8Size = 1 → BehindMark (letter :: ':' :: name) name
  | unmarked {reference : Text} :
      (∀ letter name, reference = letter :: ':' :: name →
        letter = ':' ∨ letter.utf8Size ≠ 1) →
      BehindMark reference reference

theorem utf8Size_eq_one_iff_toNat {c : Char} : c.utf8Size = 1 ↔ c.toNat < 0x80 := by
  rw [Char.utf8Size_eq_one_iff, UInt32.le_iff_toNat_le]
  exact Nat.lt_succ_iff.symm

/-- A reference loses its mark, and nothing else. -/
theorem behindMark_dropKindMark (reference : Text) :
    BehindMark reference reference.dropKindMark := by
  unfold dropKindMark
  split
  next letter name =>
    split
    next isMark =>
      simp only [Bool.and_eq_true, decide_eq_true_eq] at isMark
      exact BehindMark.marked isMark.1 (utf8Size_eq_one_iff_toNat.mpr isMark.2)
    next noMark =>
      apply BehindMark.unmarked
      intro other rest same
      obtain ⟨rfl, _⟩ := List.cons.inj same
      rw [Ne, utf8Size_eq_one_iff_toNat]
      by_cases isColon : letter = ':'
      · exact Or.inl isColon
      · right
        intro narrow
        exact noMark (by simp [isColon, narrow])
  next unmarked =>
    apply BehindMark.unmarked
    intro letter name same
    exact absurd same (unmarked letter name)

theorem dropKindMark_letter (kind : Kind) (name : Text) :
    dropKindMark (kind.letter :: ':' :: name) = name := by
  cases kind <;> rfl

end Text

theorem Kind.isWhite_letter (kind : Kind) : isWhite kind.letter = false := by
  cases kind <;> decide

/-- Of a raw name, trimming can drop only what ends the long name. -/
theorem Member.trim_rawName (member : Member) :
    member.rawName.trim = member.kind.letter :: ':' :: member.longName.trimEnd := by
  have colonSolid : isBlank (':' :: member.longName) = false := by
    have notWhite : isWhite ':' = false := by
      decide
    simp [isBlank, notWhite]
  have nameSolid : isBlank member.rawName = false := by
    simp [isBlank, rawName, member.kind.isWhite_letter]
  have start : trimStart member.rawName = member.rawName := by
    apply trimStart_eq_self
    intro c first
    cases first
    exact member.kind.isWhite_letter
  rw [trim, start, rawName, trimEnd_cons nameSolid, trimEnd_cons colonSolid]

namespace Markup.Node

/-! ### The place of a node in a text -/

/-- The text of an element is `before` and `after` with that of a node below it in
between. What stands around the node on its way down makes these two texts. -/
inductive ShownIn (node : Node) : Node → (before after : Text) → Prop
  | here {name : Name} {attributes : List Attribute} {left right : List Node} :
      ShownIn node (element name attributes (left ++ node :: right)) (shownTexts left)
        (shownTexts right)
  | deeper {name : Name} {attributes : List Attribute} {left right : List Node}
      {child : Node} {before after : Text} :
      ShownIn node child before after →
      ShownIn node (element name attributes (left ++ child :: right))
        (shownTexts left ++ before) (after ++ shownTexts right)

mutual

/-- Every node below an element has a place in its text. -/
theorem exists_shownIn {node : Node} : ∀ around : Node,
    node ∈ subtrees around.children → ∃ before after, ShownIn node around before after
  | element name attributes children => by
      intro below
      exact exists_shownIn_among name attributes [] children below
  | text content => by
      intro below
      cases below
  | comment content => by
      intro below
      cases below
  | instruction target content => by
      intro below
      cases below

theorem exists_shownIn_among {node : Node} (name : Name) (attributes : List Attribute)
    (left : List Node) : ∀ right : List Node,
    node ∈ subtrees right →
      ∃ before after, ShownIn node (element name attributes (left ++ right)) before after
  | [] => by
      intro below
      cases below
  | child :: others => by
      intro below
      rw [subtrees, List.mem_append, subtree_eq, List.mem_cons] at below
      rcases below with (rfl | inChild) | inOthers
      · exact ⟨_, _, ShownIn.here⟩
      · obtain ⟨before, after, shown⟩ := exists_shownIn child inChild
        exact ⟨_, _, ShownIn.deeper shown⟩
      · have among :=
          exists_shownIn_among name attributes (left ++ [child]) others inOthers
        rw [List.append_assoc] at among
        exact among

end

theorem ShownIn.isElement {node around : Node} {before after : Text}
    (shown : ShownIn node around before after) : around.isElement = true := by
  cases shown <;> rfl

/-- A node that shows something shows it all the way up, since no element around it then
holds a blank text. -/
theorem ShownIn.elementText_eq {node around : Node} {before after : Text}
    (shown : ShownIn node around before after) (solid : isBlank node.shownText = false) :
    around.elementText = before ++ node.shownText ++ after := by
  induction shown with
  | @here name attributes left right =>
      change shownTexts (left ++ node :: right) = _
      rw [shownTexts_append, shownTexts, List.append_assoc]
  | @deeper name attributes left right child before after shown inductionHypothesis =>
      have held : isBlank child.elementText = false := by
        simp [inductionHypothesis, solid]
      have kept : child.shownText = child.elementText := by
        rw [shownText_of_isElement shown.isElement, resolvedText_target?, held]
        rfl
      change shownTexts (left ++ child :: right) = _
      rw [shownTexts_append, shownTexts, kept, inductionHypothesis]
      simp only [List.append_assoc]

/-! ### References by raw names -/

/-- A reference that names its target by a raw name, and holds no text of its own. -/
structure RefersTo (reference : Node) (rawName : Text) : Prop where
  labelled : ∃ label ∈ linkLabels, reference.label? = some label
  named : reference.attribute? "cref".toList = some rawName
  textless : isBlank reference.elementText = true

theorem RefersTo.solidTarget?_eq {reference : Node} {member : Member}
    (refers : RefersTo reference member.rawName) :
    reference.solidTarget? =
      some (member.kind.letter :: ':' :: member.longName.trimEnd) := by
  obtain ⟨label, listed, labelled⟩ := refers.labelled
  have isLink : label = "see".toList ∨ label = "seealso".toList := by
    simpa [linkLabels] using listed
  have solid : isBlank (member.kind.letter :: ':' :: member.longName.trimEnd) = false := by
    simp [isBlank, member.kind.isWhite_letter]
  rw [solidTarget?, labelled, Option.getD_some, targetLabels, if_pos isLink,
    List.findSome?_cons, refers.named, Option.map_some, member.trim_rawName]
  simp [Option.filter, solid]

/-- A reference without a text of its own shows the long name. -/
theorem RefersTo.shownText_eq {reference : Node} {member : Member}
    (refers : RefersTo reference member.rawName) :
    reference.shownText = ['`'] ++ member.longName.trimEnd ++ ['`'] := by
  obtain ⟨label, _, labelled⟩ := refers.labelled
  cases reference with
  | element name attributes children =>
      rw [shownText_of_solidTarget? refers.solidTarget?_eq refers.textless,
        dropKindMark_letter]
      rfl
  | text content =>
      cases labelled
  | comment content =>
      cases labelled
  | instruction target content =>
      cases labelled

/-- A reference shows the name of a member: its long name between backticks, but for white
space at the end. This is what the reference adds to the text of every element around it,
and there is a place for it in each of these texts. -/
structure ShowsName (reference : Node) (member : Member) : Prop where
  shown : reference.shownText = ['`'] ++ member.longName.trimEnd ++ ['`']
  placed : ∀ around : Node, reference ∈ subtrees around.children →
    ∃ before after, ShownIn reference around before after
  adds : ∀ (around : Node) (before after : Text), ShownIn reference around before after →
    around.elementText = before ++ (['`'] ++ member.longName.trimEnd ++ ['`']) ++ after

theorem RefersTo.showsName {reference : Node} {member : Member}
    (refers : RefersTo reference member.rawName) : ShowsName reference member := by
  have shown := refers.shownText_eq
  have solid : isBlank reference.shownText = false := by
    have tickSolid : isWhite '`' = false := by
      decide
    rw [shown]
    simp [isBlank, tickSolid]
  refine ⟨shown, exists_shownIn, ?_⟩
  intro around before after place
  rw [place.elementText_eq solid, shown]

end Markup.Node

open Markup Markup.Node

/-- A reference by the raw name of a member shows the long name wherever in a text it
stands, and the long name is the text of the link in the entry of the member. What is
dropped in front of a name is a character and the first colon, or nothing. -/
theorem reference_shows_listed_name :
    (∀ (rawName : Text) (sections : List Section) (member : Member),
        Member.ofRawName rawName sections = .ok member →
          (∀ reference : Node, RefersTo reference rawName → ShowsName reference member) ∧
            ∀ (catalog : Catalog) (index : Nat), catalog.members[index]? = some member →
              ∃ number, (entries catalog.members)[index]? =
                some (member.entryMark number ++ ['['] ++ member.longName ++
                  "](#".toList ++ member.anchor ++ ")\n".toList)) ∧
      ∀ cref : Text, BehindMark cref cref.dropKindMark := by
  refine ⟨?_, behindMark_dropKindMark⟩
  intro rawName sections member accepted
  constructor
  · intro reference refers
    rw [← Member.rawName_of_ofRawName_ok accepted] at refers
    exact refers.showsName
  · intro catalog index found
    rw [entries, getElem?_entriesFrom, found, Option.map_some, member.entry_eq_append]
    exact ⟨_, rfl⟩

/-- An operator whose long name ends in white space and holds more colons. -/
def addOperator : Member :=
  ⟨.method, "Math.M:Add(T:Unit) ".toList, by decide, []⟩

def seeAlsoTo (target : String) (inner : List Node) : Node :=
  .element ⟨none, "seealso".toList⟩ [attributeNamed "cref" target] inner

def nestedReference : Node :=
  .element ⟨none, "summary".toList⟩ []
    ([.text "By ".toList] ++
      seeAlsoTo "T:Math" ([.comment []] ++ seeAlsoTo "M:Math.M:Add(T:Unit) " [.text [' ']] ::
        [.text ['.']]) :: [.text ['!']])

theorem reference_shows_listed_name_nested :
    Member.ofRawName "M:Math.M:Add(T:Unit) ".toList [] = .ok addOperator ∧
      RefersTo (seeAlsoTo "M:Math.M:Add(T:Unit) " [.text [' ']])
        "M:Math.M:Add(T:Unit) ".toList ∧
      nestedReference.elementText = "By `Math.M:Add(T:Unit)`.!".toList := by
  have accepted :
      Member.ofRawName "M:Math.M:Add(T:Unit) ".toList [] = .ok addOperator := by
    decide +kernel
  have refers : RefersTo (seeAlsoTo "M:Math.M:Add(T:Unit) " [.text [' ']])
      "M:Math.M:Add(T:Unit) ".toList :=
    ⟨⟨"seealso".toList, by decide, rfl⟩, by decide +kernel, by decide +kernel⟩
  refine ⟨accepted, refers, ?_⟩
  have shows := (reference_shows_listed_name.1 _ _ _ accepted).1 _ refers
  rw [shows.adds nestedReference _ _ (ShownIn.deeper ShownIn.here)]
  decide +kernel

end ApiReference
