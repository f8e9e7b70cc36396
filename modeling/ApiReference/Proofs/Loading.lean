import ApiReference.Conversion
import ApiReference.Proofs.KeptText
import ApiReference.Proofs.TreeChanges

/-! ## Members as they are loaded

The members of an export are the elements `member` of its document, one for one and in
document order, provided that all of them name a member. Otherwise the first that does
not decides how the loading fails. -/

namespace ApiReference

open Markup

/-! ### Document order -/

namespace Markup

/-- The nodes of a tree in document order: a node stands in front of all nodes below it,
and these stand in front of its next sibling. -/
inductive Node.DocumentOrder : List Node → List Node → Prop
  | nil : DocumentOrder [] []
  | cons {node : Node} {others below later : List Node} :
      DocumentOrder node.children below →
      DocumentOrder others later →
      DocumentOrder (node :: others) (node :: (below ++ later))

mutual

theorem Node.documentOrder_subtree : ∀ (node : Node) {others later : List Node},
    Node.DocumentOrder others later →
      Node.DocumentOrder (node :: others) (node.subtree ++ later)
  | .element name attributes children, _, _, ordered => by
      have below := Node.documentOrder_subtrees children
      exact Node.DocumentOrder.cons below ordered
  | .text content, _, _, ordered =>
      Node.DocumentOrder.cons Node.DocumentOrder.nil ordered
  | .comment content, _, _, ordered =>
      Node.DocumentOrder.cons Node.DocumentOrder.nil ordered
  | .instruction target content, _, _, ordered =>
      Node.DocumentOrder.cons Node.DocumentOrder.nil ordered

theorem Node.documentOrder_subtrees : ∀ nodes : List Node,
    Node.DocumentOrder nodes (Node.subtrees nodes)
  | [] => Node.DocumentOrder.nil
  | node :: others =>
      Node.documentOrder_subtree node (Node.documentOrder_subtrees others)

end

end Markup

/-! ### Names of members -/

/-- The text from an offset on that counts bytes of UTF-8. There is no such text where
the offset lies behind the end or within a character. -/
def Text.fromByte? : (offset : Nat) → Text → Option Text
  | 0, text => some text
  | _ + 1, [] => none
  | offset + 1, c :: rest =>
    if c.utf8Size ≤ offset + 1 then Text.fromByte? (offset + 1 - c.utf8Size) rest
    else none

namespace Kind

def letters : Text :=
  ['T', 'M', 'P', 'F', 'E', 'N']

theorem letter_mem_letters (kind : Kind) : kind.letter ∈ letters := by
  cases kind <;> decide

theorem utf8Size_letter (kind : Kind) : kind.letter.utf8Size = 1 := by
  cases kind <;> decide

theorem ofLetter?_eq_some_iff {letter : Char} {kind : Kind} :
    ofLetter? letter = some kind ↔ letter = kind.letter := by
  constructor
  · intro found
    unfold ofLetter? at found
    split at found <;> cases found <;> rfl
  · rintro rfl
    exact ofLetter?_letter kind

theorem ofLetter?_eq_none_iff {letter : Char} :
    ofLetter? letter = none ↔ letter ∉ letters := by
  constructor
  · intro unknown known
    have listed : letter = 'T' ∨ letter = 'M' ∨ letter = 'P' ∨ letter = 'F' ∨
        letter = 'E' ∨ letter = 'N' := by
      simpa [letters] using known
    rcases listed with rfl | rfl | rfl | rfl | rfl | rfl <;> cases unknown
  · intro unlisted
    cases found : ofLetter? letter with
    | none =>
        rfl
    | some kind =>
        rw [ofLetter?_eq_some_iff.mp found] at unlisted
        exact absurd kind.letter_mem_letters unlisted

end Kind

namespace Member

/-- Whether a text names a member: it is the letter of a kind, a colon, and at least one
more character. -/
def IsRawName (rawName : Text) : Prop :=
  ∃ letter ∈ Kind.letters, ∃ longName, longName ≠ [] ∧ rawName = letter :: ':' :: longName

theorem isRawName_rawName (member : Member) : IsRawName member.rawName :=
  ⟨_, member.kind.letter_mem_letters, _, member.longName_ne_nil, rfl⟩

theorem fromByte?_rawName (member : Member) :
    member.rawName.fromByte? 2 = some member.longName := by
  have letterSize := member.kind.utf8Size_letter
  have colonSize : Char.utf8Size ':' = 1 := by
    decide
  simp [rawName, Text.fromByte?, letterSize, colonSize]

/-- What is wrong with an element that names no member. A first letter that stands for no
kind is found before the form of the name is looked at. -/
inductive FaultIn (element : Node) : Fault → Prop
  | nameless :
      element.attribute? "name".toList = none →
      FaultIn element .nameless
  | emptyName :
      element.attribute? "name".toList = some [] →
      FaultIn element .emptyName
  | unknownKind {letter : Char} {rest : Text} :
      element.attribute? "name".toList = some (letter :: rest) →
      letter ∉ Kind.letters →
      FaultIn element (.unknownKind (letter :: rest) letter)
  | unformed {letter : Char} {rest : Text} :
      element.attribute? "name".toList = some (letter :: rest) →
      letter ∈ Kind.letters →
      ¬ IsRawName (letter :: rest) →
      FaultIn element (.unformed (letter :: rest))

/-- A raw name makes a member of this name, or has one of three faults. -/
theorem ofRawName_cases (rawName : Text) (sections : List Section) :
    (∃ member, ofRawName rawName sections = .ok member ∧ member.rawName = rawName ∧
        member.sections = sections) ∨
      (rawName = [] ∧ ofRawName rawName sections = .error .emptyName) ∨
      ∃ letter rest, rawName = letter :: rest ∧
        ((letter ∉ Kind.letters ∧
            ofRawName rawName sections = .error (.unknownKind rawName letter)) ∨
          (letter ∈ Kind.letters ∧ ¬ IsRawName rawName ∧
            ofRawName rawName sections = .error (.unformed rawName))) := by
  cases rawName with
  | nil =>
      exact Or.inr (Or.inl ⟨rfl, rfl⟩)
  | cons letter rest =>
      cases found : Kind.ofLetter? letter with
      | none =>
          have unlisted := Kind.ofLetter?_eq_none_iff.mp found
          refine Or.inr (Or.inr ⟨letter, rest, rfl, Or.inl ⟨unlisted, ?_⟩⟩)
          simp [ofRawName, found]
      | some kind =>
          have isLetter := Kind.ofLetter?_eq_some_iff.mp found
          have listed : letter ∈ Kind.letters := isLetter ▸ kind.letter_mem_letters
          by_cases formed : ∃ first others, rest = ':' :: first :: others
          · obtain ⟨first, others, rfl⟩ := formed
            refine Or.inl ⟨⟨kind, first :: others, by simp, sections⟩, ?_, ?_, rfl⟩
            · simp [ofRawName, found]
            · rw [isLetter]
              rfl
          · refine Or.inr (Or.inr ⟨letter, rest, rfl, Or.inr ⟨listed, ?_, ?_⟩⟩)
            · rintro ⟨other, _, longName, present, same⟩
              obtain ⟨first, others, rfl⟩ := List.exists_cons_of_ne_nil present
              exact formed ⟨first, others, (List.cons.inj same).2⟩
            · simp only [ofRawName, found]
              split
              next impossible =>
                cases impossible
              next first others _ =>
                exact absurd ⟨first, others, rfl⟩ formed
              next =>
                rfl

theorem rawName_of_ofRawName_ok {rawName : Text} {sections : List Section} {member : Member}
    (accepted : ofRawName rawName sections = .ok member) : member.rawName = rawName := by
  rcases ofRawName_cases rawName sections with
    ⟨other, made, same, _⟩ | ⟨_, failed⟩ | ⟨_, _, _, ⟨_, failed⟩ | ⟨_, _, failed⟩⟩
  · rw [made, Except.ok.injEq] at accepted
    rw [← accepted, same]
  all_goals
    rw [failed] at accepted
    cases accepted

end Member

namespace Export

/-! ### Elements that are members -/

/-- What a member takes over from its element. The raw name is the value of the attribute
`name`, and the long name is what stands behind its first two bytes. There is one section
for each element right below, made of that element alone. -/
structure Records (element : Node) (member : Member) : Prop where
  rawName : element.attribute? "name".toList = some member.rawName
  rawName_split : member.rawName = member.kind.letter :: ':' :: member.longName
  longName_sliced : member.rawName.fromByte? 2 = some member.longName
  sections : member.sections = (element.children.filter (·.isElement)).map sectionOf

def IsEntry (element : Node) : Prop :=
  ∃ rawName, element.attribute? "name".toList = some rawName ∧ Member.IsRawName rawName

/-- An element is recorded as a member, or something is wrong with it. -/
theorem memberOf_cases (element : Node) :
    (∃ member, memberOf element = .ok member ∧ Records element member) ∨
      ∃ fault, memberOf element = .error fault ∧ Member.FaultIn element fault := by
  unfold memberOf
  cases named : element.attribute? "name".toList with
  | none =>
      exact Or.inr ⟨.nameless, rfl, Member.FaultIn.nameless named⟩
  | some rawName =>
      rcases Member.ofRawName_cases rawName (sectionsOf element) with
        ⟨member, made, same, sections⟩ | ⟨rfl, failed⟩ |
          ⟨letter, rest, rfl, ⟨unlisted, failed⟩ | ⟨listed, unformed, failed⟩⟩
      · refine Or.inl ⟨member, made, ?_⟩
        exact ⟨by rw [named, same], rfl, member.fromByte?_rawName, sections⟩
      · exact Or.inr ⟨_, failed, Member.FaultIn.emptyName named⟩
      · exact Or.inr ⟨_, failed, Member.FaultIn.unknownKind named unlisted⟩
      · exact Or.inr ⟨_, failed, Member.FaultIn.unformed named listed unformed⟩

theorem Records.isEntry {element : Node} {member : Member}
    (records : Records element member) : IsEntry element :=
  ⟨_, records.rawName, member.isRawName_rawName⟩

theorem not_isEntry_of_faultIn {element : Node} {fault : Member.Fault}
    (faulty : Member.FaultIn element fault) : ¬ IsEntry element := by
  rintro ⟨rawName, named, letter, listed, longName, present, rfl⟩
  cases faulty with
  | nameless unnamed =>
      rw [unnamed] at named
      cases named
  | emptyName empty =>
      rw [empty] at named
      cases named
  | unknownKind other unlisted =>
      rw [other] at named
      cases named
      exact unlisted listed
  | unformed other _ unformed =>
      rw [other] at named
      cases named
      exact unformed ⟨letter, listed, longName, present, rfl⟩

/-- The entries are the elements that members are read from. -/
theorem isEntry_iff_memberOf_ok {element : Node} :
    IsEntry element ↔ ∃ member, memberOf element = .ok member := by
  rcases memberOf_cases element with
    ⟨member, read, records⟩ | ⟨fault, failed, faulty⟩
  · exact ⟨fun _ => ⟨member, read⟩, fun _ => records.isEntry⟩
  · constructor
    · intro isEntry
      exact absurd isEntry (not_isEntry_of_faultIn faulty)
    · rintro ⟨member, read⟩
      rw [failed] at read
      cases read

theorem records_of_memberOf_ok {element : Node} {member : Member}
    (read : memberOf element = .ok member) : Records element member := by
  rcases memberOf_cases element with
    ⟨other, readOther, records⟩ | ⟨fault, failed, _⟩
  · rw [read] at readOther
    cases readOther
    exact records
  · rw [read] at failed
    cases failed

theorem faultIn_of_memberOf_error {element : Node} {fault : Member.Fault}
    (failed : memberOf element = .error fault) : Member.FaultIn element fault := by
  rcases memberOf_cases element with
    ⟨member, read, _⟩ | ⟨other, failedOther, faulty⟩
  · rw [failed] at read
    cases read
  · rw [failed] at failedOther
    cases failedOther
    exact faulty

/-- Texts and remarks right below an element have no part in its member. -/
theorem memberOf_filter_isElement (name : Name) (attributes : List Attribute)
    (children : List Node) :
    memberOf (.element name attributes (children.filter (·.isElement))) =
      memberOf (.element name attributes children) := by
  apply memberOf_congr
  rw [List.filter_filter]
  simp only [Bool.and_self]

/-! ### The first fault -/

/-- A list is read as a whole, or up to the first item that cannot be read. -/
theorem mapM_cases {α β ε : Type} (read : α → Except ε β) (items : List α) :
    (∃ results, items.mapM read = .ok results ∧
        ∀ item ∈ items, ∃ result, read item = .ok result) ∨
      ∃ before bad after fault,
        items = before ++ bad :: after ∧
          (∀ item ∈ before, ∃ result, read item = .ok result) ∧
          read bad = .error fault ∧ items.mapM read = .error fault := by
  induction items with
  | nil =>
      exact Or.inl ⟨[], rfl, by simp⟩
  | cons item others inductionHypothesis =>
      rw [List.mapM_cons]
      cases first : read item with
      | error fault =>
          exact Or.inr ⟨[], item, others, fault, rfl, by simp, first, rfl⟩
      | ok result =>
          rcases inductionHypothesis with
            ⟨results, later, all⟩ | ⟨before, bad, after, fault, rfl, good, failed, later⟩
          · refine Or.inl ⟨result :: results, by rw [later]; rfl, ?_⟩
            intro other present
            rcases List.mem_cons.mp present with rfl | isLater
            · exact ⟨result, first⟩
            · exact all other isLater
          · refine Or.inr ⟨item :: before, bad, after, fault, rfl, ?_, failed, ?_⟩
            · intro other present
              rcases List.mem_cons.mp present with rfl | isLater
              · exact ⟨result, first⟩
              · exact good other isLater
            · rw [later]
              rfl

/-! ### Loading -/

/-- What comes of loading a document, given its elements `member` in document order. All
of them must be entries. The members then are what these elements record; otherwise the
first element that is no entry tells the failure. -/
structure LoadsAs (elements : List Node) (outcome : Except Failure Export) : Prop where
  succeeds_iff :
    (∃ entries, outcome = .ok entries) ↔ ∀ element ∈ elements, IsEntry element
  members :
    ∀ entries, outcome = .ok entries →
      List.Forall₂ Records elements entries.members
  first_fault :
    ∀ failure, outcome = .error failure →
      ∃ before bad after fault,
        elements = before ++ bad :: after ∧
          (∀ element ∈ before, IsEntry element) ∧ ¬ IsEntry bad ∧
          Member.FaultIn bad fault ∧ failure = .badMember fault

/-- Every document loads as its elements `member` tell. -/
theorem loadsAs_ofDocument (document : Document) :
    LoadsAs (document.allNodes.filter (·.isLabelled "member".toList))
      ((ofDocument document).mapError .badMember) := by
  rcases mapM_cases memberOf
      (document.allNodes.filter (·.isLabelled "member".toList)) with
    ⟨members, read, all⟩ | ⟨before, bad, after, fault, split, good, failed, read⟩
  · have loaded : ofDocument document = .ok ⟨assemblyOf document, members⟩ := by
      simp only [ofDocument, read]
      rfl
    rw [loaded]
    refine ⟨?_, ?_, ?_⟩
    · refine ⟨fun _ element present => ?_, fun _ => ⟨_, rfl⟩⟩
      exact isEntry_iff_memberOf_ok.mpr (all element present)
    · intro entries same
      cases same
      exact (forall₂_memberOf loaded).imp fun _ _ => records_of_memberOf_ok
    · intro failure same
      cases same
  · have notLoaded : ofDocument document = .error fault := by
      simp only [ofDocument, read]
      rfl
    have faulty := faultIn_of_memberOf_error failed
    have notEntry := not_isEntry_of_faultIn faulty
    rw [notLoaded, split]
    refine ⟨?_, ?_, ?_⟩
    · constructor
      · rintro ⟨entries, same⟩
        cases same
      · intro all
        exact absurd (all bad (by simp)) notEntry
    · intro entries same
      cases same
    · intro failure same
      cases same
      refine ⟨before, bad, after, fault, rfl, ?_, notEntry, faulty, rfl⟩
      intro element present
      exact isEntry_iff_memberOf_ok.mpr (good element present)

/-- A text that is no document is malformed input. The members of a document are its
elements `member` at any depth, in document order, or loading fails for the first of
these that is no entry. Of such an element only its attributes and the elements right
below it count. -/
theorem read_members_or_first_fault (text : Text) :
    (match Document.read text with
      | none => Export.read text = .error .malformedInput
      | some document =>
        Node.DocumentOrder document.nodes document.allNodes ∧
          LoadsAs (document.allNodes.filter (·.isLabelled "member".toList))
            (Export.read text)) ∧
      ∀ (name : Name) (attributes : List Attribute) (children : List Node),
        memberOf (.element name attributes children) =
          memberOf (.element name attributes (children.filter (·.isElement))) := by
  refine ⟨?_, fun name attributes children =>
    (memberOf_filter_isElement name attributes children).symm⟩
  unfold Export.read
  cases Document.read text with
  | none =>
      rfl
  | some document =>
      exact ⟨Node.documentOrder_subtrees document.nodes, loadsAs_ofDocument document⟩

-- The inner element is the first offender, though the unknown kind has a name at least.
example :
    Export.read
        "<doc><member name='T:A'><member/></member><member name='Q:B'/></doc>".toList =
      .error (.badMember .nameless) := by
  decide +kernel

end Export

end ApiReference
