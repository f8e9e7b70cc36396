import ApiReference.Proofs.Loading

/-! ## The title of an export

An export tells the name of its assembly right below its root element. The name that is
read is that of the first element `assembly` in document order, which may stand anywhere
else, within the documentation of a member for instance. -/

namespace ApiReference

open Text Markup Markup.Node

namespace Markup

def Document.root? (document : Document) : Option Node :=
  document.nodes.find? (·.isElement)

namespace Node

/-- Whether a node is the first of some nodes that is wanted. -/
def IsFirst (wanted : Node → Bool) (nodes : List Node) (node : Node) : Prop :=
  wanted node = true ∧
    ∃ before after, nodes = before ++ node :: after ∧ ∀ other ∈ before, wanted other = false

theorem isFirst_iff {wanted : Node → Bool} {nodes : List Node} {node : Node} :
    IsFirst wanted nodes node ↔ nodes.find? wanted = some node := by
  rw [List.find?_eq_some_iff_append]
  simp [IsFirst]

theorem IsFirst.unique {wanted : Node → Bool} {nodes : List Node} {node other : Node}
    (first : IsFirst wanted nodes node) (otherFirst : IsFirst wanted nodes other) :
    node = other := by
  rw [isFirst_iff] at first otherFirst
  rw [first] at otherFirst
  exact Option.some.inj otherFirst

theorem subtree_eq (node : Node) : node.subtree = node :: subtrees node.children := by
  cases node <;> rfl

theorem mem_subtrees {nodes : List Node} {node : Node} (present : node ∈ nodes) :
    node ∈ subtrees nodes := by
  obtain ⟨before, after, rfl⟩ := List.append_of_mem present
  simp [subtrees, subtree_eq node]

end Node

end Markup

namespace Export

/-! ### The name that is read -/

def isAssembly (node : Node) : Bool :=
  node.isLabelled "assembly".toList

def isName (node : Node) : Bool :=
  node.isLabelled "name".toList

/-- The element that the title is read from: the first `name` right below the first
`assembly` in document order. -/
def Entitles (document : Document) (name : Node) : Prop :=
  ∃ assembly, IsFirst isAssembly document.allNodes assembly ∧
    IsFirst isName assembly.children name

def entitling? (document : Document) : Option Node :=
  (document.allNodes.find? isAssembly).bind fun assembly => assembly.children.find? isName

/-- The element that the title is read from is found by two searches. -/
theorem entitles_iff {document : Document} {name : Node} :
    Entitles document name ↔ entitling? document = some name := by
  simp only [Entitles, isFirst_iff, entitling?, Option.bind_eq_some_iff]

theorem assemblyOf_eq_bind (document : Document) :
    assemblyOf document = (entitling? document).bind fun name =>
      if name.elementText.isBlank then none else some name.elementText.trim := by
  have labelled : (fun node : Node => node.isLabelled "assembly".toList) = isAssembly :=
    rfl
  unfold assemblyOf
  rw [labelled, entitling?]
  cases document.allNodes.find? isAssembly with
  | none =>
      rfl
  | some assembly =>
      have labelledName :
          (fun node : Node => node.isLabelled "name".toList) = isName :=
        rfl
      dsimp only [Option.bind_some]
      rw [labelledName]
      cases assembly.children.find? isName <;> rfl

/-- The title is the text of that element, trimmed, unless this is blank. -/
theorem assemblyOf_eq_some_iff {document : Document} {title : Text} :
    assemblyOf document = some title ↔
      ∃ name, Entitles document name ∧ name.elementText.isBlank = false ∧
        title = name.elementText.trim := by
  rw [assemblyOf_eq_bind, Option.bind_eq_some_iff]
  simp only [← entitles_iff]
  apply exists_congr
  intro name
  cases name.elementText.isBlank <;> simp [eq_comm]

theorem assemblyOf_eq_none_iff {document : Document} :
    assemblyOf document = none ↔
      ∀ name, Entitles document name → name.elementText.isBlank = true := by
  rw [Option.eq_none_iff_forall_ne_some]
  constructor
  · intro untitled name entitles
    by_contra solid
    exact untitled _ (assemblyOf_eq_some_iff.mpr ⟨name, entitles, by simpa using solid, rfl⟩)
  · intro blank title titled
    obtain ⟨name, entitles, solid, _⟩ := assemblyOf_eq_some_iff.mp titled
    rw [blank name entitles] at solid
    cases solid

/-! ### The name at its own place -/

def ownNames (document : Document) : List Node :=
  document.root?.toList.flatMap fun root =>
    (root.children.filter isAssembly).flatMap fun assembly =>
      assembly.children.filter isName

/-- The title that an export tells at its own place: the first of these names that is not
blank. -/
def ownTitle? (document : Document) : Option Text :=
  ((ownNames document).find? fun name => !name.elementText.isBlank).map
    fun name => name.elementText.trim

/-- Whether an element right below the root is the first `assembly` in the document. -/
structure InPlace (document : Document) (assembly : Node) : Prop where
  labelled : isAssembly assembly = true
  leads : ∃ root before after, document.root? = some root ∧ isAssembly root = false ∧
    root.children = before ++ assembly :: after ∧
      ∀ node ∈ subtrees before, isAssembly node = false

theorem isAssembly_eq_false_of_not_isElement {node : Node}
    (noElement : node.isElement = false) : isAssembly node = false := by
  rw [← Bool.not_eq_true]
  intro labelled
  have isElement := isElement_of_isLabelled labelled
  rw [noElement] at isElement
  cases isElement

/-- An assembly right below the root, with none before it, is the first of the document. -/
theorem InPlace.isFirst {document : Document} {assembly : Node}
    (inPlace : InPlace document assembly) :
    IsFirst isAssembly document.allNodes assembly := by
  obtain ⟨root, before, after, isRoot, otherRoot, children, clear⟩ := inPlace.leads
  obtain ⟨_, beside, behind, nodes, remarks⟩ := isFirst_iff.mpr isRoot
  -- Beside the root there are only remarks, so that nothing in front of it is an element.
  have besideSelf : subtrees beside = beside :=
    subtrees_eq_self remarks
  refine ⟨inPlace.labelled, beside ++ root :: subtrees before,
    subtrees assembly.children ++ subtrees after ++ subtrees behind, ?_, ?_⟩
  · rw [Document.allNodes, nodes, subtrees_append, besideSelf, subtrees, subtree_eq root,
      children, subtrees_append, subtrees, subtree_eq assembly]
    simp
  · intro other present
    rcases List.mem_append.mp present with isBeside | isWithin
    · exact isAssembly_eq_false_of_not_isElement (remarks other isBeside)
    · rcases List.mem_cons.mp isWithin with rfl | isBefore
      · exact otherRoot
      · exact clear other isBefore

theorem InPlace.ownNames_eq {document : Document} {assembly : Node}
    (inPlace : InPlace document assembly) :
    ∃ others, ownNames document = assembly.children.filter isName ++ others := by
  obtain ⟨root, before, after, isRoot, _, children, clear⟩ := inPlace.leads
  have noneBefore : before.filter isAssembly = [] := by
    rw [List.filter_eq_nil_iff]
    intro node present
    simp [clear node (mem_subtrees present)]
  refine ⟨(after.filter isAssembly).flatMap fun later =>
    later.children.filter isName, ?_⟩
  simp [ownNames, isRoot, children, noneBefore, inPlace.labelled]

/-- If the first assembly is in place, its first name is the own title, unless this is
blank. -/
theorem InPlace.ownTitle?_eq {document : Document} {assembly name : Node}
    (inPlace : InPlace document assembly) (named : IsFirst isName assembly.children name)
    (solid : name.elementText.isBlank = false) :
    ownTitle? document = some name.elementText.trim := by
  obtain ⟨others, names⟩ := inPlace.ownNames_eq
  have first := isFirst_iff.mp named
  rw [← List.head?_filter] at first
  obtain ⟨later, filtered⟩ := List.head?_eq_some_iff.mp first
  simp [ownTitle?, names, filtered, solid]

theorem ownTitle?_eq_none_iff {document : Document} :
    ownTitle? document = none ↔ ∀ name ∈ ownNames document, name.elementText.isBlank = true := by
  simp [ownTitle?, List.find?_eq_none]

/-! ### Agreement -/

/-- The documents whose own title is the one that is read. -/
inductive ReadsOwnTitle (document : Document) : Prop
  | inPlace {assembly name : Node} :
      InPlace document assembly →
      IsFirst isName assembly.children name →
      name.elementText.isBlank = false →
      ReadsOwnTitle document
  /-- A name elsewhere repeats the own title. -/
  | repeated {name : Node} :
      (∀ assembly, ¬ InPlace document assembly) →
      Entitles document name →
      name.elementText.isBlank = false →
      ownTitle? document = some name.elementText.trim →
      ReadsOwnTitle document
  | untitled :
      (∀ name ∈ ownNames document, name.elementText.isBlank = true) →
      (∀ name, Entitles document name → name.elementText.isBlank = true) →
      ReadsOwnTitle document

theorem assemblyOf_eq_ownTitle?_iff {document : Document} :
    assemblyOf document = ownTitle? document ↔ ReadsOwnTitle document := by
  constructor
  · intro agree
    cases read : assemblyOf document with
    | none =>
        rw [read] at agree
        have blank := ownTitle?_eq_none_iff.mp agree.symm
        exact ReadsOwnTitle.untitled blank (assemblyOf_eq_none_iff.mp read)
    | some title =>
        obtain ⟨name, entitles, solid, rfl⟩ := assemblyOf_eq_some_iff.mp read
        by_cases placed : ∃ assembly, InPlace document assembly
        · -- The element in place comes first, so the name that is read is within it.
          obtain ⟨assembly, inPlace⟩ := placed
          obtain ⟨other, firstOther, named⟩ := entitles
          have same := firstOther.unique inPlace.isFirst
          subst same
          exact ReadsOwnTitle.inPlace inPlace named solid
        · rw [read] at agree
          exact ReadsOwnTitle.repeated (not_exists.mp placed) entitles solid agree.symm
  · intro reads
    cases reads with
    | inPlace inPlace named solid =>
        rw [inPlace.ownTitle?_eq named solid, assemblyOf_eq_some_iff]
        exact ⟨_, ⟨_, inPlace.isFirst, named⟩, solid, rfl⟩
    | repeated _ entitles solid own =>
        rw [own, assemblyOf_eq_some_iff]
        exact ⟨_, entitles, solid, rfl⟩
    | untitled ownBlank blank =>
        rw [ownTitle?_eq_none_iff.mpr ownBlank, assemblyOf_eq_none_iff]
        exact blank

theorem exists_document_of_read {text : Text} {entries : Export}
    (accepted : Export.read text = .ok entries) :
    ∃ document, Document.read text = some document ∧ ofDocument document = .ok entries := by
  unfold Export.read at accepted
  cases parsed : Document.read text with
  | none =>
      rw [parsed] at accepted
      cases accepted
  | some document =>
      rw [parsed] at accepted
      dsimp only at accepted
      cases read : ofDocument document with
      | error fault =>
          rw [read] at accepted
          cases accepted
      | ok loaded =>
          rw [read] at accepted
          cases accepted
          exact ⟨document, rfl, read⟩

/-- The title that is read off an export is the first `name` in the first `assembly` of
its document, unless that is blank. This need not be the title at its own place: it is
exactly in the documents of `ReadsOwnTitle`. -/
theorem assembly_eq_ownTitle?_iff {text : Text} {entries : Export}
    (accepted : Export.read text = .ok entries) :
    ∃ document, Document.read text = some document ∧
      DocumentOrder document.nodes document.allNodes ∧
      (∀ title, entries.assembly = some title ↔
        ∃ name, Entitles document name ∧ name.elementText.isBlank = false ∧
          title = name.elementText.trim) ∧
      (entries.assembly = ownTitle? document ↔ ReadsOwnTitle document) := by
  obtain ⟨document, parsed, read⟩ := exists_document_of_read accepted
  rw [(parts_of_ofDocument_ok read).1]
  exact ⟨document, parsed, documentOrder_subtrees document.nodes,
    fun _ => assemblyOf_eq_some_iff, assemblyOf_eq_ownTitle?_iff⟩

/-- An export that names another assembly in its remarks on a type. -/
def titledText : Text :=
  ("<doc><assembly><name> Lib\n</name></assembly><member name='T:A'>" ++
    "<remarks><assembly><name>Other</name></assembly></remarks></member></doc>").toList

def titledExport : Export :=
  ⟨some "Lib".toList,
    [⟨.classType, "A".toList, by decide, [.passage .remarks "Other".toList]⟩]⟩

theorem assembly_eq_ownTitle?_iff_titledText :
    Export.read titledText = .ok titledExport ∧
      ∃ document, Document.read titledText = some document ∧
        titledExport.assembly = ownTitle? document ∧ ReadsOwnTitle document := by
  have evaluated : Export.read titledText = .ok titledExport ∧
      (Document.read titledText).map ownTitle? = some (some "Lib".toList) := by
    decide +kernel
  obtain ⟨accepted, own⟩ := evaluated
  obtain ⟨document, parsed, _, _, agrees⟩ := assembly_eq_ownTitle?_iff accepted
  rw [parsed] at own
  have same : titledExport.assembly = ownTitle? document :=
    (Option.some.inj own).symm
  exact ⟨accepted, document, parsed, same, agrees.mp same⟩

def strayText : Text :=
  ("<doc><member name='T:A'><remarks><assembly><name>Other</name></assembly></remarks>" ++
    "</member><assembly><name>Lib</name></assembly></doc>").toList

def emptyFirstText : Text :=
  "<doc><assembly><name/><name>Lib</name></assembly></doc>".toList

/-- Both exports tell the title `Lib` at its own place, but the title that is read comes
from the remarks on a type, or there is none. -/
theorem title_read_elsewhere :
    Export.read strayText = .ok { titledExport with assembly := some "Other".toList } ∧
      (Document.read strayText).map ownTitle? = some (some "Lib".toList) ∧
      Export.read emptyFirstText = .ok Export.empty ∧
      (Document.read emptyFirstText).map ownTitle? = some (some "Lib".toList) := by
  decide +kernel

end Export

end ApiReference
