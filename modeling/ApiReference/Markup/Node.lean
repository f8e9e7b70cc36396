import ApiReference.Text.Basic

/-! ## Marked-up documents -/

namespace ApiReference.Markup

structure Name where
  space : Option Text
  label : Text
deriving DecidableEq, Repr

structure Attribute where
  name : Name
  value : Text
deriving DecidableEq, Repr

/-- A piece of a document. The attributes of an element are in the order in
which they are written; namespace declarations are not among them. -/
inductive Node
  | element (name : Name) (attributes : List Attribute) (children : List Node)
  | text (content : Text)
  | comment (content : Text)
  | instruction (target content : Text)
deriving Repr

namespace Node

def label? : Node → Option Text
  | element name _ _ => some name.label
  | _ => none

/-- Whether the node is an element of the given label, in any namespace. -/
def isLabelled (label : Text) (node : Node) : Bool :=
  node.label? = some label

def isElement (node : Node) : Bool :=
  node.label?.isSome

def attributes : Node → List Attribute
  | element _ attributes _ => attributes
  | _ => []

def children : Node → List Node
  | element _ _ children => children
  | _ => []

/-- The value of the attribute that has the given label and belongs to no
namespace. -/
def attribute? (label : Text) (node : Node) : Option Text :=
  (node.attributes.find? (·.name = ⟨none, label⟩)).map (·.value)

mutual

def subtree : Node → List Node
  | element name attributes children =>
    element name attributes children :: subtrees children
  | text content => [text content]
  | comment content => [comment content]
  | instruction target content => [instruction target content]

/-- The given nodes and all nodes below them, in document order. -/
def subtrees : List Node → List Node
  | [] => []
  | node :: others => node.subtree ++ subtrees others

end

end Node

/-- A document: its root element among the comments and instructions beside
it. -/
structure Document where
  nodes : List Node
deriving Repr

def Document.allNodes (document : Document) : List Node :=
  Node.subtrees document.nodes

end ApiReference.Markup
