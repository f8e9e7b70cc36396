import ApiReference.Markup.Namespace

/-! ## Building the tree of a document

Tokens build a tree from its front. An element that is still open is a frame,
and the innermost frame takes the next node. -/

namespace ApiReference.Markup

/-- An element that is still open. Its children are held backwards. -/
structure Frame where
  written : WrittenName
  name : Name
  attributes : List Attribute
  bindings : Bindings
  children : List Node

/-- A tree under construction. Frames are listed from the innermost one, and the
finished nodes of the document are held backwards. -/
structure Builder where
  frames : List Frame
  nodes : List Node
  /-- The name of the tag last begun in the text at hand. -/
  tag : Option WrittenName
  /-- The namespaces declared since the last tag ended. -/
  declared : Bindings
  /-- The attributes written since the last tag ended. -/
  written : List (WrittenName × Text)
  /-- How many references the outermost entity at hand led to so far. -/
  references : Nat

namespace Builder

def empty : Builder :=
  ⟨[], [], none, [], [], 0⟩

/-- Puts a node behind the others; a text that follows a text goes on with it. -/
def appendNode : Node → List Node → List Node
  | .text more, .text content :: others => .text (content ++ more) :: others
  | node, others => node :: others

/-- Adds a node to the innermost open element, or else to the document. -/
def place (builder : Builder) (node : Node) : Builder :=
  match builder.frames with
  | [] => { builder with nodes := appendNode node builder.nodes }
  | frame :: outer =>
    { builder with
      frames := { frame with children := appendNode node frame.children } :: outer }

def placeText (builder : Builder) (content : Text) : Builder :=
  if content.isEmpty then builder else builder.place (.text content)

/-- Begins a tag. The qualifier of declarations is not for elements. -/
def beginTag (builder : Builder) (name : WrittenName) : Option Builder :=
  if name.qualifier = declarationMark then none
  else some { builder with tag := some name }

/-- Adds an attribute, which may be the declaration of a namespace, to the tag at
hand. -/
def addAttribute (builder : Builder) (name : WrittenName) (value : Text) :
    Option Builder :=
  if name.qualifier = declarationMark then do
    let declared ← builder.declared.declare name.label value
    return { builder with declared := declared }
  else if name.label = declarationMark then do
    let declared ← builder.declared.declareDefault value
    return { builder with declared := declared }
  else some { builder with written := builder.written ++ [(name, value)] }

def bindings (builder : Builder) : Bindings :=
  builder.declared ++ (builder.frames.head?.map (·.bindings)).getD []

def clearTag (builder : Builder) : Builder :=
  { builder with declared := [], written := [] }

def endTag (builder : Builder) (selfClosed : Bool) : Option Builder := do
  let written ← builder.tag
  let bindings := builder.bindings
  let attributes ← bindings.resolve builder.written
  let name ← bindings.elementName written
  let builder := builder.clearTag
  if selfClosed then return builder.place (.element name attributes [])
  else
    let frame : Frame := ⟨written, name, attributes, bindings, []⟩
    return { builder with frames := frame :: builder.frames }

/-- Closes the innermost open element, whose name must be written as in its
opening tag. A text at hand in which no tag was begun yet may close nothing, and
attributes that a cut-off tag left behind must make sense even here. -/
def closeElement (builder : Builder) (name : WrittenName) : Option Builder := do
  let _ ← builder.tag
  let _ ← builder.bindings.resolve builder.written
  match builder.frames with
  | [] => none
  | frame :: outer =>
    if frame.written = name then
      let node := Node.element frame.name frame.attributes frame.children.reverse
      return { builder.clearTag with frames := outer }.place node
    else none

/-- The document, once all its elements are closed. It must have an element. -/
def document? (builder : Builder) : Option Document :=
  if builder.frames.isEmpty && builder.nodes.any (·.isElement) then
    some ⟨builder.nodes.reverse⟩
  else none

end Builder

end ApiReference.Markup
