import ApiReference.Export.ElementText
import ApiReference.Markup.Document
import ApiReference.Member.Basic

/-! ## Documentation exports

An export lists the documented members of an assembly, in the order in which the
compiler wrote them. -/

namespace ApiReference

open Markup

/-- The documented members of an assembly, whose name may be unknown. -/
structure Export where
  assembly : Option Text
  members : List Member
deriving DecidableEq, Repr

namespace Export

def empty : Export :=
  ⟨none, []⟩

/-! ### Editing an export -/

def add (entries : Export) (member : Member) : Export :=
  { entries with members := entries.members ++ [member] }

/-- The export with a member inserted at a place, or behind the others when there
are fewer of them. -/
def insert (entries : Export) (place : Nat) (member : Member) : Export :=
  { entries with
    members := entries.members.take place ++ member :: entries.members.drop place }

def remove (entries : Export) (place : Nat) : Export :=
  { entries with members := entries.members.eraseIdx place }

def swap (entries : Export) (place other : Nat) : Export :=
  match entries.members[place]?, entries.members[other]? with
  | some first, some second =>
    { entries with members := (entries.members.set place second).set other first }
  | _, _ => entries

/-! ### Reading an export -/

/-- The section that an element below a member makes. Its first attribute counts,
whatever it is called. -/
def sectionOf (node : Node) : Section :=
  Section.ofTag (node.label?.getD []) (node.attributes.head?.map (·.value))
    node.elementText

def sectionsOf (node : Node) : List Section :=
  (node.children.filter (·.isElement)).map sectionOf

def memberOf (node : Node) : Except Member.Fault Member :=
  match node.attribute? "name".toList with
  | none => .error .nameless
  | some rawName => Member.ofRawName rawName (sectionsOf node)

/-- The name of the assembly: the text of the first child `name` of the first
element `assembly`, wherever in the document that stands. -/
def assemblyOf (document : Document) : Option Text :=
  match document.allNodes.find? (·.isLabelled "assembly".toList) with
  | none => none
  | some assembly =>
    match assembly.children.find? (·.isLabelled "name".toList) with
    | none => none
    | some name => if name.elementText.isBlank then none else some name.elementText.trim

/-- The export that a document holds. Its members are the elements `member` at
any depth; the first that is no member fails the whole. -/
def ofDocument (document : Document) : Except Member.Fault Export := do
  let entries := document.allNodes.filter (·.isLabelled "member".toList)
  return ⟨assemblyOf document, ← entries.mapM memberOf⟩

end Export

end ApiReference
