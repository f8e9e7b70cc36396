import ApiReference.Markup.Node
import ApiReference.Markup.Token

/-! ## Namespaces

Attributes whose names start with `xmlns` bind qualifiers to namespaces, for the
element they stand in and all below it. -/

namespace ApiReference.Markup

/-- Qualifiers with the namespaces they are bound to, the binding that counts
before those it hides. The empty qualifier is that of unqualified elements. -/
abbrev Bindings := List (Text × Text)

/-- The label that declares namespaces, as a qualifier and as a label. -/
def declarationMark : Text :=
  "xmlns".toList

def builtInQualifier : Text :=
  "xml".toList

/-- The namespaces that the rules of markup reserve stand at one host. -/
def reservedNamespace (place : String) : Text :=
  "http:".toList ++ "//www.w3.org".toList ++ place.toList

def builtInNamespace : Text :=
  reservedNamespace "/XML/1998/namespace"

/-- The namespace of declarations, which nothing may be bound to. -/
def declarationNamespace : Text :=
  reservedNamespace "/2000/xmlns/"

namespace Bindings

/-- Adds the declaration of a namespace for a qualifier. A qualifier is declared
only once in a tag, and the built-in one keeps its namespace to itself. -/
def declare (declared : Bindings) (qualifier space : Text) : Option Bindings :=
  if space = declarationNamespace then none
  else if qualifier = builtInQualifier && space ≠ builtInNamespace then none
  else if qualifier ≠ builtInQualifier && space = builtInNamespace then none
  else if (declared.lookup qualifier).isSome then none
  else if space = builtInNamespace then some declared
  else some (declared ++ [(qualifier, space)])

/-- Adds the declaration of the namespace of unqualified elements. The first one
in a tag counts. -/
def declareDefault (declared : Bindings) (space : Text) : Option Bindings :=
  if space = declarationNamespace || space = builtInNamespace then none
  else some (declared ++ [([], space)])

def elementName (bindings : Bindings) (name : WrittenName) : Option Name :=
  match bindings.lookup name.qualifier with
  | some space => some ⟨some space, name.label⟩
  | none => if name.qualifier = [] then some ⟨none, name.label⟩ else none

/-- The name of an attribute. Unqualified attributes belong to no namespace. -/
def attributeName (bindings : Bindings) (name : WrittenName) : Option Name :=
  if name.qualifier = [] then some ⟨none, name.label⟩
  else if name.qualifier = builtInQualifier then
    some ⟨some builtInNamespace, name.label⟩
  else (bindings.lookup name.qualifier).map fun space => ⟨some space, name.label⟩

/-- The attributes of a tag with their names resolved. No two of them may have
the same name. -/
def resolve (bindings : Bindings) (written : List (WrittenName × Text)) :
    Option (List Attribute) := do
  let attributes ← written.mapM fun (name, value) =>
    (bindings.attributeName name).map (⟨·, value⟩)
  if (attributes.map (·.name)).Nodup then some attributes else none

end Bindings

end ApiReference.Markup
