import ApiReference.Catalog
import ApiReference.Markdown.Layout

/-! ## The documentation of a member -/

namespace ApiReference

open Markdown

/-! ### Sections -/

namespace Passage

def layout (role : Passage) (level : Nat) (language text : Text) : Text :=
  match role with
  | name => heading level text
  | summary => text
  | returns => "Returns: ".toList ++ text
  | remarks => "Remarks: ".toList ++ text
  | code => fencedCode language text
  | inlineCode => codeSpan text
  | sample => "Example:\n".toList ++ text
  | value => "Value: ".toList ++ text

end Passage

def Subject.introduction : Subject → Text
  | param => "- ".toList
  | typeParam => "- Type parameter ".toList
  | exception => "- Throws ".toList

namespace Section

/-- The layout of a section. A section of no known role is plain text. -/
def layout (level : Nat) (language : Text) : Section → Text
  | passage role text => role.layout level language text
  | described role subject text =>
    role.introduction ++ subject ++ ": ".toList ++ text
  | seeAlso target => "See also: ".toList ++ target
  | other _ text => text

def block (level : Nat) (language : Text) (part : Section) : Text :=
  (part.layout level language).trim

def notices : Section → List Notice
  | other tag _ => [.plain tag]
  | _ => []

end Section

/-! ### Members -/

namespace Member

/-- Classes have headings of the third level; those of all other members stand
one level below. -/
def headingDepth (member : Member) : Nat :=
  if member.kind.isClass then 3 else 4

def anchor (member : Member) : Text :=
  Markdown.anchor member.displayName

def plainHeading (member : Member) : Text :=
  anchored (heading member.headingDepth member.shortName) member.anchor

def writtenSections (member : Member) : List Section :=
  member.sections.filter fun part => !part.isEmpty

/-- The blocks of a member's documentation, in order. A given name is its own
heading, and stands where its section stands. -/
def blocks (language : Text) (member : Member) : List Text :=
  (if member.givenName.isNone then [member.plainHeading] else []) ++
    member.writtenSections.map (·.block member.headingDepth language)

def documentation (language : Text) (member : Member) : Text :=
  (member.blocks language).flatMap separated

def notices (member : Member) : List Notice :=
  member.writtenSections.flatMap (·.notices)

end Member

end ApiReference
