import ApiReference.Markdown.MemberBlocks

/-! ## The list of features

Each member has an entry that links to its documentation. Classes are numbered;
the entries of other members stand below them. -/

namespace ApiReference

namespace Member

/-- The mark in front of a member's entry; a class bears the number `number`. -/
def entryMark (number : Nat) (member : Member) : Text :=
  if member.kind.isClass then ['\n'] ++ Nat.toDigits 10 number ++ ". ".toList
  else "- ".toList

def entry (number : Nat) (member : Member) : Text :=
  member.entryMark number ++ Markdown.link member.longName member.anchor ++ ['\n']

end Member

namespace Markdown

/-- The entries of members, the first class of which bears the number
`number`. -/
def entriesFrom (number : Nat) : List Member → List Text
  | [] => []
  | member :: others =>
    member.entry number ::
      entriesFrom (if member.kind.isClass then number + 1 else number) others

def entries (members : List Member) : List Text :=
  entriesFrom 1 members

end Markdown

def Catalog.featureList (catalog : Catalog) : Text :=
  (Markdown.entries catalog.members).flatten

end ApiReference
