import ApiReference.Member.Kind
import ApiReference.Member.Name
import ApiReference.Member.Section

/-! ## Documented members -/

namespace ApiReference

structure Member where
  kind : Kind
  longName : Text
  longName_ne_nil : longName ≠ []
  sections : List Section
deriving DecidableEq, Repr

namespace Member

/-! ### Members by their raw names -/

/-- Why an entry of an export is no member. -/
inductive Fault
  /-- The entry has no attribute `name`. -/
  | nameless
  /-- The name is empty. -/
  | emptyName
  /-- The first letter of the name stands for no kind. -/
  | unknownKind (rawName : Text) (letter : Char)
  /-- The name does not consist of a letter, a colon and a long name. -/
  | unformed (rawName : Text)
deriving DecidableEq, Repr

/-- The name of a member in an export: the letter of its kind, a colon, and the
long name. -/
def rawName (member : Member) : Text :=
  member.kind.letter :: ':' :: member.longName

def ofRawName : (rawName : Text) → List Section → Except Fault Member
  | [], _ => .error .emptyName
  | letter :: rest, sections =>
    match Kind.ofLetter? letter, rest with
    | none, _ => .error (.unknownKind (letter :: rest) letter)
    | some kind, ':' :: first :: others =>
      .ok ⟨kind, first :: others, List.cons_ne_nil first others, sections⟩
    | some _, _ => .error (.unformed (letter :: rest))

/-! ### Names to show -/

/-- The text of the first section that names the member and is not empty. -/
def givenName (member : Member) : Option Text :=
  member.sections.findSome? fun
    | .passage .name text => if text.isEmpty then none else some text
    | _ => none

/-- The given name, or the long name for want of one. -/
def displayName (member : Member) : Text :=
  member.givenName.getD member.longName

def shortName (member : Member) : Text :=
  member.longName.shortName

/-- Whether the member has no section that is worth writing. -/
def isUndocumented (member : Member) : Bool :=
  member.sections.all (·.isEmpty)

end Member

end ApiReference
