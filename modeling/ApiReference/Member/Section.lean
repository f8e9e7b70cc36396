import ApiReference.Text.Lines

/-! ## Sections of a member's documentation -/

namespace ApiReference

/-- The sections that consist of a text alone. -/
inductive Passage
  | name
  | summary
  | returns
  | remarks
  | code
  | inlineCode
  | sample
  | value
deriving DecidableEq, Repr

/-- The sections that describe something the member names: a parameter, a type
parameter, or an exception that it throws. -/
inductive Subject
  | param
  | typeParam
  | exception
deriving DecidableEq, Repr

inductive Section
  /-- A text alone. -/
  | passage (role : Passage) (text : Text)
  /-- A text on a named subject. -/
  | described (role : Subject) (subject text : Text)
  /-- A pointer to another symbol. -/
  | seeAlso (target : Text)
  /-- Any other section, under the tag it was written with. -/
  | other (tag text : Text)
deriving DecidableEq, Repr

/-! ### Sections as written in an export -/

namespace Passage

def tag : Passage → Text
  | name => "name".toList
  | summary => "summary".toList
  | returns => "returns".toList
  | remarks => "remarks".toList
  | code => "code".toList
  | inlineCode => "c".toList
  | sample => "example".toList
  | value => "value".toList

def all : List Passage :=
  [name, summary, returns, remarks, code, inlineCode, sample, value]

def ofTag? (tag : Text) : Option Passage :=
  all.find? (·.tag = tag)

theorem ofTag?_tag (role : Passage) : ofTag? role.tag = some role := by
  cases role <;> decide

theorem tag_of_ofTag? {tag : Text} {role : Passage}
    (found : ofTag? tag = some role) : role.tag = tag := by
  simpa using List.find?_some found

def normal : Passage → Text → Text
  | code, text => text.normalCode
  | _, text => text.normalProse

/-- All texts but those of code are prose. -/
theorem normal_eq_normalProse {role : Passage} (notCode : role ≠ code) (text : Text) :
    role.normal text = text.normalProse := by
  cases role with
  | code => exact absurd rfl notCode
  | _ => rfl

end Passage

namespace Subject

def tag : Subject → Text
  | param => "param".toList
  | typeParam => "typeparam".toList
  | exception => "exception".toList

def all : List Subject :=
  [param, typeParam, exception]

def ofTag? (tag : Text) : Option Subject :=
  all.find? (·.tag = tag)

theorem ofTag?_tag (role : Subject) : ofTag? role.tag = some role := by
  cases role <;> decide

theorem tag_of_ofTag? {tag : Text} {role : Subject}
    (found : ofTag? tag = some role) : role.tag = tag := by
  simpa using List.find?_some found

end Subject

namespace Section

def seeAlsoTag : Text :=
  "seealso".toList

/-- The section that a tag, the value of its first attribute and its text make.
A tag that needs its attribute and lacks it makes a section of no known role;
where no attribute is needed, it is ignored. -/
def ofTag (tag : Text) (firstValue : Option Text) (text : Text) : Section :=
  match Passage.ofTag? tag with
  | some role => passage role (role.normal text)
  | none =>
    match firstValue with
    | none => other tag text.normalProse
    | some value =>
      match Subject.ofTag? tag with
      | some role => described role value text.normalProse
      | none =>
        if tag = seeAlsoTag then seeAlso value else other tag text.normalProse

/-- The text of a section. A pointer to another symbol has none. -/
def text : Section → Text
  | passage _ text => text
  | described _ _ text => text
  | seeAlso _ => []
  | other _ text => text

/-- A section is empty when nothing would be written for it. One that names a
subject or a target never is. -/
def isEmpty : Section → Bool
  | passage _ text => text.isEmpty
  | described _ _ _ => false
  | seeAlso _ => false
  | other _ text => text.isEmpty

end Section

end ApiReference
