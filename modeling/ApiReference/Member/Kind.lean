import ApiReference.Text.Basic

/-! ## Kinds of symbols -/

namespace ApiReference

inductive Kind
  | classType
  | method
  | property
  | field
  | event
  | nameSpace
deriving DecidableEq, Repr

namespace Kind

def letter : Kind → Char
  | classType => 'T'
  | method => 'M'
  | property => 'P'
  | field => 'F'
  | event => 'E'
  | nameSpace => 'N'

def ofLetter? : Char → Option Kind
  | 'T' => some classType
  | 'M' => some method
  | 'P' => some property
  | 'F' => some field
  | 'E' => some event
  | 'N' => some nameSpace
  | _ => none

theorem ofLetter?_letter (kind : Kind) : ofLetter? kind.letter = some kind := by
  cases kind <;> rfl

def label : Kind → Text
  | classType => "class".toList
  | method => "method".toList
  | property => "property".toList
  | field => "field".toList
  | event => "event".toList
  | nameSpace => "namespace".toList

/-- Classes head the groups of a catalog; all other members stand below them. -/
def isClass (kind : Kind) : Bool :=
  kind = classType

@[simp]
theorem isClass_iff {kind : Kind} : kind.isClass = true ↔ kind = classType := by
  simp [isClass]

@[simp]
theorem isClass_eq_false_iff {kind : Kind} : kind.isClass = false ↔ kind ≠ classType := by
  simp [isClass]

end Kind

end ApiReference
