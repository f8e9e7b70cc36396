import ApiReference.Text.Basic

/-! ## Names of symbols

A long name is a chain of segments, one in the other, with a parameter list
behind it: `Shapes.Circle.Scale(System.Double)`. -/

namespace ApiReference.Text

/-- Namespaces and types are followed by a dot, types that hold other types by a
plus sign. -/
def isSeparator (c : Char) : Bool :=
  c = '.' || c = '+'

def qualifiedPart (longName : Text) : Text :=
  longName.takeWhile (· ≠ '(')

/-- The parameter list of a long name, from its first parenthesis on. -/
def parameterPart (longName : Text) : Text :=
  longName.dropWhile (· ≠ '(')

/-- What a chain of segments, innermost first, is called for short. Constructors
have a name that starts with `#`, and are called by the type they belong to. -/
def innermost : List Text → Text
  | [] => []
  | [name] => name
  | name :: owner :: _ =>
    if name.head? = some '#' && owner ≠ [] then owner else name

/-- The last segment of a long name together with the parameter list. -/
def shortName (longName : Text) : Text :=
  innermost (longName.qualifiedPart.splitOnP isSeparator).reverse ++
    longName.parameterPart

/-- A reference without the letter and the colon that tell the kind of its
target. Only a letter of ASCII can be such a letter. -/
def dropKindMark : Text → Text
  | letter :: ':' :: name =>
    if letter ≠ ':' && letter.toNat < 0x80 then name else letter :: ':' :: name
  | reference => reference

end ApiReference.Text
