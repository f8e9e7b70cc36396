import ApiReference.Markup.Node
import ApiReference.Member.Name
import ApiReference.Text.WhiteSpace

/-! ## The text that an element holds

Documentation refers to other symbols by elements that may be left without a text
of their own. Such an element stands for the name it refers to. -/

namespace ApiReference.Markup.Node

/-- Labels of elements that refer to a symbol, an address or a language word. -/
def linkLabels : List Text :=
  ["see".toList, "seealso".toList]

def parameterLabels : List Text :=
  ["paramref".toList, "typeparamref".toList]

/-- What an element refers to, if it is of a kind that refers to something. -/
def target? (node : Node) : Option Text :=
  match node.label? with
  | none => none
  | some label =>
    if linkLabels.contains label then
      (node.attribute? "cref".toList).or <|
        (node.attribute? "href".toList).or <|
          node.attribute? "langword".toList
    else if parameterLabels.contains label then node.attribute? "name".toList
    else none

/-- A target as it is shown: as inline code, without the mark of its kind. -/
def referenceText (target : Text) : Text :=
  ['`'] ++ target.dropKindMark ++ ['`']

/-- The text that stands for an element: the text it holds, unless that is blank
and the element refers to something. -/
def resolvedText (target : Option Text) (held : Text) : Text :=
  if held.isBlank then
    match target with
    | none => held
    | some target => if target.isBlank then held else referenceText target.trim
  else held

mutual

/-- The text that a node contributes to the text of the element around it. -/
def shownText : Node → Text
  | element name attributes children =>
    resolvedText (target? (element name attributes children)) (shownTexts children)
  | text content => content
  | comment _ => []
  | instruction _ _ => []

def shownTexts : List Node → Text
  | [] => []
  | node :: others => node.shownText ++ shownTexts others

end

def elementText (node : Node) : Text :=
  shownTexts node.children

end ApiReference.Markup.Node
