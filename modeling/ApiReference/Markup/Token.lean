import ApiReference.Markup.Scanner

/-! ## Tokens

The content of an element is a sequence of tokens. A tag makes several of them:
its start, its attributes, and its end. Where a text stops inside a tag, the
tokens of the tag simply stop as well. -/

namespace ApiReference.Markup

/-- A name as it is written: a qualifier, which is empty where none is written,
and a label. -/
structure WrittenName where
  qualifier : Text
  label : Text
deriving DecidableEq, Repr

/-- A token of content. Values and texts are raw: references in them are not
resolved yet. -/
inductive Token
  | tagStart (name : WrittenName)
  | attr (name : WrittenName) (value : Text)
  | tagEnd (selfClosed : Bool)
  | closingTag (name : WrittenName)
  | text (raw : Text)
  | verbatim (content : Text)
  | comment (content : Text)
  | instruction (target content : Text)
deriving Repr

/-! ### Single tokens -/

namespace Scanner

/-- A name with at most one colon in it. The label must not be empty; the
qualifier may be, with or without the colon. -/
def writtenName : Scanner WrittenName := do
  match (← takeWhile isNamePart).splitOn ':' with
  | [label] =>
    require (label.head?.any isNameStart)
    return ⟨[], label⟩
  | [qualifier, label] =>
    require (qualifier.head?.all isNameStart && label.head?.any isNameStart)
    return ⟨qualifier, label⟩
  | _ => refuse

def attr : Scanner Token := do
  let name ← writtenName
  skipSpaces
  expect ['=']
  skipSpaces
  let value ← quoted
  require (value.all fun c => isAllowed c && c ≠ '<')
  return .attr name value

def comment : Scanner Text := do
  let content ← upTo "-->".toList
  require (content.all isAllowed)
  require (splitAtMark "--".toList [] content).isNone
  require (content.getLast? ≠ some '-')
  return content

/-- A processing instruction, behind the characters that open it. The one that
declares a document is none. -/
def instruction : Scanner (Text × Text) := do
  require !(← sees "xml ".toList)
  let target ← name
  skipSpaces
  let content ← upTo "?>".toList
  require (content.all isAllowed)
  return (target, content)

def verbatim : Scanner Text := do
  let content ← upTo "]]>".toList
  require (content.all isAllowed)
  return content

def tagStart : Scanner Token :=
  return .tagStart (← writtenName)

def closingTag : Scanner Token := do
  let name ← writtenName
  skipSpaces
  expect ['>']
  return .closingTag name

def tagEnd : Scanner Token := do
  if ← accept ['>'] then return .tagEnd false
  else
    expect "/>".toList
    return .tagEnd true

def bracketToken : Scanner Token := do
  if ← accept "!--".toList then return .comment (← comment)
  else if ← accept "![CDATA[".toList then return .verbatim (← verbatim)
  else if ← accept ['?'] then
    let (target, content) ← instruction
    return .instruction target content
  else if ← accept ['/'] then closingTag
  else tagStart

/-- The token of content that starts with the character `first`, from behind
that character on. The mark that ends verbatim text must not stand in text. -/
def contentToken (first : Char) : Scanner Token := do
  if first = '<' then bracketToken
  else
    let raw := first :: (← takeWhile (· ≠ '<'))
    require (raw.all isAllowed)
    require (splitAtMark "]]>".toList [] raw).isNone
    return .text raw

/-- The token inside a tag that starts with the character `first`, from behind
that character on. Only an attribute needs white space before it. -/
def tagToken (first : Char) : Scanner Token := do
  if first = '>' then return .tagEnd false
  else if first = '/' then
    expect ['>']
    return .tagEnd true
  else
    require (isSpace first)
    skipSpaces
    match ← peek with
    | some '>' => tagEnd
    | some '/' => tagEnd
    | _ => attr

end Scanner

/-! ### Sequences of tokens -/

/-- Where in its content a scan of tokens stands: how many elements are open,
and whether a tag is. -/
structure Position where
  depth : Nat
  inTag : Bool
deriving Repr

def Position.after (position : Position) : Token → Position
  | .tagStart _ => ⟨position.depth, true⟩
  | .attr _ _ => position
  | .tagEnd selfClosed =>
    ⟨if selfClosed then position.depth else position.depth + 1, false⟩
  | .closingTag _ => ⟨position.depth - 1, false⟩
  | _ => position

/-- The scan ends when the last open element closes. -/
def Position.isLast (position : Position) : Bool :=
  position.depth = 0 && !position.inTag

/-- The tokens of a text from a position on, and what stands behind the last of
them; `before` holds the tokens already read, backwards. A text that ends before
all elements are closed has the tokens that it has. -/
def scanTokens (position : Position) (before : List Token) (text : Text) :
    Option (List Token × Text) :=
  match text with
  | [] => some (before.reverse, [])
  | first :: rest =>
    let token :=
      if position.inTag then Scanner.tagToken first else Scanner.contentToken first
    match token rest with
    | none => none
    | some scanned =>
      let position := position.after scanned.found
      if position.isLast then some ((scanned.found :: before).reverse, scanned.rest)
      else scanTokens position (scanned.found :: before) scanned.rest
termination_by text.length
decreasing_by exact Nat.lt_succ_of_le scanned.rest_le

def elementTokens (text : Text) : Option (List Token × Text) :=
  match (do Scanner.expect ['<']; Scanner.tagStart : Scanner Token) text with
  | none => none
  | some scanned => scanTokens ⟨0, true⟩ [scanned.found] scanned.rest

/-- The tokens of a text that stands for content, as an entity's value does. A
closing tag that closes none of its own elements ends it; what stands behind is
not read. -/
def contentTokens (text : Text) : Option (List Token) :=
  (scanTokens ⟨1, false⟩ [] text).map (·.1)

end ApiReference.Markup
