import ApiReference.Markup.Expansion

/-! ## What stands before the root element

A document may start with a declaration and a document type. Of the document
type only the entities that it declares matter. -/

namespace ApiReference.Markup

namespace Scanner

/-- White space, which may be missing at the end of the declaration. -/
def declarationSpaces : Scanner Unit := do
  match ← peek with
  | none => return ()
  | some _ =>
    if ← sees "?>".toList then return () else spaces

def declarationAttr (label : String) : Scanner Unit := do
  if ← sees label.toList then
    discard attr
    declarationSpaces

def declaration : Scanner Unit := do
  expect "<?xml".toList
  declarationSpaces
  require (← sees "version".toList)
  declarationAttr "version"
  declarationAttr "encoding"
  if ← sees "standalone".toList then discard attr
  skipSpaces
  expect "?>".toList

def externalPlace : Scanner Bool := do
  if ← accept "SYSTEM".toList then
    spaces
    discard quoted
    return true
  else if ← accept "PUBLIC".toList then
    spaces
    discard quoted
    spaces
    discard quoted
    return true
  else return false

/-- The value of an entity. One that is kept outside of the document has none. -/
def entityValue (general : Bool) : Scanner (Option Text) := do
  if ← externalPlace then
    if general then
      skipSpaces
      if ← accept "NDATA".toList then
        spaces
        discard name
    return none
  else return some (← quoted)

def entityDeclaration : Scanner (Option (Text × Text)) := do
  spaces
  let parameter ← accept ['%']
  if parameter then spaces
  let entity ← name
  spaces
  let value ← entityValue !parameter
  skipSpaces
  expect ['>']
  return value.map (entity, ·)

/-- A declaration in a document type, behind its opening bracket, with the entity
it declares. -/
def typeDeclaration : Scanner (Option (Text × Text)) := do
  if ← accept "!ENTITY".toList then entityDeclaration
  else if ← accept "!--".toList then
    discard comment
    return none
  else if ← accept ['?'] then
    discard instruction
    return none
  else
    let words := ["!ELEMENT", "!ATTLIST", "!NOTATION"]
    require (← words.anyM fun word => sees word.toList)
    discard <| upTo ['>']
    return none

/-- The start of a document type, behind the characters that open it. The answer
tells whether declarations follow. -/
def typeStart : Scanner Bool := do
  spaces
  discard name
  skipSpaces
  discard externalPlace
  skipSpaces
  if ← accept ['['] then return true
  else
    expect ['>']
    return false

def typeEnd : Scanner Unit := do
  skipSpaces
  expect ['>']

def seesRemark (text : Text) : Bool :=
  text.head? = some '?' || "!--".toList.isPrefixOf text

def remark : Scanner Unit := do
  if ← accept "!--".toList then discard comment
  else
    expect ['?']
    discard instruction

end Scanner

def skipRemarks (text : Text) : Option Text :=
  match text with
  | [] => some []
  | first :: rest =>
    if isSpace first then skipRemarks rest
    else if first = '<' && Scanner.seesRemark rest then
      match Scanner.remark rest with
      | none => none
      | some scanned => skipRemarks scanned.rest
    else some text
termination_by text.length
decreasing_by
  · exact Nat.lt_succ_self _
  · exact Nat.lt_succ_of_le scanned.rest_le

/-- The entities that the declarations of a document type declare, after those
declared before, and the text behind the document type. -/
def typeDeclarations (entities : Entities) (text : Text) : Option (Entities × Text) :=
  match text with
  | [] => none
  | first :: rest =>
    if isSpace first then typeDeclarations entities rest
    else if first = ']' then
      (Scanner.typeEnd rest).map fun scanned => (entities, scanned.rest)
    else if first = '<' then
      match Scanner.typeDeclaration rest with
      | none => none
      | some scanned =>
        typeDeclarations (entities ++ scanned.found.toList) scanned.rest
    else none
termination_by text.length
decreasing_by
  · exact Nat.lt_succ_self _
  · exact Nat.lt_succ_of_le scanned.rest_le

/-- The entities that the document type declares, if there is one, and the text
behind it. -/
def documentType (text : Text) : Option (Entities × Text) :=
  match "<!DOCTYPE".toList.isPrefixOf? text with
  | none => some ([], text)
  | some rest => do
    let start ← Scanner.typeStart rest
    if start.found then typeDeclarations [] start.rest
    else return ([], start.rest)

/-- The declared entities, and the text from the root element on. -/
def prolog (text : Text) : Option (Entities × Text) := do
  let text := (['\uFEFF'].isPrefixOf? text).getD text
  let text ←
    if "<?xml ".toList.isPrefixOf text then
      (Scanner.declaration text).map (·.rest)
    else some text
  let (entities, text) ← documentType (← skipRemarks text)
  return (entities, ← skipRemarks text)

end ApiReference.Markup
