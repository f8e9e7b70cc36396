import ApiReference.Markup.Builder
import ApiReference.Markup.Reference

/-! ## Resolving references

The value of an entity takes the place of each reference to it: in texts it is
read as content, in attributes as a value. Entities may refer to others, within
limits on the depth and on the number of references. -/

namespace ApiReference.Markup

/-- The declared entities with their values; the first declaration counts. -/
abbrev Entities := List (Text × Text)

/-- How many entities may be open at once. -/
def maxDepth : Nat :=
  10

/-- How many references one reference outside of entities may lead to. -/
def maxReferences : Nat :=
  255

/-- The count of references after one more. A reference outside of entities
starts the count anew. -/
def countReference (nested : Bool) (references : Nat) : Option Nat :=
  if nested then
    if references < maxReferences then some (references + 1) else none
  else some 0

/-! ### Values of attributes -/

/-- The text with a line feed for each carriage return and line feed in a row. -/
def dropReturns : Text → Text
  | [] => []
  | '\r' :: '\n' :: rest => '\n' :: dropReturns rest
  | c :: rest => c :: dropReturns rest

/-- A tab or a line end in a value counts as a space. -/
def blankSpace (c : Char) : Char :=
  if c = '\t' || c = '\n' || c = '\r' then ' ' else c

/-- A value under construction, backwards, with the count of references. -/
structure ValueSoFar where
  reversed : Text
  references : Nat

/-- Adds a piece of a raw value; `expand` reads the value of an entity. A
character given by its number is taken as it is, but inside an entity it is
treated like one that stands for itself, and it must not open a tag there. -/
def addValueItem (entities : Entities)
    (expand : Text → ValueSoFar → Option ValueSoFar) (nested : Bool)
    (value : ValueSoFar) : Item → Option ValueSoFar
  | .literal c => some { value with reversed := blankSpace c :: value.reversed }
  | .character c =>
    if !nested then some { value with reversed := c :: value.reversed }
    else if c = '<' then none
    else some { value with reversed := blankSpace c :: value.reversed }
  | .entity name => do
    let inner ← entities.lookup name
    let references ← countReference nested value.references
    expand inner { value with references := references }

def addValue (entities : Entities) :
    (levels : Nat) → (nested : Bool) → Text → ValueSoFar → Option ValueSoFar
  | 0, nested, raw, value => do
    let items ← itemsOf (dropReturns raw)
    items.foldlM (addValueItem entities (fun _ _ => none) nested) value
  | levels + 1, nested, raw, value => do
    let items ← itemsOf (dropReturns raw)
    items.foldlM (addValueItem entities (addValue entities levels true) nested) value

/-! ### Texts -/

/-- Adds a character that stands for itself to a text, which is held backwards.
A carriage return becomes a line feed, and it swallows the line feed behind
it. -/
def pushLiteral (reversed : Text) (c : Char) (atEnd : Bool) : Text :=
  let last := if atEnd && c = '\r' then '\n' else c
  match reversed with
  | '\r' :: before =>
    if c = '\n' then '\n' :: before else last :: '\n' :: before
  | _ => last :: reversed

def verbatimText : (reversed : Text) → Text → Text
  | reversed, [] => reversed.reverse
  | reversed, c :: rest => verbatimText (pushLiteral reversed c rest.isEmpty) rest

/-- Adds the pieces of a raw text to a tree; `expand` reads the value of an
entity, and `reversed` is the text that is not in the tree yet. A character given
by its number is taken as it is outside of entities, and so is the character that
follows it, as `asIs` records. -/
def addTextItems (entities : Entities) (expand : Text → Builder → Option Builder)
    (nested : Bool) :
    (reversed : Text) → (asIs : Bool) → List Item → Builder → Option Builder
  | reversed, _, [], builder => some (builder.placeText reversed.reverse)
  | reversed, asIs, .literal c :: items, builder =>
    let reversed := if asIs then c :: reversed else pushLiteral reversed c items.isEmpty
    addTextItems entities expand nested reversed false items builder
  | reversed, asIs, .character c :: items, builder =>
    if nested then
      let reversed := pushLiteral reversed c items.isEmpty
      addTextItems entities expand nested reversed asIs items builder
    else addTextItems entities expand nested (c :: reversed) true items builder
  | reversed, _, .entity name :: items, builder =>
    match entities.lookup name, countReference nested builder.references with
    | some value, some references =>
      let builder := builder.placeText reversed.reverse
      match expand value { builder with references := references } with
      | some builder => addTextItems entities expand nested [] false items builder
      | none => none
    | _, _ => none

/-! ### Content -/

/-- Adds a token to a tree; `levels` more entities may be opened in it, and
`expand` reads the value of one as content. -/
def addToken (entities : Entities) (levels : Nat)
    (expand : Text → Builder → Option Builder) (nested : Bool) (builder : Builder) :
    Token → Option Builder
  | .tagStart name => builder.beginTag name
  | .attr name raw => do
    let value ← addValue entities levels nested raw ⟨[], builder.references⟩
    let builder := { builder with references := value.references }
    builder.addAttribute name value.reversed.reverse
  | .tagEnd selfClosed => builder.endTag selfClosed
  | .closingTag name => builder.closeElement name
  | .text raw => do
    let items ← itemsOf raw
    addTextItems entities expand nested [] false items builder
  | .verbatim content => some (builder.placeText (verbatimText [] content))
  | .comment content => some (builder.place (.comment content))
  | .instruction target content => some (builder.place (.instruction target content))

def addTokens (entities : Entities) :
    (levels : Nat) → (nested : Bool) → List Token → Builder → Option Builder
  | 0, nested, tokens, builder =>
    tokens.foldlM (addToken entities 0 (fun _ _ => none) nested) builder
  | levels + 1, nested, tokens, builder =>
    let expand (value : Text) (builder : Builder) : Option Builder := do
      let inner ← contentTokens value
      let after ← addTokens entities levels true inner { builder with tag := none }
      return { after with tag := builder.tag }
    tokens.foldlM (addToken entities (levels + 1) expand nested) builder

end ApiReference.Markup
