import ApiReference.Markup.Prolog

/-! ## Reading documents -/

namespace ApiReference.Markup

/-- The document that a text is, if the text is well-formed: a prolog, the root
element, and nothing but remarks behind it. -/
def Document.read (text : Text) : Option Document := do
  let (entities, text) ← prolog text
  let (tokens, rest) ← elementTokens text
  let rest ← skipRemarks rest
  if rest.isEmpty then
    let builder ← addTokens entities maxDepth false tokens Builder.empty
    builder.document?
  else none

end ApiReference.Markup
