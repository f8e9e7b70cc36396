import ApiReference.Text.PrintTable

/-! ## Texts in quotes

Diagnostics show a text between quotes, with everything escaped that could be
taken for the end of the text or could not be seen. -/

namespace ApiReference.Text

def codeEscape (c : Char) : Text :=
  "\\u\x7b".toList ++ Nat.toDigits 16 c.toNat ++ "\x7d".toList

/-- A character as it stands between quotes; `quotes` are the quote characters
that need an escape there. -/
def escape (quotes : List Char) (c : Char) : Text :=
  if c = '\x00' then ['\\', '0']
  else if c = '\t' then ['\\', 't']
  else if c = '\r' then ['\\', 'r']
  else if c = '\n' then ['\\', 'n']
  else if c = '\\' || quotes.contains c then ['\\', c]
  else if graphemeExtenders.contains c || unprintable.contains c then codeEscape c
  else [c]

def quoted (text : Text) : Text :=
  ['"'] ++ text.flatMap (escape ['"']) ++ ['"']

def quotedChar (c : Char) : Text :=
  ['\''] ++ escape ['\''] c ++ ['\'']

end ApiReference.Text
