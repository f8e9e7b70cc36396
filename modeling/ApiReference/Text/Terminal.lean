import ApiReference.Text.Quoted

/-! ## Texts on a terminal

A text that is shown on a terminal must not control it: the characters that a
terminal obeys are written by their code points. All others stay, so that a text
without them is shown as it is. -/

namespace ApiReference.Text

/-- The characters below U+0080 that a terminal obeys: bell, backspace, form feed,
escape and delete. Characters that only move on in a line or to a new one are not
among them. -/
def terminalControls : List Char :=
  ['\x07', '\x08', '\x0c', '\x1b', '\x7f']

def byteEscape (c : Char) : Text :=
  ['\\', 'x', Nat.digitChar (c.toNat / 16), Nat.digitChar (c.toNat % 16)]

/-- A character as it is shown on a terminal. The control characters from U+0080
to U+009F start commands of a terminal as well. -/
def terminalEscape (c : Char) : Text :=
  if terminalControls.contains c then byteEscape c
  else if 0x80 ≤ c.toNat && c.toNat ≤ 0x9F then codeEscape c
  else [c]

def forTerminal (text : Text) : Text :=
  text.flatMap terminalEscape

end ApiReference.Text
