import ApiReference.Text.Lowercase

/-! ## Pieces of Markdown -/

namespace ApiReference.Markdown

def heading (level : Nat) (text : Text) : Text :=
  List.replicate level '#' ++ [' '] ++ text

/-- The place that links to a name lead to: the name in small letters, with
hyphens for spaces. -/
def anchor (name : Text) : Text :=
  name.lowercase.map fun c => if c = ' ' then '-' else c

def anchored (text place : Text) : Text :=
  text ++ "<a name=\"".toList ++ place ++ "\"></a>".toList

def link (text place : Text) : Text :=
  ['['] ++ text ++ "](#".toList ++ place ++ [')']

def codeSpan (text : Text) : Text :=
  ['`'] ++ text ++ ['`']

def fence : Text :=
  "```".toList

def fencedCode (language code : Text) : Text :=
  fence ++ language ++ ['\n'] ++ code ++ ['\n'] ++ fence

/-- A block of a document, with the blank line that keeps it apart from the
next. -/
def separated (block : Text) : Text :=
  block ++ "\n\n".toList

end ApiReference.Markdown
