import ApiReference.Text.WhiteSpace

/-! ## Indentation of prose and of code

Prose loses the indentation of all its lines. Code loses only the part that
all its lines share, so that the layout of the code survives. -/

namespace ApiReference.Text

def isIndent (c : Char) : Bool :=
  c = ' ' || c = '\t'

def joinLines (lines : List Text) : Text :=
  ['\n'].intercalate lines

/-! ### Prose -/

/-- The text without the spaces and tabs that start its lines. Only a line feed
ends a line. -/
def dropIndents (text : Text) : Text :=
  joinLines ((text.splitOn '\n').map (·.dropWhile isIndent))

/-- Prose in normal form: nothing white at its ends and no line indented. -/
def normalProse (text : Text) : Text :=
  dropIndents text.trim

/-! ### Code -/

/-- A line that ended in a carriage return and a line feed keeps neither. -/
def dropReturn (line : Text) : Text :=
  if line.getLast? = some '\r' then line.dropLast else line

/-- The lines of a text. A line feed, or a carriage return right before a line
feed, ends a line, and there is no line after the last line end. -/
def lines (text : Text) : List Text :=
  let pieces := text.splitOn '\n'
  pieces.dropLast.map dropReturn ++ pieces.getLast?.toList.filter (· ≠ [])

def indentWidth (line : Text) : Nat :=
  (line.takeWhile isIndent).length

/-- The indentation that all lines share; blank lines have no say in it. -/
def sharedIndent (lines : List Text) : Nat :=
  ((lines.filter fun line => !isBlank line).map indentWidth).min?.getD 0

/-- A line of code without the shared indentation. Of a blank line nothing
stays. -/
def outdent (width : Nat) (line : Text) : Text :=
  if isBlank line then [] else line.drop width

/-- Code in normal form: no blank lines at its start, no shared indentation,
nothing white at its end. -/
def normalCode (text : Text) : Text :=
  let body := text.lines.dropWhile isBlank
  trimEnd (joinLines (body.map (outdent (sharedIndent body))))

end ApiReference.Text
