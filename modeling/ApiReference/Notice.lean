import ApiReference.Member.Basic
import ApiReference.Text.Terminal

/-! ## Notices

Notices tell how a conversion goes. They never decide anything. -/

namespace ApiReference

inductive Level
  | debug
  | info
  | warning
deriving DecidableEq, Repr

def Level.label : Level → Text
  | debug => "DEBUG".toList
  | info => "INFO".toList
  | warning => "WARN".toList

inductive Notice
  /-- The input is about to be read. -/
  | reading (path : Text)
  /-- A member has nothing that is worth writing. -/
  | undocumented (rawName : Text)
  /-- A member is taken in. -/
  | taken (kind : Kind) (longName : Text) (sectionCount : Nat)
  /-- A section has no layout of its own. -/
  | plain (tag : Text)
  /-- The output is about to be written. -/
  | creating (path : Text)
deriving DecidableEq, Repr

namespace Notice

def level : Notice → Level
  | reading _ => .info
  | undocumented _ => .warning
  | taken _ _ _ => .debug
  | plain _ => .debug
  | creating _ => .info

def message : Notice → Text
  | reading path => "Parsing documentation: '".toList ++ path ++ "'".toList
  | undocumented rawName =>
    "member '".toList ++ rawName ++ "' has no documentation".toList
  | taken kind longName sectionCount =>
    kind.label ++ " '".toList ++ longName ++ "' with ".toList ++
      Nat.toDigits 10 sectionCount ++ " tags".toList
  | plain tag =>
    "no template for tag '".toList ++ tag ++ "', rendering it as plain text".toList
  | creating path => "Creating '".toList ++ path ++ "'".toList

/-- The notice as it is shown on a terminal. Names and paths come from the input,
so the words may hold any character. -/
def shownMessage (notice : Notice) : Text :=
  notice.message.forTerminal

end Notice

end ApiReference
