import ApiReference.Member.Basic
import ApiReference.Text.Quoted

/-! ## Failures -/

namespace ApiReference

inductive Failure
  /-- The folder of the requested output does not exist. -/
  | noOutputFolder (folder : Text)
  /-- The input does not exist. -/
  | inputNotFound (path : Text)
  /-- The input is no file, or no text. -/
  | inputUnreadable (path : Text)
  /-- The input is not well-formed. -/
  | malformedInput
  /-- An entry of the input is no member. -/
  | badMember (fault : Member.Fault)
  /-- The output cannot be written. -/
  | outputNotWritten (path : Text)
deriving DecidableEq, Repr

def backquoted (text : Text) : Text :=
  ['`'] ++ text ++ ['`']

namespace Member.Fault

/-- What is wrong with an entry, where it is not its kind. -/
def detail : Fault → Text
  | nameless => "member element without a `name` attribute".toList
  | emptyName => "member has an empty name".toList
  | unknownKind rawName _ => rawName
  | unformed rawName =>
    backquoted rawName ++ " is not of the form `<kind>:<name>`".toList

end Member.Fault

namespace Failure

/-- What a folder that does not exist is reported with. -/
def folderDetail (folder : Text) : Text :=
  "output directory does not exist: ".toList ++ backquoted folder

def message : Failure → Text
  | noOutputFolder folder =>
    "invalid options: ".toList ++ backquoted (folderDetail folder)
  | inputNotFound path => "input file does not exist: ".toList ++ backquoted path
  | inputUnreadable path => "unable to read input file ".toList ++ backquoted path
  | malformedInput => "input is not well-formed XML".toList
  | badMember (.unknownKind rawName letter) =>
    "unrecognized kind tag ".toList ++ backquoted [letter] ++ " in member ".toList ++
      backquoted rawName
  | badMember fault => "malformed member: ".toList ++ fault.detail
  | outputNotWritten path => "unable to write output file ".toList ++ backquoted path

/-- The failure as the command line reports it: its name, and its data where they
are not those of the system. -/
def diagnostic : Failure → Text
  | noOutputFolder folder =>
    "Options(".toList ++ (folderDetail folder).quoted ++ ")".toList
  | inputNotFound path => "InputNotFound(".toList ++ path.quoted ++ ")".toList
  | inputUnreadable _ => "InputUnreadable".toList
  | malformedInput => "MalformedInput".toList
  | badMember (.unknownKind rawName letter) =>
    "UnrecognizedKindTag \x7b name: ".toList ++ rawName.quoted ++ ", tag: ".toList ++
      Text.quotedChar letter ++ " \x7d".toList
  | badMember fault => "MalformedMember(".toList ++ fault.detail.quoted ++ ")".toList
  | outputNotWritten _ => "OutputWriteFailure".toList

end Failure

end ApiReference
