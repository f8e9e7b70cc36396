import ApiReference.CommandLine.Run

/-! ## The program -/

namespace ApiReference

def systemText (text : Text) : String :=
  String.ofList text

def pathHolds (path : Text) : IO Bool := do
  ((← IO.currentDir) / systemText path).pathExists

def readFileText (path : Text) : IO (Option Text) := do
  try
    let content ← IO.FS.readBinFile (systemText path)
    return (String.fromUTF8? content).map (·.toList)
  catch _ => return none

def writeFileText (path content : Text) : IO Bool := do
  try
    IO.FS.writeFile (systemText path) (systemText content)
    return true
  catch _ => return false

def systemFiles : FileAccess IO where
  holds path := if path.isEmpty then return false else pathHolds path
  read := readFileText
  write := writeFileText

def CommandLine.UsageError.words : UsageError → String
  | missingInput => "an input path is required"
  | invalidValue => "a value is missing or empty"
  | unknownArgument => "an argument is not known"
  | repeatedOption => "an option is given twice"
  | unwantedValue => "an option takes no value"

/-- Runs the command line on the files of the system. Notices and failures go to
the error stream. -/
def runProgram (arguments : List String) : IO UInt32 := do
  let result ← CommandLine.run systemFiles (arguments.map (·.toList))
  IO.print (systemText result.printed)
  for notice in result.notices do
    IO.eprintln (systemText (notice.level.label ++ [' '] ++ notice.shownMessage))
  match result.ending with
  | .done => pure ()
  | .failed failure => IO.eprintln (systemText ("Error: ".toList ++ failure.diagnostic))
  | .misused error => IO.eprintln ("error: " ++ error.words)
  return UInt32.ofNat result.exitCode

end ApiReference

def main (arguments : List String) : IO UInt32 :=
  ApiReference.runProgram arguments
