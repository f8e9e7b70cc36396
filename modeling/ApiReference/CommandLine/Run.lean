import ApiReference.CommandLine.Arguments
import ApiReference.Conversion

/-! ## Running the command line -/

namespace ApiReference.CommandLine

def helpLines : List String :=
  ["Converts compiler XML documentation exports into a single Markdown document",
    "",
    "Usage: xmldoc_md [OPTIONS] <input_path>",
    "",
    "Arguments:",
    "  <input_path>  XML documentation file, as exported by the compiler",
    "",
    "Options:",
    "  -o, --output <OUTPUT>  Markdown file to write. " ++
      "Defaults to the input path with a `.md` extension",
    "      --lang <LANG>      Language of fenced code blocks [default: csharp]",
    "  -v, --verbose          Log debug details to stderr",
    "  -h, --help             Print help",
    "  -V, --version          Print version"]

def helpText : Text :=
  helpLines.flatMap fun line => line.toList ++ ['\n']

def versionText : Text :=
  "xmldoc-md 0.1.0\n".toList

inductive Ending
  | done
  | failed (failure : Failure)
  | misused (error : UsageError)
deriving DecidableEq, Repr

/-- What a run of the command line leaves behind, apart from files. -/
structure Result where
  ending : Ending
  printed : Text
  notices : List Notice

def Result.exitCode (result : Result) : Nat :=
  match result.ending with
  | .done => 0
  | .failed _ => 1
  | .misused _ => 2

/-- The notices to show. Debug notices are shown only on demand. -/
def shownNotices (verbose : Bool) (notices : List Notice) : List Notice :=
  notices.filter fun notice => verbose || notice.level ≠ .debug

variable {m : Type → Type} [Monad m]

/-- The folder of the output that was asked for, if it does not exist. -/
def missingFolder (files : FileAccess m) (options : Options) : m (Option Text) := do
  match options.output.bind Path.parent? with
  | none => return none
  | some folder =>
    if folder.isEmpty then return none
    else if ← files.holds folder then return none
    else return some folder

def convert (files : FileAccess m) (options : Options) : m Result := do
  match ← missingFolder files options with
  | some folder => return ⟨.failed (.noOutputFolder folder), [], []⟩
  | none =>
    let report ← Conversion.run files options
    let notices := shownNotices options.verbose report.notices
    match report.outcome with
    | .ok _ => return ⟨.done, [], notices⟩
    | .error failure => return ⟨.failed failure, [], notices⟩

def run (files : FileAccess m) (arguments : List Text) : m Result :=
  match Request.read arguments with
  | .error error => return ⟨.misused error, [], []⟩
  | .ok .showHelp => return ⟨.done, helpText, []⟩
  | .ok .showVersion => return ⟨.done, versionText, []⟩
  | .ok (.convert options) => convert files options

end ApiReference.CommandLine
