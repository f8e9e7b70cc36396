import ApiReference.Options

/-! ## Arguments of the command line

Arguments are read from left to right. A value that stands on its own is checked
only when the next option is met, or the end; an argument that makes no sense at
all is refused at once. -/

namespace ApiReference.CommandLine

inductive UsageError
  | missingInput
  | invalidValue
  | unknownArgument
  | repeatedOption
  | unwantedValue
deriving DecidableEq, Repr

inductive Request
  | convert (options : Options)
  | showHelp
  | showVersion
deriving DecidableEq, Repr

inductive Setting
  | output
  | language
deriving DecidableEq, Repr

inductive Flag
  | verbose
  | help
  | version
deriving DecidableEq, Repr

inductive Choice
  | setting (setting : Setting)
  | flag (flag : Flag)
deriving DecidableEq, Repr

def longNames : List (Text × Choice) :=
  [("output".toList, .setting .output), ("lang".toList, .setting .language),
    ("verbose".toList, .flag .verbose), ("help".toList, .flag .help),
    ("version".toList, .flag .version)]

def letters : List (Char × Choice) :=
  [('o', .setting .output), ('v', .flag .verbose), ('h', .flag .help),
    ('V', .flag .version)]

/-! ### Arguments read so far -/

/-- What was read last and is not checked yet. -/
inductive Pending
  | nothing
  /-- A setting whose value is to come. -/
  | awaited (setting : Setting)
  /-- A setting and its value. -/
  | given (setting : Setting) (value : Text)
  /-- The input. -/
  | input (value : Text)
deriving DecidableEq, Repr

structure Draft where
  input : Option Text
  output : Option Text
  language : Option Text
  verbose : Bool
  pending : Pending
  /-- Whether all arguments to come are values. -/
  onlyValues : Bool
deriving DecidableEq, Repr

/-- Why reading stops before the last argument. -/
inductive Stop
  | error (error : UsageError)
  | help
  | version
deriving DecidableEq, Repr

namespace Draft

def empty : Draft :=
  ⟨none, none, none, false, .nothing, false⟩

/-- Gives a setting its value. Only the language may be empty. -/
def assign (draft : Draft) (setting : Setting) (value : Text) : Except Stop Draft :=
  match setting with
  | .output =>
    if draft.output.isSome then .error (.error .repeatedOption)
    else if value.isEmpty then .error (.error .invalidValue)
    else .ok { draft with output := some value }
  | .language =>
    if draft.language.isSome then .error (.error .repeatedOption)
    else .ok { draft with language := some value }

def settle (draft : Draft) : Except Stop Draft :=
  let settled := { draft with pending := .nothing }
  match draft.pending with
  | .nothing => .ok settled
  | .awaited _ => .error (.error .invalidValue)
  | .given setting value => settled.assign setting value
  | .input value =>
    if value.isEmpty then .error (.error .invalidValue)
    else .ok { settled with input := some value }

def hasInput (draft : Draft) : Bool :=
  match draft.pending with
  | .input _ => true
  | _ => draft.input.isSome

/-- Reads a value: that of the setting that awaits one, or else the input. -/
def readValue (draft : Draft) (value : Text) : Except Stop Draft :=
  match draft.pending, draft.onlyValues with
  | .awaited setting, false => .ok { draft with pending := .given setting value }
  | _, _ =>
    if draft.hasInput then .error (.error .unknownArgument)
    else do
      let settled ← draft.settle
      return { settled with pending := .input value }

def readFlag (draft : Draft) (flag : Flag) : Except Stop Draft := do
  let settled ← draft.settle
  match flag with
  | .help => .error .help
  | .version => .error .version
  | .verbose =>
    if settled.verbose then .error (.error .repeatedOption)
    else .ok { settled with verbose := true }

/-- Reads a setting, whose value is still to come if it is not attached. -/
def readSetting (draft : Draft) (setting : Setting) (attached : Option Text) :
    Except Stop Draft := do
  let settled ← draft.settle
  match attached with
  | some value => settled.assign setting value
  | none => return { settled with pending := .awaited setting }

/-- Reads an option by its long name. A value is attached by an equals sign. -/
def readLong (draft : Draft) (argument : Text) : Except Stop Draft :=
  let name := argument.takeWhile (· ≠ '=')
  let attached := (argument.dropWhile (· ≠ '=')).tail?
  match longNames.lookup name, attached with
  | none, _ => .error (.error .unknownArgument)
  | some (.setting setting), _ => draft.readSetting setting attached
  | some (.flag _), some _ => .error (.error .unwantedValue)
  | some (.flag flag), none => draft.readFlag flag

/-- What is attached to a letter, without the equals sign it may start with. -/
def attachedTo : (behind : Text) → Option Text
  | [] => none
  | '=' :: value => some value
  | value => some value

/-- Reads options by their letters. A setting takes all that is left as its
value. -/
def readLetters (draft : Draft) : Text → Except Stop Draft
  | [] => .ok draft
  | letter :: others =>
    match letters.lookup letter with
    | none => .error (.error .unknownArgument)
    | some (.setting setting) => draft.readSetting setting (attachedTo others)
    | some (.flag flag) =>
      match draft.readFlag flag with
      | .error stop => .error stop
      | .ok draft => draft.readLetters others

/-- Reads an argument. A dash alone is a value, and two dashes alone make values
of all arguments behind them. -/
def read (draft : Draft) (argument : Text) : Except Stop Draft :=
  if draft.onlyValues then draft.readValue argument
  else
    match argument with
    | ['-', '-'] => .ok { draft with onlyValues := true }
    | '-' :: '-' :: long => draft.readLong long
    | '-' :: letter :: others => draft.readLetters (letter :: others)
    | value => draft.readValue value

def finish (draft : Draft) : Except Stop Options := do
  let settled ← draft.settle
  match settled.input with
  | none => .error (.error .missingInput)
  | some input =>
    return ⟨input, settled.output, settled.language.getD Options.defaultLanguage,
      settled.verbose⟩

end Draft

def Request.read (arguments : List Text) : Except UsageError Request :=
  match arguments.foldlM Draft.read Draft.empty >>= Draft.finish with
  | .ok options => .ok (.convert options)
  | .error .help => .ok .showHelp
  | .error .version => .ok .showVersion
  | .error (.error error) => .error error

end ApiReference.CommandLine
