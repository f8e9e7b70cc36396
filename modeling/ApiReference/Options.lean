import ApiReference.File.Path

/-! ## Options of a conversion -/

namespace ApiReference

structure Options where
  /-- The file with the documentation export. -/
  input : Text
  /-- The file to write, where it was asked for. -/
  output : Option Text
  /-- The language of code blocks. -/
  language : Text
  /-- Whether debug notices are wanted. -/
  verbose : Bool
deriving DecidableEq, Repr

namespace Options

def defaultLanguage : Text :=
  "csharp".toList

def ofInput (input : Text) : Options :=
  ⟨input, none, defaultLanguage, false⟩

/-- The file to write: the one that was asked for, or else the input with the
extension of Markdown. -/
def destination (options : Options) : Text :=
  options.output.getD (Path.withExtension "md".toList options.input)

end Options

end ApiReference
