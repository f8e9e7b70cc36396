import ApiReference.Failure
import ApiReference.File.Access
import ApiReference.Markdown.Reference
import ApiReference.Options

/-! ## Conversions

A conversion reads an export, and writes its Markdown document as the very last
step. -/

namespace ApiReference

open Markup

def Export.read (text : Text) : Except Failure Export :=
  match Document.read text with
  | none => .error .malformedInput
  | some document => (Export.ofDocument document).mapError .badMember

/-- What came of a step, and the notices on the way to it. -/
structure Report (α : Type) where
  notices : List Notice
  outcome : Except Failure α

def Report.after {α : Type} (before : List Notice) (report : Report α) : Report α :=
  ⟨before ++ report.notices, report.outcome⟩

namespace Conversion

variable {m : Type → Type} [Monad m]

def readExport (files : FileAccess m) (path : Text) : m (Except Failure Export) := do
  if ← files.holds path then
    match ← files.read path with
    | none => return .error (.inputUnreadable path)
    | some text => return Export.read text
  else return .error (.inputNotFound path)

def loadCatalog (files : FileAccess m) (path : Text) : m (Report Catalog) := do
  match ← readExport files path with
  | .error failure => return ⟨[.reading path], .error failure⟩
  | .ok entries =>
    return ⟨.reading path :: Catalog.notices entries, .ok (Catalog.ofExport entries)⟩

/-- Writes the document of a catalog; the outcome is the file written. -/
def writeDocument (files : FileAccess m) (options : Options) (catalog : Catalog) :
    m (Report Text) := do
  let path := options.destination
  let notices := catalog.writingNotices ++ [.creating path]
  if ← files.write path (catalog.toMarkdown options.language) then
    return ⟨notices, .ok path⟩
  else return ⟨notices, .error (.outputNotWritten path)⟩

def run (files : FileAccess m) (options : Options) : m (Report Text) := do
  let loaded ← loadCatalog files options.input
  match loaded.outcome with
  | .error failure => return ⟨loaded.notices, .error failure⟩
  | .ok catalog => return (← writeDocument files options catalog).after loaded.notices

end Conversion

end ApiReference
