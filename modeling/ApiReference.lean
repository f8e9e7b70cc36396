import ApiReference.Text.Lowercase
import ApiReference.Text.Quoted
import ApiReference.Failure
import ApiReference.Markdown.Reference
import ApiReference.Main
import ApiReference.File.Store
import ApiReference.Proofs.Grouping
import ApiReference.Proofs.Text.Lines
import ApiReference.Proofs.Anchors
import ApiReference.Proofs.KeptText
import ApiReference.Proofs.FileView
import ApiReference.Proofs.AllOrNothing
import ApiReference.Proofs.Loading
import ApiReference.Proofs.TreeChanges
import ApiReference.Proofs.FlatText
import ApiReference.Proofs.Regrouping
import ApiReference.Proofs.Text.Indents
import ApiReference.Proofs.Reindenting
import ApiReference.Proofs.Backticks
import ApiReference.Proofs.CodeSpans
import ApiReference.Proofs.Text.Lowercase
import ApiReference.Proofs.EntryLinks
import ApiReference.Proofs.Headings
import ApiReference.Proofs.InputKept
import ApiReference.Proofs.Text.CodeLines
import ApiReference.Proofs.CodeLayout
import ApiReference.Proofs.NormalForms
import ApiReference.Proofs.Fences
import ApiReference.Proofs.Titles
import ApiReference.Proofs.Numbering
import ApiReference.Proofs.Insertion
import ApiReference.Proofs.EmptySections
import ApiReference.Proofs.EntryReading
import ApiReference.Proofs.LanguageGaps
import ApiReference.Proofs.ShortNames
import ApiReference.Proofs.MemberReferences
