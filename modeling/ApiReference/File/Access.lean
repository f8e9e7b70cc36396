import ApiReference.Text.Basic

/-! ## Access to files -/

namespace ApiReference

/-- What a conversion needs of a file system. A file is read as a whole and as a
text, and written as a whole. -/
structure FileAccess (m : Type → Type) where
  /-- Whether a path names something. -/
  holds : (path : Text) → m Bool
  /-- The text of a file, unless it is no file or no text. -/
  read : (path : Text) → m (Option Text)
  /-- Makes a file hold a text; tells whether that was possible. -/
  write : (path content : Text) → m Bool

end ApiReference
