import ApiReference.Text.Basic

/-! ## Paths

Paths are texts. A slash or a lone dot at the end of a path says nothing about
what the path names, and is called its tail. -/

namespace ApiReference.Path

def dropTailBackwards : Text → Text
  | '/' :: before => dropTailBackwards before
  | '.' :: '/' :: before => dropTailBackwards before
  | path => path

def dropTail (path : Text) : Text :=
  (dropTailBackwards path.reverse).reverse

def hasTail (path : Text) : Bool :=
  dropTail path ≠ path

/-- The part of a path in front of its last name; the tail of the path must be
dropped already. -/
def front (path : Text) : Text :=
  (path.reverse.dropWhile (· ≠ '/')).reverse

def lastName (path : Text) : Text :=
  (path.reverse.takeWhile (· ≠ '/')).reverse

/-- The path that names the folder around what a path names. A path without
names has none. -/
def parent? (path : Text) : Option Text :=
  let plain := dropTail path
  if plain.isEmpty then none
  else if (front plain).isEmpty then some []
  else
    let around := dropTail (front plain)
    some (if around.isEmpty then ['/'] else around)

/-! ### Extensions -/

/-- A name cut at its last dot: what is before the dot, and what is behind it. A
name has no extension if it has no dot, or none behind its first character. -/
def splitExtension (name : Text) : Text × Option Text :=
  let stem := (name.reverse.dropWhile (· ≠ '.')).reverse.dropLast
  if stem.isEmpty then (name, none)
  else (stem, some (name.reverse.takeWhile (· ≠ '.')).reverse)

/-- Names that stand for a place relative to a folder, not for something in
it. -/
def isRelative (name : Text) : Bool :=
  name = ['.'] || name = ['.', '.']

/-- The path with another extension, put behind the name if that has none. The
extension is cut first, with its dot kept. Where the path has no tail and two
dots are left, they name no file, and they stay as they are. -/
def withExtension (extension path : Text) : Text :=
  let plain := dropTail path
  let name := lastName plain
  if name.isEmpty || isRelative name then path
  else
    match splitExtension name with
    | (stem, none) => front plain ++ stem ++ ['.'] ++ extension
    | (stem, some _) =>
      if stem = ['.'] && !hasTail path then front plain ++ ['.', '.']
      else front plain ++ stem ++ ['.'] ++ extension

end ApiReference.Path
