import ApiReference.File.Access

/-! ## Files and folders as a value

A store is the state of a file system. Each path is walked name by name from the
working folder, or from the root; every name on the way must be a folder. -/

namespace ApiReference

inductive Entry
  | folder
  | file (content : ByteArray)

/-- The place of an entry: the names on the way to it from the root. -/
abbrev Place := List Text

/-- Files and folders, and the folder that relative paths start from. The root is
a folder without being listed. -/
structure Store where
  entries : List (Place × Entry)
  working : Place

namespace Store

def encode (text : Text) : ByteArray :=
  (String.ofList text).toUTF8

def decode (content : ByteArray) : Option Text :=
  (String.fromUTF8? content).map (·.toList)

/-! ### Places -/

def find? (store : Store) (place : Place) : Option Entry :=
  if place.isEmpty then some .folder else store.entries.lookup place

def isFolder (store : Store) (place : Place) : Bool :=
  match store.find? place with
  | some .folder => true
  | _ => false

def put (store : Store) (place : Place) (entry : Entry) : Store :=
  { store with entries := (place, entry) :: store.entries.filter (·.1 ≠ place) }

/-- The store without a place and all that lies below it. -/
def erase (store : Store) (place : Place) : Store :=
  { store with
    entries := store.entries.filter fun (other, _) => !place.isPrefixOf other }

/-! ### Paths -/

def names (path : Text) : List Text :=
  (path.splitOn '/').filter (· ≠ [])

def width (name : Text) : Nat :=
  (encode name).size

/-- The paths that a file system takes: not empty, of limited length, and
without the character that ends a path. -/
def isTakeable (path : Text) : Bool :=
  !path.isEmpty && !path.contains '\x00' && width path < 4096 &&
    (names path).all (width · ≤ 255)

def step (store : Store) (place : Place) (name : Text) : Option Place :=
  if !store.isFolder place then none
  else if name = ['.'] then some place
  else if name = ['.', '.'] then some place.dropLast
  else some (place ++ [name])

def start (store : Store) (path : Text) : Place :=
  if path.head? = some '/' then [] else store.working

/-- The place that a path leads to, whether something lies there or not. -/
def locate (store : Store) (path : Text) : Option Place :=
  if isTakeable path then (names path).foldlM store.step (store.start path) else none

/-- Whether a path can only name a folder. -/
def wantsFolder (path : Text) : Bool :=
  path.getLast? = some '/'

def entryAt (store : Store) (path : Text) : Option Entry := do
  let place ← store.locate path
  if wantsFolder path && !store.isFolder place then none else store.find? place

/-! ### Reading and writing -/

def holds (store : Store) (path : Text) : Bool :=
  (store.entryAt path).isSome

def readText (store : Store) (path : Text) : Option Text :=
  match store.entryAt path with
  | some (.file content) => decode content
  | _ => none

/-- The place of the file that a path names or would name. -/
def filePlace (store : Store) (path : Text) : Option Place := do
  let place ← store.locate path
  if wantsFolder path || store.isFolder place then none else some place

/-- The store after a file was written, if a path names a file or a place for
one. -/
def writeFile (store : Store) (path : Text) (content : ByteArray) : Option Store :=
  (store.filePlace path).map fun place => store.put place (.file content)

def access : FileAccess (StateM Store) where
  holds path := return (← get).holds path
  read path := return (← get).readText path
  write path content := do
    match (← get).writeFile path (encode content) with
    | some store =>
      set store
      return true
    | none => return false

/-! ### Housekeeping -/

def addFolder (store : Store) (place : Place) : Store :=
  if (store.find? place).isSome then store else store.put place .folder

def makeFolders (store : Store) (path : Text) : Store :=
  ((names path).foldl
    (fun (store, place) name =>
      match store.step place name with
      | some next => (store.addFolder next, next)
      | none => (store, place))
    (store, store.start path)).1

def remove (store : Store) (path : Text) : Store :=
  match store.locate path with
  | some place => store.erase place
  | none => store

/-- An entry as listings show it: the names from the working folder on, and a
slash behind a folder. -/
def listed (place : Place) (entry : Entry) : Text :=
  ['/'].intercalate place ++
    match entry with
    | .folder => ['/']
    | .file _ => []

def below? (store : Store) (place : Place) : Option Place :=
  if store.working.isPrefixOf place && place ≠ store.working then
    some (place.drop store.working.length)
  else none

def listing (store : Store) : List Text :=
  let lines := store.entries.filterMap fun (place, entry) =>
    (store.below? place).map (listed · entry)
  lines.mergeSort fun left right => !right.lex left fun c other => c.toNat < other.toNat

end Store

end ApiReference
