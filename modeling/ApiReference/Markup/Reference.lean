import ApiReference.Markup.Scanner

/-! ## References

In texts and in the values of attributes, an ampersand starts a reference to a
character or to an entity. -/

namespace ApiReference.Markup

inductive Item
  /-- A character that stands for itself. -/
  | literal (c : Char)
  /-- A character that a reference stands for. -/
  | character (c : Char)
  /-- A reference to a declared entity. -/
  | entity (name : Text)
deriving DecidableEq, Repr

/-- The entities that need no declaration. -/
def predefined : List (Text × Char) :=
  [("quot".toList, '"'), ("amp".toList, '&'), ("apos".toList, '\''),
    ("lt".toList, '<'), ("gt".toList, '>')]

def digitValue (c : Char) : Nat :=
  if c.isDigit then c.toNat - '0'.toNat
  else c.toLower.toNat - 'a'.toNat + 10

def numberOf (base : Nat) (digits : Text) : Nat :=
  digits.foldl (fun number digit => number * base + digitValue digit) 0

/-- The character with the given number. A number that no character has stands
for the replacement character. -/
def characterOf (number : Nat) : Char :=
  if number.isValidChar then Char.ofNat number else '\uFFFD'

namespace Scanner

/-- The number of a character, behind the sign that announces it. Numbers need
not fit the range of characters, but they must fit in 32 bits. -/
def characterNumber : Scanner Char := do
  let hexadecimal ← accept ['x']
  let digits ←
    takeWhile fun c =>
      c.isDigit || hexadecimal && ('a' ≤ c && c ≤ 'f' || 'A' ≤ c && c ≤ 'F')
  let number := numberOf (if hexadecimal then 16 else 10) digits
  require (!digits.isEmpty && number < UInt32.size)
  require (isAllowed (characterOf number))
  return characterOf number

def reference : Scanner Item := do
  if ← accept ['#'] then
    let c ← characterNumber
    expect [';']
    return .character c
  else
    let entity ← name
    expect [';']
    match predefined.lookup entity with
    | some c => return .character c
    | none => return .entity entity

end Scanner

/-- The pieces of a raw text; `before` holds those already read, backwards. -/
def scanItems (before : List Item) (raw : Text) : Option (List Item) :=
  match raw with
  | [] => some before.reverse
  | first :: rest =>
    if first = '&' then
      match Scanner.reference rest with
      | none => none
      | some scanned => scanItems (scanned.found :: before) scanned.rest
    else scanItems (.literal first :: before) rest
termination_by raw.length
decreasing_by
  · exact Nat.lt_succ_of_le scanned.rest_le
  · exact Nat.lt_succ_self _

def itemsOf (raw : Text) : Option (List Item) :=
  scanItems [] raw

end ApiReference.Markup
