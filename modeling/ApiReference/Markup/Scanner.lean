import ApiReference.Markup.Character

/-! ## Scanners

A scanner reads the front of a text. Each result carries the proof that the
text left is no longer than the text given; loops over scanners end by it. -/

namespace ApiReference.Markup

/-- What a scanner found at the front of a text, and the text behind it. -/
structure Scanned (α : Type) (text : Text) where
  found : α
  rest : Text
  rest_le : rest.length ≤ text.length

/-- A scanner reads the front of a text, or refuses the text. -/
def Scanner (α : Type) : Type :=
  (text : Text) → Option (Scanned α text)

namespace Scanner

variable {α β : Type}

def pure (value : α) : Scanner α :=
  fun text => some ⟨value, text, Nat.le_refl _⟩

def bind (first : Scanner α) (next : α → Scanner β) : Scanner β :=
  fun text =>
    match first text with
    | none => none
    | some before =>
      match next before.found before.rest with
      | none => none
      | some after =>
        some ⟨after.found, after.rest, Nat.le_trans after.rest_le before.rest_le⟩

instance : Monad Scanner where
  pure := pure
  bind := bind

def refuse : Scanner α :=
  fun _ => none

/-- The next character, which stays where it is. -/
def peek : Scanner (Option Char) :=
  fun text => some ⟨text.head?, text, Nat.le_refl _⟩

def takeWhile (belongs : Char → Bool) : Scanner Text :=
  fun text =>
    some ⟨text.takeWhile belongs, text.dropWhile belongs,
      (List.dropWhile_sublist belongs).length_le⟩

/-- Whether the text goes on with `start`, which is read if it does. -/
def accept (start : Text) : Scanner Bool :=
  fun text =>
    if start.isPrefixOf text then
      some ⟨true, text.drop start.length, by
        rw [List.length_drop]
        exact Nat.sub_le _ _⟩
    else some ⟨false, text, Nat.le_refl _⟩

def expect (start : Text) : Scanner Unit := do
  if ← accept start then return () else refuse

/-- Looks whether the text goes on with `start`, and reads nothing. -/
def sees (start : Text) : Scanner Bool :=
  fun text =>
    some ⟨start.isPrefixOf text, text, Nat.le_refl _⟩

def require (condition : Bool) : Scanner Unit :=
  if condition then return () else refuse

/-- The text in front of the first place where `mark` stands, and the text
behind that place; `before` is what lies in front already, backwards. -/
def splitAtMark (mark : Text) : (before text : Text) → Option (Text × Text)
  | _, [] => none
  | before, c :: text =>
    if mark.isPrefixOf (c :: text) then
      some (before.reverse, (c :: text).drop mark.length)
    else splitAtMark mark (c :: before) text

theorem splitAtMark_le {mark before text found rest : Text}
    (split : splitAtMark mark before text = some (found, rest)) :
    rest.length ≤ text.length := by
  induction text generalizing before with
  | nil =>
      simp [splitAtMark] at split
  | cons c text inductionHypothesis =>
      rw [splitAtMark] at split
      split at split
      next =>
        have same : (c :: text).drop mark.length = rest :=
          (Prod.mk.inj (Option.some.inj split)).2
        rw [← same, List.length_drop]
        exact Nat.sub_le _ _
      next =>
        exact Nat.le_succ_of_le (inductionHypothesis split)

/-- The text up to the first place where `mark` stands; the mark itself is read
and dropped. -/
def upTo (mark : Text) : Scanner Text :=
  fun text =>
    match split : splitAtMark mark [] text with
    | some (found, rest) => some ⟨found, rest, splitAtMark_le split⟩
    | none => none

/-! ### Words of markup -/

def skipSpaces : Scanner Unit := do
  discard <| takeWhile isSpace

/-- White space, at least one character of it. -/
def spaces : Scanner Unit := do
  require !(← takeWhile isSpace).isEmpty

/-- A name, which may hold colons. -/
def name : Scanner Text := do
  let found ← takeWhile isNamePart
  require (found.head?.any isNameStart)
  return found

def quoted : Scanner Text := do
  if ← accept ['"'] then upTo ['"']
  else
    expect ['\'']
    upTo ['\'']

end Scanner

end ApiReference.Markup
