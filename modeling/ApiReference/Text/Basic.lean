/-! ## Texts and sets of characters -/

namespace ApiReference

/-- A text is the list of its characters. Every rule of the library reads
characters one after another, so this is the form in which rules are stated. -/
abbrev Text := List Char

/-- A set of characters, given as ranges of code points with both ends
included. -/
abbrev CodeRanges := List (Nat × Nat)

def CodeRanges.contains (ranges : CodeRanges) (c : Char) : Bool :=
  ranges.any fun range => range.1 ≤ c.toNat && c.toNat ≤ range.2

end ApiReference
