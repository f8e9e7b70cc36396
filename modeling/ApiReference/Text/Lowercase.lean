import ApiReference.Text.CaseTable

/-! ## Small letters

Lowering follows Unicode: one letter for one, but for two cases that depend on
more than the letter itself. -/

namespace ApiReference

def lowerLetter (c : Char) : Char :=
  if c.toNat < 0x80 then c.toLower
  else
    match capitalRuns.find? (·.holds c.toNat) with
    | some run => Char.ofNat (run.lowered + (c.toNat - run.first))
    | none => c

namespace Text

/-- Whether the first character that matters for case is a cased one. -/
def startsCased (text : Text) : Bool :=
  match text.dropWhile caseIgnorable.contains with
  | [] => false
  | c :: _ => cased.contains c

/-- The small form of the text that stands after `before`, which is given
backwards. A sigma that ends a word takes its final form, and the dotted capital
I keeps its dot as a mark of its own. -/
def lowercaseAfter : (before : Text) → Text → Text
  | _, [] => []
  | before, c :: rest =>
    let lowered :=
      if c = 'Σ' then
        [if startsCased before && !startsCased rest then 'ς' else 'σ']
      else if c = 'İ' then ['i', '\u0307']
      else [lowerLetter c]
    lowered ++ lowercaseAfter (c :: before) rest

def lowercase (text : Text) : Text :=
  lowercaseAfter [] text

end Text

end ApiReference
