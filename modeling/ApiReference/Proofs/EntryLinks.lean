import ApiReference.Markdown.FeatureList
import ApiReference.Proofs.Backticks
import ApiReference.Proofs.Sections
import ApiReference.Proofs.Text.Lowercase

/-! ## Entries that work as links

An entry of the list of features is one line with a link in it, from the long name of a
member to the place that is called by the name shown for it. Names are written as they
are. So whether the line still reads as that link is up to them: line ends break the
line, white space breaks the place, and backticks on both sides of the link may pair up
to a span of code, which takes the link apart. -/

namespace ApiReference

namespace Markdown

/-! ### Links in a line -/

def endsLine (c : Char) : Bool :=
  c = '\n' || c = '\r'

/-- Whether a link works in the line that consists of `mark` and the link. The line must
be a single one, the destination must be free of white space, and no run of backticks in
the text of the link may be paired with one in the destination. -/
structure WorksInLine (mark text place : Text) : Prop where
  single_line : ∀ c ∈ mark ++ link text place, endsLine c = false
  solid_destination : ∀ c ∈ '#' :: place, isWhite c = false
  spans_apart :
    ∀ span ∈ codeSpans (mark ++ link text place),
      ¬ (span.1.Within (mark.length + 1) text.length ∧
          span.2.Within (mark.length + text.length + 3) ('#' :: place).length)

theorem endsLine_eq_false_of_not_white {c : Char} (solid : isWhite c = false) :
    endsLine c = false := by
  have notFeed : c ≠ '\n' := by
    rintro rfl
    exact absurd solid (by decide)
  have notReturn : c ≠ '\r' := by
    rintro rfl
    exact absurd solid (by decide)
  simp [endsLine, notFeed, notReturn]

theorem link_eq (text place : Text) :
    link text place = '[' :: (text ++ ']' :: '(' :: '#' :: (place ++ [')'])) := by
  simp [link]

theorem mem_link_iff {c : Char} {text place : Text} :
    c ∈ link text place ↔ c ∈ text ∨ c ∈ place ∨ c ∈ "[](#)".toList := by
  have brackets : "[](#)".toList = ['[', ']', '(', '#', ')'] := by
    decide
  rw [link_eq, brackets]
  simp only [List.mem_cons, List.mem_append, List.not_mem_nil, or_false]
  grind

/-- The brackets of a link end every run, so that its runs are those of the text and those
of the place. -/
theorem tickRuns_link {mark : Text} (tickless : '`' ∉ mark) (text place : Text) :
    tickRuns (mark ++ link text place) =
      tickRunsFrom 0 (mark.length + 1) text ++
        tickRunsFrom 0 (mark.length + text.length + 4) place := by
  have offset :
      0 + mark.length + 1 + text.length + 1 + 1 + 1 = mark.length + text.length + 4 := by
    omega
  have noTicks : tickRunsFrom 0 0 mark = [] := tickRunsFrom_eq_nil tickless 0
  rw [tickRuns, link_eq, tickRunsFrom_append (by decide), noTicks,
    tickRunsFrom_append (by decide), tickRunsFrom_other (by decide),
    tickRunsFrom_other (by decide), tickRunsFrom_append (by decide), offset]
  simp [tickRunsFrom]

/-- The spans stay apart exactly if no loose run of the text has the length of a run of
the place. -/
theorem spans_apart_iff {mark : Text} (tickless : '`' ∉ mark) (text place : Text) :
    (∀ span ∈ codeSpans (mark ++ link text place),
        ¬ (span.1.Within (mark.length + 1) text.length ∧
            span.2.Within (mark.length + text.length + 3) ('#' :: place).length)) ↔
      ∀ length ∈ looseLengths none (runLengths text), length ∉ runLengths place := by
  have textLengths := map_length_tickRunsFrom text 0 (mark.length + 1)
  have placeLengths := map_length_tickRunsFrom place 0 (mark.length + text.length + 4)
  rw [codeSpans, tickRuns_link tickless, runLengths, runLengths, ← textLengths,
    ← placeLengths]
  constructor
  · intro apart length loose shared
    obtain ⟨span, paired, first, second⟩ :=
      exists_crossing (closedIn_none _) loose shared
    have inText := within_of_mem_tickRunsFrom_zero first
    have inPlace := within_of_mem_tickRunsFrom_zero second
    have inDestination :
        span.2.Within (mark.length + text.length + 3) ('#' :: place).length := by
      simp only [TickRun.Within, List.length_cons] at inPlace ⊢
      omega
    exact apart span paired ⟨inText, inDestination⟩
  · intro noneShared span paired
    rw [pairRuns_append (closedIn_none _) noneShared] at paired
    rcases List.mem_append.mp paired with within | within
    · -- Both runs lie in the text, in front of the destination.
      have inText := within_of_mem_tickRunsFrom_zero (mem_of_mem_pairRuns within).2
      simp only [TickRun.Within, TickRun.finish] at inText ⊢
      omega
    · have inPlace := within_of_mem_tickRunsFrom_zero (mem_of_mem_pairRuns within).1
      simp only [TickRun.Within, TickRun.finish] at inPlace ⊢
      omega

/-- A link works exactly if its text keeps to the line, its place is free of white space,
and no run that is loose in the text has its length among those of the place. -/
theorem worksInLine_iff {mark : Text} (tickless : '`' ∉ mark)
    (oneLine : ∀ c ∈ mark, endsLine c = false) (text place : Text) :
    WorksInLine mark text place ↔
      (∀ c ∈ text, endsLine c = false) ∧ (∀ c ∈ place, isWhite c = false) ∧
        ∀ length ∈ looseLengths none (runLengths text), length ∉ runLengths place := by
  constructor
  · intro works
    have textLine : ∀ c ∈ text, endsLine c = false := by
      intro c present
      have inLink : c ∈ link text place := mem_link_iff.mpr (Or.inl present)
      exact works.single_line c (List.mem_append_right mark inLink)
    have placeSolid : ∀ c ∈ place, isWhite c = false := by
      intro c present
      exact works.solid_destination c (List.mem_cons_of_mem _ present)
    exact ⟨textLine, placeSolid, (spans_apart_iff tickless text place).mp works.spans_apart⟩
  · intro suited
    obtain ⟨textLine, placeSolid, apart⟩ := suited
    have bracketsInLine : "[](#)".toList.any endsLine = false := by
      decide
    constructor
    · intro c present
      rcases List.mem_append.mp present with inMark | inLink
      · exact oneLine c inMark
      · rcases mem_link_iff.mp inLink with inText | inPlace | isBracket
        · exact textLine c inText
        · exact endsLine_eq_false_of_not_white (placeSolid c inPlace)
        · exact Bool.eq_false_iff.mpr (List.any_eq_false.mp bracketsInLine c isBracket)
    · intro c present
      rcases List.mem_cons.mp present with rfl | inPlace
      · decide
      · exact placeSolid c inPlace
    · exact (spans_apart_iff tickless text place).mpr apart

/-! ### Places that are called by a name -/

/-- White space other than spaces stays in the place, and nothing else makes it white. -/
theorem anchor_solid_iff (name : Text) :
    (∀ c ∈ anchor name, isWhite c = false) ↔
      ∀ c ∈ name, isWhite c = true → c = ' ' := by
  have kept : ∀ c, isWhite c = true → (c ∈ name.lowercase ↔ c ∈ name) := by
    intro c white
    exact Text.mem_lowercase_iff (caseless_contains_iff.mpr (Or.inr white)) name
  constructor
  · intro solid c present white
    by_cases isSpace : c = ' '
    · exact isSpace
    · have inAnchor : c ∈ anchor name := by
        apply List.mem_map.mpr
        exact ⟨c, (kept c white).mpr present, if_neg isSpace⟩
      rw [solid c inAnchor] at white
      cases white
  · intro spacesOnly d inAnchor
    obtain ⟨c, lowered, rfl⟩ := List.mem_map.mp inAnchor
    by_cases isSpace : c = ' '
    · rw [if_pos isSpace]
      decide
    · rw [if_neg isSpace]
      cases white : isWhite c with
      | false =>
          rfl
      | true =>
          have inName : c ∈ name := (kept c white).mp lowered
          exact absurd (spacesOnly c inName white) isSpace

theorem eq_tick_of_lowers {piece : Text} (lowers : Text.Lowers '`' piece) :
    piece = ['`'] := by
  cases lowers with
  | kept =>
      rfl
  | lowered hasCase =>
      exact absurd hasCase (by decide)

theorem tick_not_mem_of_lowers {c : Char} {piece : Text} (other : c ≠ '`')
    (lowers : Text.Lowers c piece) :
    '`' ∉ piece.map fun c => if c = ' ' then '-' else c := by
  intro present
  obtain ⟨d, inPiece, becomesTick⟩ := List.mem_map.mp present
  split at becomesTick
  · cases becomesTick
  · subst becomesTick
    have isFirst := (lowers.mem_iff (by decide)).mp inPiece
    exact other isFirst.symm

/-- A place has the runs of backticks that its name has. -/
theorem runLengthsFrom_lowercaseAfter (name : Text) :
    ∀ before pending,
      runLengthsFrom pending
          ((Text.lowercaseAfter before name).map fun c => if c = ' ' then '-' else c) =
        runLengthsFrom pending name := by
  induction name with
  | nil =>
      intro before pending
      rfl
  | cons c rest inductionHypothesis =>
      intro before pending
      obtain ⟨piece, lowers, split⟩ := Text.lowercaseAfter_cons before c rest
      rw [split, List.map_append]
      by_cases isTick : c = '`'
      · subst isTick
        rw [eq_tick_of_lowers lowers]
        exact inductionHypothesis _ _
      · have present : piece.map (fun c => if c = ' ' then '-' else c) ≠ [] := by
          simp [lowers.ne_nil]
        have tickless := tick_not_mem_of_lowers isTick lowers
        rw [runLengthsFrom_tickless present tickless, runLengthsFrom_other isTick,
          inductionHypothesis]

/-- An anchor has the runs of backticks that the name has. -/
theorem runLengths_anchor (name : Text) : runLengths (anchor name) = runLengths name :=
  runLengthsFrom_lowercaseAfter name [] 0

end Markdown

open Markdown

/-! ### Entries -/

namespace Member

def listMark (number : Nat) (member : Member) : Text :=
  if member.kind.isClass then Nat.toDigits 10 number ++ ". ".toList else "- ".toList

theorem entry_eq (number : Nat) (member : Member) :
    member.entry number =
      (if member.kind.isClass then ['\n'] else []) ++
        (member.listMark number ++ link member.longName member.anchor) ++ ['\n'] := by
  rw [entry, entryMark, listMark]
  split
  · simp only [List.append_assoc]
  · rfl

theorem mem_listMark {number : Nat} {member : Member} {c : Char}
    (present : c ∈ member.listMark number) : c.isDigit = true ∨ c ∈ ['.', ' ', '-'] := by
  rw [listMark] at present
  split at present
  · rcases List.mem_append.mp present with inNumber | behind
    · exact Or.inl (Nat.isDigit_of_mem_toDigits (by decide) (by decide) inNumber)
    · have listed : c ∈ ['.', ' '] := behind
      exact Or.inr (List.mem_append_left ['-'] listed)
  · have listed : c ∈ ['-', ' '] := present
    simp only [List.mem_cons, List.not_mem_nil, or_false] at listed ⊢
    grind

theorem tick_not_mem_listMark (number : Nat) (member : Member) :
    '`' ∉ member.listMark number := by
  intro present
  rcases mem_listMark present with isDigit | isSign
  · exact absurd isDigit (by decide)
  · exact absurd isSign (by decide)

theorem endsLine_listMark (number : Nat) (member : Member) :
    ∀ c ∈ member.listMark number, endsLine c = false := by
  intro c present
  have notWithin : ∀ d, endsLine d = true → d ∉ member.listMark number := by
    intro d ends within
    have isEnd : d = '\n' ∨ d = '\r' := by
      simpa [endsLine] using ends
    rcases mem_listMark within with isDigit | isSign
    · rcases isEnd with rfl | rfl <;> exact absurd isDigit (by decide)
    · rcases isEnd with rfl | rfl <;> exact absurd isSign (by decide)
  cases ends : endsLine c with
  | false =>
      rfl
  | true =>
      exact absurd present (notWithin c ends)

/-- Whether the names of a member leave its entry a link. Neither name may break the
line or the place, and each run of backticks in the long name is paired within that name
or has no run of its length in the name to show. -/
structure NamesSuitLinks (member : Member) : Prop where
  single_line : ∀ c ∈ member.longName, endsLine c = false
  spaces_only : ∀ c ∈ member.displayName, isWhite c = true → c = ' '
  ticks_apart :
    ∀ length ∈ looseLengths none (runLengths member.longName),
      length ∉ runLengths member.displayName

/-- The mark in front of an entry has no say in whether its link works. -/
theorem worksInLine_listMark_iff (number : Nat) (member : Member) :
    WorksInLine (member.listMark number) member.longName member.anchor ↔
      member.NamesSuitLinks := by
  have tickless := tick_not_mem_listMark number member
  have oneLine := endsLine_listMark number member
  rw [worksInLine_iff tickless oneLine, anchor, anchor_solid_iff, runLengths_anchor]
  constructor
  · intro suited
    exact ⟨suited.1, suited.2.1, suited.2.2⟩
  · intro suited
    exact ⟨suited.single_line, suited.spaces_only, suited.ticks_apart⟩

end Member

/-- Between line feeds, an entry is its mark and the link, and the link works in this
line exactly if the names of the member suit it. -/
theorem entry_worksInLine_iff (number : Nat) (member : Member) :
    member.entry number =
        (if member.kind.isClass then ['\n'] else []) ++
          (member.listMark number ++ link member.longName member.anchor) ++ ['\n'] ∧
      (WorksInLine (member.listMark number) member.longName member.anchor ↔
        member.NamesSuitLinks) :=
  ⟨member.entry_eq number, member.worksInLine_listMark_iff number⟩

/-- A generic class without a given name: the backtick of its long name pairs with that
of the place. -/
def genericBox : Member :=
  ⟨.classType, "Shapes.Box`1".toList, by decide, []⟩

def twoLineBox : Member :=
  ⟨.classType, "Shapes.Box".toList, by decide,
    [.ofTag "name".toList none "The\n  Box".toList]⟩

/-- A lone backtick in a long name and a line feed in a given name break the entry. -/
theorem entries_not_working :
    genericBox.entry 1 = "\n1. [Shapes.Box`1](#shapes.box`1)\n".toList ∧
      ¬ WorksInLine (genericBox.listMark 1) genericBox.longName genericBox.anchor ∧
      (∀ part ∈ twoLineBox.sections, part.FromTag) ∧
      twoLineBox.entry 1 = "\n1. [Shapes.Box](#the\nbox)\n".toList ∧
      ¬ WorksInLine (twoLineBox.listMark 1) twoLineBox.longName twoLineBox.anchor := by
  have genericFails :
      ¬ WorksInLine (genericBox.listMark 1) genericBox.longName genericBox.anchor := by
    rw [Member.worksInLine_listMark_iff]
    intro suited
    have loose : 1 ∈ looseLengths none (runLengths genericBox.longName) := by
      decide
    have shared : 1 ∈ runLengths genericBox.displayName := by
      decide
    exact suited.ticks_apart 1 loose shared
  have twoLineFails :
      ¬ WorksInLine (twoLineBox.listMark 1) twoLineBox.longName twoLineBox.anchor := by
    rw [Member.worksInLine_listMark_iff]
    intro suited
    have present : '\n' ∈ twoLineBox.displayName := by
      decide +kernel
    exact absurd (suited.spaces_only '\n' present (by decide)) (by decide)
  have made : ∀ part ∈ twoLineBox.sections, part.FromTag := by
    intro part present
    obtain rfl := List.mem_singleton.mp present
    exact ⟨_, _, _, rfl⟩
  exact ⟨by decide +kernel, genericFails, made, by decide +kernel, twoLineFails⟩

end ApiReference
