import ApiReference.Proofs.Loading
import ApiReference.Proofs.Text.CodeLines

/-! ## The layout of code

Code keeps its layout: all its lines lose the same indentation and nothing else, but for
the blank lines around them and the white space behind the last one. So it is the same
code however far it is indented as a whole, and whichever way its lines end. -/

namespace ApiReference.Text

/-! ### Lines cut at bytes -/

theorem utf8Size_of_isIndent {c : Char} (indents : isIndent c = true) : c.utf8Size = 1 := by
  have choice : c = ' ' ∨ c = '\t' := by
    simpa [isIndent] using indents
  rcases choice with isSpace | isTab
  · rw [isSpace]
    decide
  · rw [isTab]
    decide

/-- An indentation has as many bytes as characters. -/
theorem fromByte?_length_append {indent : Text} (indents : ∀ c ∈ indent, isIndent c = true)
    (rest : Text) : (indent ++ rest).fromByte? indent.length = some rest := by
  induction indent with
  | nil =>
      simp [fromByte?]
  | cons c others inductionHypothesis =>
      have single := utf8Size_of_isIndent (indents c List.mem_cons_self)
      have later := inductionHypothesis fun d present =>
        indents d (List.mem_cons_of_mem c present)
      rw [List.length_cons, List.cons_append, fromByte?, single,
        if_pos (Nat.le_add_left 1 _), Nat.add_sub_cancel]
      exact later

/-- Up to the width of its indentation, a line is cut at the same place by bytes as by
characters. -/
theorem fromByte?_of_le_indentWidth {line : Text} {width : Nat}
    (narrow : width ≤ indentWidth line) : line.fromByte? width = some (line.drop width) := by
  have cut := fromByte?_length_append (isIndent_of_mem_take narrow) (line.drop width)
  rw [List.take_append_drop, length_take_of_le_indentWidth narrow] at cut
  exact cut

/-! ### The lines that are left -/

/-- What becomes of the body of a text. Each line loses the same indentation, which ends
between two characters also when it is counted in bytes; the last line loses the white
space at its end, too. At least one line is not indented any more. -/
structure OutdentsTo (width : Nat) (body pieces : List Text) : Prop where
  lines : ∃ front last, pieces = front ++ [trimEnd last] ∧
    List.Forall₂ (LosesIndent width) body (front ++ [last])
  sliced : ∀ line ∈ body, isBlank line = false →
    line.fromByte? width = some (line.drop width)
  flush : ∃ piece ∈ pieces, isBlank piece = false ∧ IsFlush piece

theorem forall₂_losesIndent (body : List Text) :
    List.Forall₂ (LosesIndent (sharedIndent body)) body
      (body.map (outdent (sharedIndent body))) := by
  rw [List.forall₂_map_right_iff, List.forall₂_same]
  intro line present
  exact losesIndent_outdent present

/-- The lines that are made of a body lose what its lines share, counted in bytes as
in characters. -/
theorem outdentsTo_codeLines {text : Text} {front : List Text} {last : Text}
    (isBody : IsBody text.lines (front ++ [last])) :
    OutdentsTo (sharedIndent (front ++ [last])) (front ++ [last]) (codeLines front last) := by
  constructor
  · refine ⟨_, _, rfl, ?_⟩
    have outdented := forall₂_losesIndent (front ++ [last])
    rw [List.map_append, List.map_singleton] at outdented
    exact outdented
  · intro line inBody notBlank
    apply fromByte?_of_le_indentWidth
    exact sharedIndent_le inBody (by simp [notBlank])
  · exact exists_isFlush_codeLines isBody

/-! ### Layouts that make no difference -/

/-- The text with an indentation in front of every line. Whether the text itself starts a
line is told by `lineStart`. -/
def indentLines (indent : Text) (lineStart : Bool) : Text → Text
  | [] => []
  | c :: rest =>
    (if lineStart then indent else []) ++ c :: indentLines indent (c = '\n') rest

def addReturns (text : Text) : Text :=
  text.flatMap fun c => if c = '\n' then ['\r', '\n'] else [c]

theorem indentLines_append_lineFeed (indent : Text) {line : Text} (unbroken : '\n' ∉ line)
    (rest : Text) :
    ∀ lineStart, indentLines indent lineStart (line ++ '\n' :: rest) =
      (if lineStart then indent else []) ++ line ++
        '\n' :: indentLines indent true rest := by
  induction line with
  | nil =>
      intro lineStart
      simp [indentLines]
  | cons c others inductionHypothesis =>
      intro lineStart
      have notFeed : c ≠ '\n' := by
        intro isFeed
        exact unbroken (by simp [isFeed])
      have later := inductionHypothesis
        (fun present => unbroken (List.mem_cons_of_mem c present)) false
      simp [indentLines, notFeed, later]

theorem indentLines_unbroken (indent : Text) {line : Text} (unbroken : '\n' ∉ line) :
    ∀ lineStart, indentLines indent lineStart line =
      if line = [] then [] else (if lineStart then indent else []) ++ line := by
  induction line with
  | nil =>
      intro lineStart
      rfl
  | cons c others inductionHypothesis =>
      intro lineStart
      have notFeed : c ≠ '\n' := by
        intro isFeed
        exact unbroken (by simp [isFeed])
      have later := inductionHypothesis
        (fun present => unbroken (List.mem_cons_of_mem c present)) false
      by_cases none : others = []
      · simp [indentLines, none]
      · simp [indentLines, notFeed, later, none]

variable {indent : Text}

theorem dropReturn_indent_append (indents : ∀ c ∈ indent, isIndent c = true) (line : Text) :
    dropReturn (indent ++ line) = indent ++ dropReturn line := by
  -- In an empty line, the last character is that of the indentation.
  by_cases none : line = []
  · have notReturn : indent.getLast? ≠ some '\r' := by
      intro last
      exact absurd (indents '\r' (List.mem_of_getLast? last)) (by decide)
    simp [dropReturn, none, notReturn]
  · rw [dropReturn, dropReturn, List.getLast?_append_of_ne_nil _ none]
    split
    · exact List.dropLast_append_of_ne_nil none
    · rfl

/-- The lines of an indented text are those of the text, each behind the indentation. -/
theorem lines_indentLines (indents : ∀ c ∈ indent, isIndent c = true) (text : Text) :
    (indentLines indent true text).lines = text.lines.map (indent ++ ·) := by
  have feedless : '\n' ∉ indent := by
    intro present
    exact absurd (indents '\n' present) (by decide)
  have longer : ∀ line : Text, '\n' ∉ line → '\n' ∉ indent ++ line := by
    intro line unbroken present
    rcases List.mem_append.mp present with inIndent | inLine
    · exact feedless inIndent
    · exact unbroken inLine
  induction text using lineInduction with
  | last line unbroken =>
      rw [indentLines_unbroken indent unbroken, lines_unbroken unbroken]
      by_cases none : line = []
      · simp [none, lines_unbroken]
      · rw [if_neg none, if_neg none, if_pos rfl, lines_unbroken (longer line unbroken)]
        simp [none]
  | step line rest unbroken inductionHypothesis =>
      rw [indentLines_append_lineFeed indent unbroken, if_pos rfl,
        lines_append_lineFeed (longer line unbroken), lines_append_lineFeed unbroken,
        dropReturn_indent_append indents, inductionHypothesis, List.map_cons]

/-- A carriage return at the line ends leaves the lines as they are. -/
theorem lines_addReturns {text : Text} (returnless : '\r' ∉ text) :
    (addReturns text).lines = text.lines := by
  have unchanged : ∀ line : Text, '\n' ∉ line → addReturns line = line := by
    intro line unbroken
    have single : ∀ c ∈ line, (if c = '\n' then ['\r', '\n'] else [c]) = [c] := by
      intro c present
      apply if_neg
      intro isFeed
      exact unbroken (isFeed ▸ present)
    rw [addReturns, List.flatMap_congr single, List.flatMap_singleton']
  induction text using lineInduction with
  | last line unbroken =>
      rw [unchanged line unbroken]
  | step line rest unbroken inductionHypothesis =>
      have lineReturnless : '\r' ∉ line := fun present =>
        returnless (List.mem_append_left _ present)
      have restReturnless : '\r' ∉ rest := fun present =>
        returnless (List.mem_append_right _ (List.mem_cons_of_mem '\n' present))
      have split : addReturns (line ++ '\n' :: rest) =
          (line ++ ['\r']) ++ '\n' :: addReturns rest := by
        have lineKept := unchanged line unbroken
        rw [addReturns] at lineKept
        simp [addReturns, lineKept]
      have stillUnbroken : '\n' ∉ line ++ ['\r'] := by
        simp [unbroken]
      have ended : dropReturn (line ++ ['\r']) = line := by
        simp [dropReturn]
      have notEnded : dropReturn line = line := by
        apply if_neg
        intro last
        exact lineReturnless (List.mem_of_getLast? last)
      rw [split, lines_append_lineFeed stillUnbroken, lines_append_lineFeed unbroken, ended,
        notEnded, inductionHypothesis restReturnless]

theorem isBlank_indent_append (indents : ∀ c ∈ indent, isIndent c = true) (line : Text) :
    isBlank (indent ++ line) = isBlank line := by
  have white : isBlank indent = true := by
    rw [isBlank, List.all_eq_true]
    intro c present
    exact isWhite_of_isIndent (indents c present)
  rw [isBlank_append, white, Bool.true_and]

theorem indentWidth_indent_append (indents : ∀ c ∈ indent, isIndent c = true) (line : Text) :
    indentWidth (indent ++ line) = indent.length + indentWidth line := by
  rw [indentWidth, List.takeWhile_append_of_pos indents, List.length_append]
  rfl

/-- An indentation in front of all lines adds to what they share. -/
theorem sharedIndent_map_append (indents : ∀ c ∈ indent, isIndent c = true)
    {lines : List Text} (solidLine : ∃ line ∈ lines, isBlank line = false) :
    sharedIndent (lines.map (indent ++ ·)) = indent.length + sharedIndent lines := by
  obtain ⟨line, present, notBlank, attained⟩ := exists_indentWidth_eq_sharedIndent solidLine
  apply sharedIndent_eq
  · refine ⟨indent ++ line, List.mem_map_of_mem present, ?_, ?_⟩
    · rw [isBlank_indent_append indents]
      exact notBlank
    · rw [indentWidth_indent_append indents, attained]
  · intro longer isLonger solidLonger
    obtain ⟨other, isLine, same⟩ := List.mem_map.mp isLonger
    rw [← same, isBlank_indent_append indents] at solidLonger
    rw [← same, indentWidth_indent_append indents]
    have least := sharedIndent_le isLine (by simp [solidLonger])
    omega

theorem outdent_map_append (indents : ∀ c ∈ indent, isIndent c = true) (lines : List Text) :
    (lines.map (indent ++ ·)).map (outdent (sharedIndent (lines.map (indent ++ ·)))) =
      lines.map (outdent (sharedIndent lines)) := by
  rw [List.map_map]
  apply List.map_congr_left
  intro line present
  rw [Function.comp_apply, outdent, outdent, isBlank_indent_append indents]
  by_cases blank : isBlank line = true
  · rw [if_pos blank, if_pos blank]
  · have solidLine : ∃ line ∈ lines, isBlank line = false :=
      ⟨line, present, by simpa using blank⟩
    rw [if_neg blank, if_neg blank, sharedIndent_map_append indents solidLine, ← List.drop_drop,
      List.drop_left]

/-- Code looks the same however far it is indented as a whole. -/
theorem normalCode_indentLines (indents : ∀ c ∈ indent, isIndent c = true) (text : Text) :
    normalCode (indentLines indent true text) = normalCode text := by
  have sameBlank : isBlank ∘ (indent ++ ·) = isBlank := by
    funext line
    exact isBlank_indent_append indents line
  rw [normalCode, normalCode, lines_indentLines indents, List.dropWhile_map, sameBlank,
    outdent_map_append indents]

/-- Code looks the same with either kind of line end. -/
theorem normalCode_addReturns {text : Text} (returnless : '\r' ∉ text) :
    normalCode (addReturns text) = normalCode text := by
  rw [normalCode, normalCode, lines_addReturns returnless]

/-- Nothing is left of a text whose lines are all blank. Of any other text, the lines from
the first to the last that is not blank are left, outdented. How far the text is indented
as a whole makes no difference, and neither does a carriage return at the end of each
line. -/
theorem normalCode_outdents_body (text : Text) :
    ((∀ line ∈ text.lines, isBlank line = true) → normalCode text = []) ∧
      ((∃ line ∈ text.lines, isBlank line = false) →
        ∃ body width, body ≠ [] ∧ IsBody text.lines body ∧
          OutdentsTo width body ((normalCode text).splitOn '\n')) ∧
      (∀ indent : Text, (∀ c ∈ indent, isIndent c = true) →
        normalCode (indentLines indent true text) = normalCode text) ∧
      ('\r' ∉ text → normalCode (addReturns text) = normalCode text) := by
  refine ⟨normalCode_of_blank, ?_, ?_, normalCode_addReturns⟩
  · intro solidLine
    rcases blank_or_isBody text.lines with blank | ⟨front, last, isBody⟩
    · obtain ⟨line, isLine, notBlank⟩ := solidLine
      rw [blank line isLine] at notBlank
      cases notBlank
    · refine ⟨front ++ [last], sharedIndent (front ++ [last]), by simp, isBody, ?_⟩
      rw [splitOn_normalCode isBody]
      exact outdentsTo_codeLines isBody
  · intro indent indents
    exact normalCode_indentLines indents text

def sampleCode : Text :=
  "\n    if (x)\n \n      y();\t\n  ".toList

theorem normalCode_outdents_body_sampleCode :
    ((∀ line ∈ lines " \n\t".toList, isBlank line = true) ∧ normalCode " \n\t".toList = []) ∧
      ((∃ line ∈ sampleCode.lines, isBlank line = false) ∧
        ∃ body width, body ≠ [] ∧ IsBody sampleCode.lines body ∧
          OutdentsTo width body ((normalCode sampleCode).splitOn '\n')) ∧
      ((∀ c ∈ "\t ".toList, isIndent c = true) ∧
        normalCode (indentLines "\t ".toList true sampleCode) = normalCode sampleCode) ∧
      '\r' ∉ sampleCode ∧ normalCode (addReturns sampleCode) = normalCode sampleCode := by
  have blank : ∀ line ∈ lines " \n\t".toList, isBlank line = true := by
    decide +kernel
  have solidLine : ∃ line ∈ sampleCode.lines, isBlank line = false := by
    decide +kernel
  have indents : ∀ c ∈ "\t ".toList, isIndent c = true := by
    apply List.all_eq_true.mp
    decide +kernel
  have returnless : '\r' ∉ sampleCode := by
    decide +kernel
  obtain ⟨_, outdents, indented, returned⟩ := normalCode_outdents_body sampleCode
  exact ⟨⟨blank, (normalCode_outdents_body " \n\t".toList).1 blank⟩,
    ⟨solidLine, outdents solidLine⟩, ⟨indents, indented _ indents⟩, returnless,
    returned returnless⟩

example : normalCode sampleCode = "if (x)\n\n  y();".toList := by
  decide +kernel

end ApiReference.Text
