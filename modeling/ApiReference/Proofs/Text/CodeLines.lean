import ApiReference.Proofs.Text.Indents

/-! ## Lines of code

A text is its lines with line ends between them, so that facts on texts are proved line
by line. Code in normal form is the body of a text, which reaches from its first to its
last line that is not blank, with each line outdented. -/

namespace ApiReference.Text

/-- Texts are built from their last line by putting lines in front of them. -/
@[elab_as_elim]
theorem lineInduction {motive : Text → Prop}
    (last : ∀ line, '\n' ∉ line → motive line)
    (step : ∀ line rest, '\n' ∉ line → motive rest → motive (line ++ '\n' :: rest))
    (text : Text) : motive text := by
  by_cases broken : '\n' ∈ text
  · obtain ⟨line, rest, rfl, unbroken⟩ := List.eq_append_cons_of_mem broken
    exact step line rest unbroken (lineInduction last step rest)
  · exact last text broken
termination_by text.length

/-! ### The lines of a text -/

/-- The first line of a text ends at its first line feed. -/
theorem lines_append_lineFeed {line : Text} (unbroken : '\n' ∉ line) (rest : Text) :
    lines (line ++ '\n' :: rest) = dropReturn line :: lines rest := by
  obtain ⟨first, others, cut⟩ :=
    List.exists_cons_of_ne_nil (List.splitOn_ne_nil '\n' rest)
  simp [lines, List.splitOn_append_cons_self_of_not_mem unbroken, cut]

theorem lines_unbroken {line : Text} (unbroken : '\n' ∉ line) :
    lines line = if line = [] then [] else [line] := by
  rw [lines, List.splitOn_eq_singleton unbroken]
  by_cases empty : line = []
  · simp [empty]
  · simp [empty]

theorem mem_of_mem_dropReturn {c : Char} {line : Text} (present : c ∈ dropReturn line) :
    c ∈ line := by
  rw [dropReturn] at present
  split at present
  · exact List.dropLast_subset line present
  · exact present

theorem lineFeed_not_mem_of_mem_lines {text line : Text} (isLine : line ∈ text.lines) :
    '\n' ∉ line := by
  induction text using lineInduction with
  | last whole unbroken =>
      rw [lines_unbroken unbroken] at isLine
      split at isLine
      · cases isLine
      · rw [List.mem_singleton.mp isLine]
        exact unbroken
  | step first rest unbroken inductionHypothesis =>
      rw [lines_append_lineFeed unbroken] at isLine
      rcases List.mem_cons.mp isLine with same | later
      · rw [same]
        intro present
        exact unbroken (mem_of_mem_dropReturn present)
      · exact inductionHypothesis later

/-- Lines put together are cut into the same lines, if no carriage return is taken for a
part of a line end, and if the last of them is there at all. -/
theorem lines_joinLines {front : List Text} {last : Text}
    (unbroken : ∀ line ∈ front ++ [last], '\n' ∉ line)
    (returnless : ∀ line ∈ front, line.getLast? ≠ some '\r') (present : last ≠ []) :
    lines (joinLines (front ++ [last])) = front ++ [last] := by
  induction front with
  | nil =>
      have lastUnbroken : '\n' ∉ last := unbroken last (by simp)
      rw [List.nil_append, joinLines_singleton, lines_unbroken lastUnbroken, if_neg present]
  | cons line others inductionHypothesis =>
      have lineUnbroken : '\n' ∉ line := unbroken line (by simp)
      have lineKept : dropReturn line = line :=
        if_neg (returnless line List.mem_cons_self)
      rw [List.cons_append, joinLines_cons (by simp), lines_append_lineFeed lineUnbroken,
        lineKept, inductionHypothesis]
      · intro other later
        exact unbroken other (List.mem_cons_of_mem line later)
      · intro other later
        exact returnless other (List.mem_cons_of_mem line later)

/-! ### Blank ends -/

theorem trimEnd_append {front back : Text} (solidBack : isBlank back = false) :
    trimEnd (front ++ back) = front ++ trimEnd back := by
  induction front with
  | nil =>
      rfl
  | cons c rest inductionHypothesis =>
      have notBlank : isBlank (c :: (rest ++ back)) = false := by
        rw [← List.cons_append, isBlank_append, solidBack, Bool.and_false]
      rw [List.cons_append, trimEnd_cons notBlank, inductionHypothesis, List.cons_append]

theorem trimEnd_append_blank {back : Text} (blank : isBlank back = true) (front : Text) :
    trimEnd (front ++ back) = trimEnd front := by
  have dropped : back.reverse.dropWhile isWhite = [] := by
    rw [← List.reverse_eq_nil_iff]
    exact trimEnd_eq_nil_iff.mpr blank
  rw [trimEnd, List.reverse_append, List.dropWhile_append, dropped]
  rfl

theorem isBlank_joinLines {lines : List Text} (blank : ∀ line ∈ lines, isBlank line = true) :
    isBlank (joinLines lines) = true := by
  rw [← solid_eq_nil_iff, solid_joinLines, List.flatMap_eq_nil_iff]
  intro line present
  exact solid_eq_nil_iff.mpr (blank line present)

theorem joinLines_append {lines others : List Text} (present : lines ≠ [])
    (presentToo : others ≠ []) :
    joinLines (lines ++ others) = joinLines lines ++ '\n' :: joinLines others := by
  induction lines with
  | nil =>
      exact absurd rfl present
  | cons line rest inductionHypothesis =>
      by_cases alone : rest = []
      · rw [alone, joinLines_singleton]
        exact joinLines_cons presentToo line
      · rw [List.cons_append, joinLines_cons (by simp [alone]), joinLines_cons alone,
          inductionHypothesis alone, List.append_assoc, List.cons_append]

/-- Blank lines at the end are trimmed away. -/
theorem trimEnd_joinLines_append {lines others : List Text} (present : lines ≠ [])
    (blank : ∀ line ∈ others, isBlank line = true) :
    trimEnd (joinLines (lines ++ others)) = trimEnd (joinLines lines) := by
  by_cases none : others = []
  · rw [none, List.append_nil]
  · rw [joinLines_append present none]
    apply trimEnd_append_blank
    have blankRest := isBlank_joinLines blank
    rw [isBlank, List.all_cons, isWhite_lineFeed, Bool.true_and]
    exact blankRest

theorem trimEnd_joinLines_concat {last : Text} (solidLast : isBlank last = false)
    (front : List Text) :
    trimEnd (joinLines (front ++ [last])) = joinLines (front ++ [trimEnd last]) := by
  have apart : ∀ line : Text,
      joinLines (front ++ [line]) = joinLines (front ++ [[]]) ++ line := by
    intro line
    exact joinLines_concat_append front [] line
  rw [apart, apart (trimEnd last), trimEnd_append solidLast]

/-! ### The shared indentation -/

/-- The line that is indented the least is not indented beyond what all lines share. -/
theorem exists_indentWidth_eq_sharedIndent {lines : List Text}
    (solidLine : ∃ line ∈ lines, isBlank line = false) :
    ∃ line ∈ lines, isBlank line = false ∧ indentWidth line = sharedIndent lines := by
  obtain ⟨line, present, notBlank⟩ := solidLine
  unfold sharedIndent
  cases least : ((lines.filter fun line => !isBlank line).map indentWidth).min? with
  | none =>
      rw [List.min?_eq_none_iff, List.map_eq_nil_iff, List.filter_eq_nil_iff] at least
      exact absurd notBlank (by simpa using least line present)
  | some width =>
      have attained := (List.min?_eq_some_iff.mp least).1
      obtain ⟨narrow, considered, same⟩ := List.mem_map.mp attained
      obtain ⟨isLine, solidNarrow⟩ := List.mem_filter.mp considered
      exact ⟨narrow, isLine, by simpa using solidNarrow, same⟩

theorem sharedIndent_eq {lines : List Text} {width : Nat}
    (attained : ∃ line ∈ lines, isBlank line = false ∧ indentWidth line = width)
    (least : ∀ line ∈ lines, isBlank line = false → width ≤ indentWidth line) :
    sharedIndent lines = width := by
  obtain ⟨line, present, notBlank, wide⟩ := attained
  obtain ⟨narrow, isLine, solidNarrow, same⟩ :=
    exists_indentWidth_eq_sharedIndent ⟨line, present, notBlank⟩
  -- The width is attained by a line, and so is the shared indentation.
  have upper := sharedIndent_le present (by simp [notBlank])
  have lower := least narrow isLine solidNarrow
  omega

/-- Blank lines have no say in what the others share. -/
theorem sharedIndent_append_blank {others : List Text}
    (blank : ∀ line ∈ others, isBlank line = true) (lines : List Text) :
    sharedIndent (lines ++ others) = sharedIndent lines := by
  have noneSolid : others.filter (fun line => !isBlank line) = [] := by
    rw [List.filter_eq_nil_iff]
    intro line present
    simp [blank line present]
  rw [sharedIndent, List.filter_append, noneSolid, List.append_nil]
  rfl

/-! ### The body of a text -/

/-- The lines of a text from its first to its last that is not blank. -/
structure IsBody (lines body : List Text) : Prop where
  within : ∃ above below, lines = above ++ body ++ below ∧
    ∀ line ∈ above ++ below, isBlank line = true
  start : ∀ line, body.head? = some line → isBlank line = false
  finish : ∀ line, body.getLast? = some line → isBlank line = false

theorem exists_isBody (lines : List Text) : ∃ body, IsBody lines body := by
  refine ⟨(lines.dropWhile isBlank).rdropWhile isBlank, ?_, ?_, ?_⟩
  · refine ⟨lines.takeWhile isBlank, (lines.dropWhile isBlank).rtakeWhile isBlank, ?_, ?_⟩
    · rw [List.append_assoc, List.rdropWhile_append_rtakeWhile,
        List.takeWhile_append_dropWhile]
    · intro line around
      rcases List.mem_append.mp around with isAbove | isBelow
      · exact List.mem_takeWhile_imp isAbove
      · exact List.mem_rtakeWhile_imp isBelow
  · intro line first
    obtain ⟨below, split⟩ := List.rdropWhile_prefix isBlank (lines.dropWhile isBlank)
    have solidStart := List.head?_dropWhile_not isBlank lines
    rw [← split, List.head?_append, first] at solidStart
    exact solidStart
  · intro line last
    have solidEnd := List.head?_dropWhile_not isBlank (lines.dropWhile isBlank).reverse
    rw [List.rdropWhile, List.getLast?_reverse] at last
    rw [last] at solidEnd
    exact solidEnd

/-- Lines are all blank, or they have a body with a last line. -/
theorem blank_or_isBody (lines : List Text) :
    (∀ line ∈ lines, isBlank line = true) ∨
      ∃ front last, IsBody lines (front ++ [last]) := by
  obtain ⟨body, isBody⟩ := exists_isBody lines
  rcases List.eq_nil_or_concat body with empty | ⟨front, last, same⟩
  · obtain ⟨above, below, split, blank⟩ := isBody.within
    rw [empty, List.append_nil] at split
    rw [split]
    exact Or.inl blank
  · rw [same, List.concat_eq_append] at isBody
    exact Or.inr ⟨front, last, isBody⟩

namespace IsBody

variable {lines body : List Text}

theorem mem (isBody : IsBody lines body) {line : Text} (inBody : line ∈ body) :
    line ∈ lines := by
  obtain ⟨above, below, split, _⟩ := isBody.within
  rw [split]
  exact List.mem_append_left below (List.mem_append_right above inBody)

theorem dropWhile_eq (isBody : IsBody lines body) (present : body ≠ []) :
    ∃ below, lines.dropWhile isBlank = body ++ below ∧
      ∀ line ∈ below, isBlank line = true := by
  obtain ⟨above, below, split, blank⟩ := isBody.within
  obtain ⟨first, others, same⟩ := List.exists_cons_of_ne_nil present
  have solidFirst : isBlank first = false := isBody.start first (by rw [same]; rfl)
  refine ⟨below, ?_, fun line isBelow => blank line (List.mem_append_right above isBelow)⟩
  rw [split, List.append_assoc, List.dropWhile_append_of_pos, same, List.cons_append,
    List.dropWhile_cons_of_neg (by simp [solidFirst])]
  intro line isAbove
  exact blank line (List.mem_append_left below isAbove)

end IsBody

/-! ### Outdented lines -/

/-- A line that is not blank loses just its first characters, which are as many as told,
and all of which indent. -/
inductive LosesIndent (width : Nat) : Text → Text → Prop
  | blank {line : Text} : isBlank line = true → LosesIndent width line []
  | solid {indent rest : Text} :
      isBlank (indent ++ rest) = false →
      (∀ c ∈ indent, isIndent c = true) →
      indent.length = width →
      LosesIndent width (indent ++ rest) rest

theorem isIndent_of_mem_take {line : Text} {width : Nat} (narrow : width ≤ indentWidth line) :
    ∀ c ∈ line.take width, isIndent c = true := by
  intro c taken
  obtain ⟨rest, split⟩ := List.takeWhile_prefix isIndent (l := line)
  rw [← split, List.take_append_of_le_length narrow] at taken
  exact List.mem_takeWhile_imp (List.mem_of_mem_take taken)

theorem length_take_of_le_indentWidth {line : Text} {width : Nat}
    (narrow : width ≤ indentWidth line) : (line.take width).length = width := by
  have within := (List.takeWhile_prefix isIndent (l := line)).length_le
  rw [List.length_take]
  simp only [indentWidth] at narrow
  omega

variable {lines : List Text} {line : Text}

theorem losesIndent_outdent (present : line ∈ lines) :
    LosesIndent (sharedIndent lines) line (outdent (sharedIndent lines) line) := by
  by_cases blank : isBlank line = true
  · rw [outdent, if_pos blank]
    exact LosesIndent.blank blank
  · have narrow := sharedIndent_le present blank
    have parts := List.take_append_drop (sharedIndent lines) line
    have loses :
        LosesIndent (sharedIndent lines)
          (line.take (sharedIndent lines) ++ line.drop (sharedIndent lines))
          (line.drop (sharedIndent lines)) := by
      apply LosesIndent.solid
      · rw [parts]
        simpa using blank
      · exact isIndent_of_mem_take narrow
      · exact length_take_of_le_indentWidth narrow
    rw [parts] at loses
    rw [outdent, if_neg blank]
    exact loses

theorem isBlank_outdent (present : line ∈ lines) :
    isBlank (outdent (sharedIndent lines) line) = isBlank line :=
  isBlank_eq_of_solid_eq (solid_outdent present)

theorem mem_of_mem_outdent {c : Char} {width : Nat} (within : c ∈ outdent width line) :
    c ∈ line := by
  rw [outdent] at within
  split at within
  · cases within
  · exact List.mem_of_mem_drop within

def IsFlush (line : Text) : Prop :=
  ∀ c, line.head? = some c → isIndent c = false

theorem isFlush_drop_indentWidth (line : Text) : IsFlush (line.drop (indentWidth line)) := by
  have rest : line.drop (indentWidth line) = line.dropWhile isIndent := by
    calc line.drop (indentWidth line)
        = (line.takeWhile isIndent ++ line.dropWhile isIndent).drop
            (line.takeWhile isIndent).length := by
          rw [List.takeWhile_append_dropWhile, indentWidth]
      _ = line.dropWhile isIndent := List.drop_left
  intro c first
  have stops := List.head?_dropWhile_not isIndent line
  rw [← rest, first] at stops
  exact stops

/-- Some line starts with neither a space nor a tab once it is outdented. -/
theorem exists_isFlush_outdent (solidLine : ∃ line ∈ lines, isBlank line = false) :
    ∃ line ∈ lines, isBlank line = false ∧
      IsFlush (outdent (sharedIndent lines) line) := by
  obtain ⟨line, present, notBlank, attained⟩ := exists_indentWidth_eq_sharedIndent solidLine
  refine ⟨line, present, notBlank, ?_⟩
  rw [outdent, notBlank, if_neg Bool.false_ne_true, ← attained]
  exact isFlush_drop_indentWidth line

theorem IsFlush.trimEnd {line : Text} (flush : IsFlush line) (notBlank : isBlank line = false) :
    IsFlush (trimEnd line) := by
  cases line with
  | nil =>
      cases notBlank
  | cons c rest =>
      rw [trimEnd_cons notBlank]
      exact flush

/-! ### Code in normal form -/

theorem normalCode_of_blank {text : Text} (blank : ∀ line ∈ text.lines, isBlank line = true) :
    normalCode text = [] := by
  have nothing : text.lines.dropWhile isBlank = [] := by
    rw [List.dropWhile_eq_nil_iff]
    exact blank
  rw [normalCode, nothing]
  rfl

variable {front : List Text} {last : Text}

def codeLines (front : List Text) (last : Text) : List Text :=
  front.map (outdent (sharedIndent (front ++ [last]))) ++
    [trimEnd (outdent (sharedIndent (front ++ [last])) last)]

/-- Every line of code is a line of the body, outdented, and trimmed if it is the last. -/
theorem mem_codeLines {piece : Text} (present : piece ∈ codeLines front last) :
    ∃ line ∈ front ++ [last],
      piece = outdent (sharedIndent (front ++ [last])) line ∨
        line = last ∧ piece = trimEnd (outdent (sharedIndent (front ++ [last])) line) := by
  rcases List.mem_append.mp present with inFront | isLast
  · obtain ⟨line, isLine, same⟩ := List.mem_map.mp inFront
    exact ⟨line, List.mem_append_left [last] isLine, Or.inl same.symm⟩
  · refine ⟨last, by simp, Or.inr ⟨rfl, ?_⟩⟩
    exact List.mem_singleton.mp isLast

variable {text : Text}

/-- Code is laid out from the lines of its body. -/
theorem normalCode_eq_joinLines (isBody : IsBody text.lines (front ++ [last])) :
    normalCode text = joinLines (codeLines front last) := by
  obtain ⟨below, dropped, blankBelow⟩ := isBody.dropWhile_eq (by simp)
  have solidLast : isBlank (outdent (sharedIndent (front ++ [last])) last) = false := by
    rw [isBlank_outdent (by simp)]
    exact isBody.finish last (by simp)
  have blankRest :
      ∀ line ∈ below.map (outdent (sharedIndent (front ++ [last]))), isBlank line = true := by
    intro line present
    obtain ⟨whole, isBelow, same⟩ := List.mem_map.mp present
    rw [← same, outdent, if_pos (blankBelow whole isBelow)]
    rfl
  rw [normalCode, dropped, sharedIndent_append_blank blankBelow, List.map_append,
    trimEnd_joinLines_append (by simp) blankRest, List.map_append, List.map_singleton,
    trimEnd_joinLines_concat solidLast, codeLines]

theorem lineFeed_not_mem_of_mem_codeLines (isBody : IsBody text.lines (front ++ [last])) :
    ∀ piece ∈ codeLines front last, '\n' ∉ piece := by
  intro piece present within
  obtain ⟨line, inBody, outdented⟩ := mem_codeLines present
  have inLine : '\n' ∈ line := by
    rcases outdented with same | ⟨_, same⟩
    · rw [same] at within
      exact mem_of_mem_outdent within
    · have shorter := trimEnd_prefix (outdent (sharedIndent (front ++ [last])) line)
      rw [same] at within
      exact mem_of_mem_outdent (shorter.subset within)
  exact lineFeed_not_mem_of_mem_lines (isBody.mem inBody) inLine

/-- The lines that code is made of are found again between its line feeds. -/
theorem splitOn_normalCode (isBody : IsBody text.lines (front ++ [last])) :
    (normalCode text).splitOn '\n' = codeLines front last := by
  rw [normalCode_eq_joinLines isBody]
  exact List.splitOn_intercalate '\n' (lineFeed_not_mem_of_mem_codeLines isBody)
    (by simp [codeLines])

/-- At least one line of code is not indented any more. -/
theorem exists_isFlush_codeLines (isBody : IsBody text.lines (front ++ [last])) :
    ∃ piece ∈ codeLines front last, isBlank piece = false ∧ IsFlush piece := by
  have solidLast : isBlank last = false := isBody.finish last (by simp)
  obtain ⟨line, inBody, notBlank, flush⟩ :=
    exists_isFlush_outdent ⟨last, List.mem_append_right front List.mem_cons_self, solidLast⟩
  have stillSolid : isBlank (outdent (sharedIndent (front ++ [last])) line) = false := by
    rw [isBlank_outdent inBody]
    exact notBlank
  rcases List.mem_append.mp inBody with inFront | isLast
  · refine ⟨_, List.mem_append_left _ (List.mem_map_of_mem inFront), stillSolid, flush⟩
  · rw [List.mem_singleton.mp isLast] at flush stillSolid
    refine ⟨_, List.mem_append_right _ List.mem_cons_self, ?_, flush.trimEnd stillSolid⟩
    rw [isBlank_trimEnd]
    exact stillSolid

end ApiReference.Text
