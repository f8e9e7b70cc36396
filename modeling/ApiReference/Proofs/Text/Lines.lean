import ApiReference.Proofs.Text.WhiteSpace
import ApiReference.Text.Lines

/-! ## What normal forms keep

Both normal forms of a text drop white space only. Prose in normal form has nothing
white at its ends, so that trimming it again changes nothing. -/

namespace ApiReference.Text

/-! ### Lines cut and put together -/

theorem joinLines_singleton (line : Text) : joinLines [line] = line := by
  simp [joinLines]

theorem joinLines_cons {others : List Text} (present : others ≠ []) (line : Text) :
    joinLines (line :: others) = line ++ '\n' :: joinLines others := by
  obtain ⟨next, rest, rfl⟩ := List.exists_cons_of_ne_nil present
  simp [joinLines, List.intercalate_cons_cons]

theorem joinLines_modifyHead (c : Char) {lines : List Text} (present : lines ≠ []) :
    joinLines (lines.modifyHead (List.cons c)) = c :: joinLines lines := by
  obtain ⟨first, others, rfl⟩ := List.exists_cons_of_ne_nil present
  by_cases alone : others = []
  · subst alone
    simp [joinLines_singleton]
  · simp [joinLines_cons alone]

/-- A character that does not break a text goes on with the last piece. -/
theorem splitOn_concat {mark c : Char} (goesOn : c ≠ mark) (text : Text) :
    ∃ front last,
      text.splitOn mark = front ++ [last] ∧
        (text ++ [c]).splitOn mark = front ++ [last ++ [c]] := by
  induction text with
  | nil =>
      refine ⟨[], [], rfl, ?_⟩
      exact List.splitOn_eq_singleton (by simpa using goesOn.symm)
  | cons first rest inductionHypothesis =>
      obtain ⟨front, last, cut, cutLonger⟩ := inductionHypothesis
      rw [List.cons_append, List.splitOn_cons_eq_if_modifyHead,
        List.splitOn_cons_eq_if_modifyHead, cut, cutLonger]
      by_cases breaks : (first == mark) = true
      · exact ⟨[] :: front, last, by simp [breaks], by simp [breaks]⟩
      · cases front with
        | nil =>
            exact ⟨[], first :: last, by simp [breaks], by simp [breaks]⟩
        | cons line lines =>
            exact ⟨(first :: line) :: lines, last, by simp [breaks], by simp [breaks]⟩

theorem joinLines_concat_append (front : List Text) (last more : Text) :
    joinLines (front ++ [last ++ more]) = joinLines (front ++ [last]) ++ more := by
  induction front with
  | nil =>
      simp [joinLines_singleton]
  | cons line lines inductionHypothesis =>
      rw [List.cons_append, List.cons_append, joinLines_cons (by simp),
        joinLines_cons (by simp), inductionHypothesis]
      simp

/-! ### Characters that indent and end lines -/

theorem isWhite_lineFeed : isWhite '\n' = true := by
  decide

theorem isWhite_carriageReturn : isWhite '\r' = true := by
  decide

theorem isWhite_of_isIndent {c : Char} (indents : isIndent c = true) :
    isWhite c = true := by
  have choice : c = ' ' ∨ c = '\t' := by
    simpa [isIndent] using indents
  rcases choice with rfl | rfl
  · decide
  · decide

theorem solid_joinLines (lines : List Text) :
    solid (joinLines lines) = lines.flatMap solid := by
  induction lines with
  | nil =>
      rfl
  | cons line others inductionHypothesis =>
      by_cases alone : others = []
      · subst alone
        simp [joinLines_singleton]
      · rw [joinLines_cons alone, solid_append, List.flatMap_cons,
          ← inductionHypothesis]
        simp [solid, isWhite_lineFeed]

/-! ### Prose -/

/-- The start of a text that is not indented stays where it is. -/
theorem dropIndents_cons {c : Char} (solidStart : isWhite c = false) (rest : Text) :
    ∃ others, dropIndents (c :: rest) = c :: others := by
  have notBreak : c ≠ '\n' := by
    rintro rfl
    simp [isWhite_lineFeed] at solidStart
  have notIndent : isIndent c ≠ true := by
    intro indents
    simp [isWhite_of_isIndent indents] at solidStart
  obtain ⟨line, lines, cut⟩ :=
    List.exists_cons_of_ne_nil (List.splitOn_ne_nil '\n' rest)
  have cutLonger :
      List.splitOn '\n' (c :: rest) = (c :: line) :: lines := by
    rw [List.splitOn_cons_eq_if_modifyHead, if_neg (by simpa using notBreak), cut,
      List.modifyHead_cons]
  refine ⟨joinLines (line :: lines.map (·.dropWhile isIndent)), ?_⟩
  rw [dropIndents, cutLonger, List.map_cons,
    List.dropWhile_cons_of_neg notIndent]
  exact @joinLines_modifyHead c (line :: lines.map (·.dropWhile isIndent)) (by simp)

/-- So does a character at its end that is not white. -/
theorem dropIndents_concat {c : Char} (solidEnd : isWhite c = false) (text : Text) :
    dropIndents (text ++ [c]) = dropIndents text ++ [c] := by
  have notBreak : c ≠ '\n' := by
    rintro rfl
    simp [isWhite_lineFeed] at solidEnd
  have notIndent : ∀ line : Text,
      (line ++ [c]).dropWhile isIndent = line.dropWhile isIndent ++ [c] := by
    intro line
    have stays : isIndent c = false := by
      by_contra indents
      simp [isWhite_of_isIndent (by simpa using indents)] at solidEnd
    rw [List.dropWhile_append]
    split
    next none =>
      simp_all
    next =>
      rfl
  obtain ⟨front, last, cut, cutLonger⟩ := splitOn_concat notBreak text
  rw [dropIndents, dropIndents, cut, cutLonger, List.map_append, List.map_append,
    List.map_singleton, List.map_singleton, notIndent, joinLines_concat_append]

theorem trimmed_dropIndents {text : Text} (trimmed : Trimmed text) :
    Trimmed (dropIndents text) := by
  constructor
  · intro c first
    cases text with
    | nil =>
        simp [dropIndents, joinLines_singleton] at first
    | cons start rest =>
        have solidStart := trimmed.start start rfl
        obtain ⟨others, kept⟩ := dropIndents_cons solidStart rest
        rw [kept] at first
        cases first
        exact solidStart
  · intro c last
    rcases List.eq_nil_or_concat text with rfl | ⟨front, finish, rfl⟩
    · simp [dropIndents, joinLines_singleton] at last
    · have solidEnd := trimmed.finish finish (by simp)
      rw [List.concat_eq_append, dropIndents_concat solidEnd] at last
      have same : finish = c := by
        simpa using last
      rw [← same]
      exact solidEnd

theorem trimmed_normalProse (text : Text) : Trimmed (normalProse text) :=
  trimmed_dropIndents (trimmed_trim text)

theorem solid_dropIndents (text : Text) : solid (dropIndents text) = solid text := by
  have lineSolid : ∀ line : Text, solid (line.dropWhile isIndent) = solid line :=
    solid_dropWhile fun _ => isWhite_of_isIndent
  calc solid (dropIndents text)
      = (text.splitOn '\n').flatMap solid := by
        simp only [dropIndents, solid_joinLines, List.flatMap_map, lineSolid]
    _ = solid text := by
        rw [← solid_joinLines, joinLines, List.intercalate_splitOn]

/-- The normal form of prose keeps all that is solid. -/
theorem solid_normalProse (text : Text) : solid (normalProse text) = solid text := by
  rw [normalProse, solid_dropIndents, solid_trim]

/-! ### Code -/

theorem solid_dropReturn (line : Text) : solid (dropReturn line) = solid line := by
  unfold dropReturn
  split
  next ended =>
    obtain ⟨front, rfl⟩ := List.getLast?_eq_some_iff.mp ended
    simp [solid, isWhite_carriageReturn]
  next =>
    rfl

/-- The lines of a text hold all that is not white in it. -/
theorem solid_lines (text : Text) : text.lines.flatMap solid = solid text := by
  have lineSolid : ∀ pieces : List Text,
      (pieces.map dropReturn).flatMap solid = pieces.flatMap solid := by
    intro pieces
    simp only [List.flatMap_map, solid_dropReturn]
  -- An empty last piece is no line, so the last piece is taken apart.
  obtain ⟨front, last, cut⟩ :=
    (List.eq_nil_or_concat (text.splitOn '\n')).resolve_left
      (List.splitOn_ne_nil '\n' text)
  rw [List.concat_eq_append] at cut
  have lastSolid : ([last].filter (· ≠ [])).flatMap solid = solid last := by
    by_cases empty : last = []
    · simp [empty]
    · simp [empty]
  calc text.lines.flatMap solid
      = front.flatMap solid ++ solid last := by
        simp only [lines, cut, List.dropLast_concat, List.getLast?_concat,
          Option.toList_some, List.flatMap_append, lineSolid, lastSolid]
    _ = (text.splitOn '\n').flatMap solid := by
        simp [cut]
    _ = solid text := by
        rw [← solid_joinLines, joinLines, List.intercalate_splitOn]

theorem solid_dropBlankLines (lines : List Text) :
    (lines.dropWhile isBlank).flatMap solid = lines.flatMap solid := by
  induction lines with
  | nil =>
      rfl
  | cons line others inductionHypothesis =>
      by_cases blank : isBlank line = true
      · rw [List.dropWhile_cons_of_pos blank, inductionHypothesis,
          List.flatMap_cons, solid_eq_nil_iff.mpr blank, List.nil_append]
      · rw [List.dropWhile_cons_of_neg blank]

/-- No line that is not blank is indented less than all lines together. -/
theorem sharedIndent_le {lines : List Text} {line : Text} (present : line ∈ lines)
    (notBlank : isBlank line ≠ true) : sharedIndent lines ≤ indentWidth line := by
  have considered :
      indentWidth line ∈
        (lines.filter fun line => !isBlank line).map indentWidth := by
    apply List.mem_map_of_mem
    simp [List.mem_filter, present, notBlank]
  unfold sharedIndent
  cases least : ((lines.filter fun line => !isBlank line).map indentWidth).min? with
  | none =>
      exact Nat.zero_le _
  | some width =>
      exact (List.min?_eq_some_iff.mp least).2 _ considered

/-- The front of a line that indents it holds nothing solid. -/
theorem solid_drop {width : Nat} {line : Text} (narrow : width ≤ indentWidth line) :
    solid (line.drop width) = solid line := by
  have white : isBlank (line.take width) = true := by
    rw [isBlank, List.all_eq_true]
    intro c present
    have indents : c ∈ line.takeWhile isIndent := by
      obtain ⟨rest, split⟩ := List.takeWhile_prefix isIndent (l := line)
      rw [← split, List.take_append_of_le_length narrow] at present
      exact List.mem_of_mem_take present
    exact isWhite_of_isIndent (List.mem_takeWhile_imp indents)
  calc solid (line.drop width)
      = solid (line.take width) ++ solid (line.drop width) := by
        rw [solid_eq_nil_iff.mpr white, List.nil_append]
    _ = solid line := by
        rw [← solid_append, List.take_append_drop]

/-- What lines share is white, so that nothing solid is lost with it. -/
theorem solid_outdent {lines : List Text} {line : Text} (present : line ∈ lines) :
    solid (outdent (sharedIndent lines) line) = solid line := by
  by_cases blank : isBlank line = true
  · simp [outdent, blank, solid_eq_nil_iff.mpr blank]
  · simp [outdent, blank, solid_drop (sharedIndent_le present blank)]

/-- The normal form of code keeps all that is solid. -/
theorem solid_normalCode (text : Text) : solid (normalCode text) = solid text := by
  have outdentedSolid : ∀ body : List Text,
      (body.map (outdent (sharedIndent body))).flatMap solid = body.flatMap solid := by
    intro body
    rw [List.flatMap_map]
    exact List.flatMap_congr fun line present => solid_outdent present
  rw [normalCode, solid_trimEnd, solid_joinLines, outdentedSolid,
    solid_dropBlankLines, solid_lines]

end ApiReference.Text
