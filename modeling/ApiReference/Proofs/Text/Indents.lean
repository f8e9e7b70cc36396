import ApiReference.Proofs.Text.Lines

/-! ## Indentation added to lines

Prose is trimmed first and loses its indentation afterwards. The order does not matter,
because only white space is dropped in either step. So spaces and tabs behind a line feed
leave no trace in prose, wherever the line feed stands. -/

namespace ApiReference.Text

/-! ### Dropping indentation in one pass -/

/-- The text without the spaces and tabs that start its lines. Whether the text itself
starts a line is told by `lineStart`. -/
def unindent (lineStart : Bool) : Text → Text
  | [] => []
  | c :: rest =>
    if lineStart && isIndent c then unindent true rest
    else c :: unindent (c = '\n') rest

theorem isIndent_lineFeed : isIndent '\n' = false := by
  decide

theorem unindent_lineFeed (lineStart : Bool) (rest : Text) :
    unindent lineStart ('\n' :: rest) = '\n' :: unindent true rest := by
  simp [unindent, isIndent_lineFeed]

theorem joinLines_dropWhile_splitOn (text : Text) :
    ∀ {first : Text} {others : List Text},
      text.splitOn '\n' = first :: others →
        joinLines (first.dropWhile isIndent :: others.map (·.dropWhile isIndent)) =
            unindent true text ∧
          joinLines (first :: others.map (·.dropWhile isIndent)) =
            unindent false text := by
  -- The first line is told apart, since `unindent` may be within it.
  induction text with
  | nil =>
      intro first others cut
      rw [List.splitOn_nil] at cut
      cases cut
      exact ⟨rfl, rfl⟩
  | cons c rest inductionHypothesis =>
      intro first others cut
      obtain ⟨line, lines, cutRest⟩ :=
        List.exists_cons_of_ne_nil (List.splitOn_ne_nil '\n' rest)
      obtain ⟨fromStart, within⟩ := inductionHypothesis cutRest
      rw [List.splitOn_cons_eq_if_modifyHead, cutRest] at cut
      by_cases breaks : c = '\n'
      · subst breaks
        simp only [beq_self_eq_true, if_true, List.cons.injEq] at cut
        obtain ⟨rfl, rfl⟩ := cut
        have joined :
            joinLines ([] :: (line :: lines).map (·.dropWhile isIndent)) =
              '\n' :: unindent true rest := by
          rw [joinLines_cons (by simp), List.map_cons, fromStart]
          rfl
        rw [unindent_lineFeed, unindent_lineFeed]
        exact ⟨joined, joined⟩
      · simp only [beq_iff_eq, breaks, if_false, List.modifyHead_cons,
          List.cons.injEq] at cut
        obtain ⟨rfl, rfl⟩ := cut
        have kept :
            joinLines ((c :: line) :: lines.map (·.dropWhile isIndent)) =
              c :: unindent false rest := by
          rw [← within]
          exact @joinLines_modifyHead c (line :: lines.map (·.dropWhile isIndent)) (by simp)
        by_cases indents : isIndent c = true
        · rw [List.dropWhile_cons_of_pos indents, fromStart, kept]
          simp [unindent, indents, breaks]
        · rw [List.dropWhile_cons_of_neg indents, kept]
          simp [unindent, indents, breaks]

/-- To drop the indentation line by line is to skip it behind line feeds. -/
theorem dropIndents_eq_unindent (text : Text) : dropIndents text = unindent true text := by
  obtain ⟨first, others, cut⟩ :=
    List.exists_cons_of_ne_nil (List.splitOn_ne_nil '\n' text)
  rw [dropIndents, cut, List.map_cons]
  exact (joinLines_dropWhile_splitOn text cut).1

/-! ### Trimming and dropping indentation -/

theorem isBlank_unindent (text : Text) :
    ∀ lineStart, isBlank (unindent lineStart text) = isBlank text := by
  induction text with
  | nil =>
      intro lineStart
      rfl
  | cons c rest inductionHypothesis =>
      intro lineStart
      by_cases dropped : (lineStart && isIndent c) = true
      · have indents : isIndent c = true := by
          simp only [Bool.and_eq_true] at dropped
          exact dropped.2
        rw [unindent, if_pos dropped, inductionHypothesis]
        simp [isBlank, isWhite_of_isIndent indents]
      · have sameRest := inductionHypothesis (c = '\n')
        rw [unindent, if_neg dropped]
        simp only [isBlank, List.all_cons] at sameRest ⊢
        rw [sameRest]

/-- To trim the start and to skip indentation can be done in either order. -/
theorem trimStart_unindent (text : Text) :
    ∀ lineStart, trimStart (unindent lineStart text) = unindent true (trimStart text) := by
  induction text with
  | nil =>
      intro lineStart
      rfl
  | cons c rest inductionHypothesis =>
      intro lineStart
      by_cases white : isWhite c = true
      · have startDropped : trimStart (c :: rest) = trimStart rest :=
          List.dropWhile_cons_of_pos white
        rw [startDropped, unindent]
        split
        next =>
          exact inductionHypothesis true
        next =>
          rw [← inductionHypothesis (c = '\n')]
          exact List.dropWhile_cons_of_pos white
      · have notIndent : ¬ isIndent c = true := by
          intro indents
          exact white (isWhite_of_isIndent indents)
        have startKept : trimStart (c :: rest) = c :: rest :=
          List.dropWhile_cons_of_neg white
        rw [startKept, unindent, unindent, if_neg (by simp [notIndent]),
          if_neg (by simp [notIndent])]
        exact List.dropWhile_cons_of_neg white

theorem trimEnd_eq_nil_iff {text : Text} : trimEnd text = [] ↔ isBlank text = true := by
  rw [trimEnd, List.reverse_eq_nil_iff, List.dropWhile_eq_nil_iff]
  simp [isBlank]

theorem trimEnd_cons {c : Char} {rest : Text} (notBlank : isBlank (c :: rest) = false) :
    trimEnd (c :: rest) = c :: trimEnd rest := by
  rw [trimEnd, List.reverse_cons, List.dropWhile_append]
  by_cases restBlank : isBlank rest = true
  · have dropped : rest.reverse.dropWhile isWhite = [] := by
      rw [← List.reverse_eq_nil_iff]
      exact trimEnd_eq_nil_iff.mpr restBlank
    have solidStart : isWhite c = false := by
      simp only [isBlank, List.all_cons] at notBlank restBlank
      simpa [restBlank] using notBlank
    simp [dropped, solidStart, trimEnd]
  · have kept : (rest.reverse.dropWhile isWhite).isEmpty = false := by
      rw [← Bool.not_eq_true, List.isEmpty_iff, ← List.reverse_eq_nil_iff]
      exact fun dropped => restBlank (trimEnd_eq_nil_iff.mp dropped)
    simp [kept, trimEnd]

theorem trimEnd_unindent (text : Text) :
    ∀ lineStart, trimEnd (unindent lineStart text) = unindent lineStart (trimEnd text) := by
  induction text with
  | nil =>
      intro lineStart
      rfl
  | cons c rest inductionHypothesis =>
      intro lineStart
      have sameBlank := isBlank_unindent (c :: rest) lineStart
      by_cases blank : isBlank (c :: rest) = true
      · -- Nothing but white space is left, and on either side nothing of it stays.
        rw [trimEnd_eq_nil_iff.mpr blank, unindent]
        exact trimEnd_eq_nil_iff.mpr (sameBlank.trans blank)
      · have notBlank : isBlank (c :: rest) = false := by
          simpa using blank
        rw [trimEnd_cons notBlank]
        by_cases dropped : (lineStart && isIndent c) = true
        · rw [unindent, unindent, if_pos dropped, if_pos dropped, inductionHypothesis]
        · have stillSolid : isBlank (c :: unindent (c = '\n') rest) = false := by
            rw [unindent, if_neg dropped] at sameBlank
            exact sameBlank.trans notBlank
          rw [unindent, unindent, if_neg dropped, if_neg dropped, trimEnd_cons stillSolid,
            inductionHypothesis]

/-- Prose may be trimmed after its indentation is skipped. -/
theorem normalProse_eq_trim_unindent (lineStart : Bool) (text : Text) :
    normalProse text = trim (unindent lineStart text) := by
  rw [normalProse, dropIndents_eq_unindent, trim, trim, trimStart_unindent,
    trimEnd_unindent]

/-! ### Added indentation -/

inductive IndentAdded : Text → Text → Prop
  | behind (before : Text) {indent : Text} (after : Text) :
      (∀ c ∈ indent, isIndent c = true) →
      IndentAdded (before ++ '\n' :: after) (before ++ '\n' :: (indent ++ after))

theorem unindent_indent {indent : Text} (indents : ∀ c ∈ indent, isIndent c = true)
    (after : Text) : unindent true (indent ++ after) = unindent true after := by
  induction indent with
  | nil =>
      rfl
  | cons c rest inductionHypothesis =>
      have first : isIndent c = true := indents c List.mem_cons_self
      have later := inductionHypothesis fun other present =>
        indents other (List.mem_cons_of_mem c present)
      simp only [List.cons_append, unindent, first, Bool.and_self, if_true]
      exact later

/-- An indentation more is skipped with the rest. -/
theorem unindent_of_indentAdded {old new : Text} (added : IndentAdded old new) :
    ∀ lineStart, unindent lineStart old = unindent lineStart new := by
  cases added with
  | @behind before indent after indents =>
      induction before with
      | nil =>
          intro lineStart
          rw [List.nil_append, List.nil_append, unindent_lineFeed, unindent_lineFeed,
            unindent_indent indents]
      | cons c rest inductionHypothesis =>
          intro lineStart
          simp only [List.cons_append, unindent, inductionHypothesis]

/-- Prose looks the same however its lines are indented. -/
theorem normalProse_of_indentAdded {old new : Text} (added : IndentAdded old new) :
    normalProse old = normalProse new := by
  rw [normalProse_eq_trim_unindent true old, normalProse_eq_trim_unindent true new,
    unindent_of_indentAdded added]

theorem isBlank_of_indentAdded {old new : Text} (added : IndentAdded old new) :
    isBlank old = isBlank new := by
  rw [← isBlank_unindent old true, ← isBlank_unindent new true,
    unindent_of_indentAdded added]

theorem IndentAdded.around {old new : Text} (added : IndentAdded old new)
    (before after : Text) : IndentAdded (before ++ old ++ after) (before ++ new ++ after) := by
  cases added with
  | behind start rest indents =>
      have wider := IndentAdded.behind (before ++ start) (rest ++ after) indents
      simpa using wider

end ApiReference.Text
