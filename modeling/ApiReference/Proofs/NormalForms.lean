import ApiReference.Proofs.Sections
import ApiReference.Proofs.Text.CodeLines

/-! ## Normal forms

The sections of an export hold their texts in normal form. Bringing such a text into
normal form once more changes nothing, so a section that is taken apart and made anew is
the same section. -/

namespace ApiReference

namespace Text

/-! ### Prose -/

/-- Prose with nothing white at its ends and with no indentation behind a line feed. -/
structure IsNormalProse (text : Text) : Prop where
  trimmed : Trimmed text
  flush : ∀ before c after, text = before ++ '\n' :: c :: after → isIndent c = false

theorem unindent_append_lineFeed (before after : Text) :
    ∀ lineStart, unindent lineStart (before ++ '\n' :: after) =
      unindent lineStart before ++ '\n' :: unindent true after := by
  induction before with
  | nil =>
      intro lineStart
      exact unindent_lineFeed lineStart after
  | cons c rest inductionHypothesis =>
      intro lineStart
      rw [List.cons_append, unindent, unindent]
      split
      · exact inductionHypothesis true
      · rw [inductionHypothesis, List.cons_append]

theorem length_unindent_le (text : Text) :
    ∀ lineStart, (unindent lineStart text).length ≤ text.length := by
  induction text with
  | nil =>
      intro lineStart
      exact Nat.le_refl 0
  | cons c rest inductionHypothesis =>
      intro lineStart
      rw [unindent]
      split
      · have shorter := inductionHypothesis true
        rw [List.length_cons]
        omega
      · have shorter := inductionHypothesis (c = '\n')
        rw [List.length_cons, List.length_cons]
        omega

theorem unindent_unindent (text : Text) :
    ∀ lineStart, unindent lineStart (unindent lineStart text) = unindent lineStart text := by
  induction text with
  | nil =>
      intro lineStart
      rfl
  | cons c rest inductionHypothesis =>
      intro lineStart
      by_cases dropped : (lineStart && isIndent c) = true
      · have atStart : lineStart = true := (Bool.and_eq_true_iff.mp dropped).1
        rw [unindent, if_pos dropped, atStart]
        exact inductionHypothesis true
      · rw [unindent, if_neg dropped, unindent, if_neg dropped, inductionHypothesis]

theorem normalProse_eq_unindent (text : Text) : normalProse text = unindent true text.trim := by
  rw [normalProse, dropIndents_eq_unindent]

theorem unindent_normalProse (text : Text) :
    unindent true (normalProse text) = normalProse text := by
  rw [normalProse_eq_unindent, unindent_unindent]

theorem normalProse_normalProse (text : Text) :
    normalProse (normalProse text) = normalProse text := by
  rw [normalProse_eq_unindent (normalProse text), trim_eq_self (trimmed_normalProse text),
    unindent_normalProse]

theorem isNormalProse_normalProse (text : Text) : IsNormalProse (normalProse text) := by
  refine ⟨trimmed_normalProse text, ?_⟩
  intro before c after split
  cases indents : isIndent c with
  | false =>
      rfl
  | true =>
      -- The indentation would be dropped, and the text would become shorter.
      have same := unindent_normalProse text
      rw [split, unindent_append_lineFeed, unindent, indents, Bool.and_true, if_pos rfl] at same
      have lengths := congrArg List.length same
      have beforeLength := length_unindent_le before true
      have afterLength := length_unindent_le after true
      simp only [List.length_append, List.length_cons] at lengths
      omega

/-! ### Code -/

/-- Code that is not indented as a whole, with nothing white at its end, no blank line at
its start, and nothing in its blank lines. -/
structure IsNormalCode (text : Text) : Prop where
  start : ∀ line, text.lines.head? = some line → isBlank line = false
  finish : ∀ c, text.getLast? = some c → isWhite c = false
  empty_lines : ∀ line ∈ text.lines, isBlank line = true → line = []
  flush : ∃ line ∈ text.lines, isBlank line = false ∧ IsFlush line

/-- A line feed with two carriage returns in front of it, only one of which belongs to
the line end. -/
def doubledReturn : Text :=
  ['\r', '\r', '\n']

theorem doubledReturn_infix_of_dropReturn {line : Text}
    (last : (dropReturn line).getLast? = some '\r') (rest : Text) :
    doubledReturn <:+: line ++ '\n' :: rest := by
  rw [dropReturn] at last
  split at last
  next ended =>
    obtain ⟨shorter, same⟩ := List.getLast?_eq_some_iff.mp ended
    rw [same, List.dropLast_concat] at last
    obtain ⟨front, sameShorter⟩ := List.getLast?_eq_some_iff.mp last
    rw [same, sameShorter]
    refine ⟨front, rest, ?_⟩
    simp [doubledReturn]
  next notEnded =>
    exact absurd last notEnded

/-- Only the last line of a text may end in a carriage return, unless these are
doubled. -/
theorem getLast?_ne_return_of_mem_dropLast_lines {text line : Text}
    (apart : ¬ doubledReturn <:+: text) (isLine : line ∈ text.lines.dropLast) :
    line.getLast? ≠ some '\r' := by
  induction text using lineInduction with
  | last whole unbroken =>
      rw [lines_unbroken unbroken] at isLine
      split at isLine <;> cases isLine
  | step first rest unbroken inductionHypothesis =>
      rw [lines_append_lineFeed unbroken] at isLine
      have restApart : ¬ doubledReturn <:+: rest := by
        intro doubled
        apply apart
        apply doubled.trans
        exact ((List.suffix_cons '\n' rest).trans (List.suffix_append first _)).isInfix
      by_cases none : rest.lines = []
      · rw [none] at isLine
        cases isLine
      · rw [List.dropLast_cons_of_ne_nil none] at isLine
        rcases List.mem_cons.mp isLine with isFirst | later
        · intro last
          rw [isFirst] at last
          exact apart (doubledReturn_infix_of_dropReturn last rest)
        · exact inductionHypothesis restApart later

theorem getLast?_outdent {width : Nat} {line : Text} {c : Char}
    (last : (outdent width line).getLast? = some c) : line.getLast? = some c := by
  rw [outdent] at last
  split at last
  · cases last
  · rw [List.getLast?_drop] at last
    split at last
    · cases last
    · exact last

section Body

variable {text : Text} {front : List Text} {last : Text}

/-- No line of a body but the last ends in a carriage return, if none was doubled. -/
theorem getLast?_ne_return_of_mem_front (apart : ¬ doubledReturn <:+: text)
    (isBody : IsBody text.lines (front ++ [last])) {line : Text} (inFront : line ∈ front) :
    line.getLast? ≠ some '\r' := by
  obtain ⟨above, below, split, _⟩ := isBody.within
  apply getLast?_ne_return_of_mem_dropLast_lines apart
  rw [split, List.append_assoc, List.append_assoc, ← List.append_assoc above,
    List.dropLast_append_of_ne_nil (by simp)]
  exact List.mem_append_left _ (List.mem_append_right above inFront)

theorem isBlank_last_codeLines (isBody : IsBody text.lines (front ++ [last])) :
    isBlank (trimEnd (outdent (sharedIndent (front ++ [last])) last)) = false := by
  rw [isBlank_trimEnd, isBlank_outdent (by simp)]
  exact isBody.finish last (by simp)

theorem lines_normalCode (apart : ¬ doubledReturn <:+: text)
    (isBody : IsBody text.lines (front ++ [last])) :
    (normalCode text).lines = codeLines front last := by
  rw [normalCode_eq_joinLines isBody]
  apply lines_joinLines (lineFeed_not_mem_of_mem_codeLines isBody)
  · intro line outdented ended
    obtain ⟨whole, inFront, same⟩ := List.mem_map.mp outdented
    rw [← same] at ended
    exact getLast?_ne_return_of_mem_front apart isBody inFront (getLast?_outdent ended)
  · intro empty
    have notBlank := isBlank_last_codeLines isBody
    rw [empty] at notBlank
    cases notBlank

theorem isNormalCode_of_isBody (apart : ¬ doubledReturn <:+: text)
    (isBody : IsBody text.lines (front ++ [last])) : IsNormalCode (normalCode text) := by
  have solidLast := isBlank_last_codeLines isBody
  have cut := lines_normalCode apart isBody
  constructor
  · intro line first
    rw [cut] at first
    cases front with
    | nil =>
        cases first
        exact solidLast
    | cons whole others =>
        cases first
        rw [isBlank_outdent (by simp)]
        exact isBody.start whole rfl
  · intro c ends
    exact getLast?_trimEnd ends
  · intro piece present blank
    rw [cut] at present
    obtain ⟨line, inBody, same | ⟨isLast, same⟩⟩ := mem_codeLines present
    · rw [same, isBlank_outdent inBody] at blank
      rw [same, outdent, if_pos blank]
    · rw [same, isLast, solidLast] at blank
      cases blank
  · rw [cut]
    exact exists_isFlush_codeLines isBody

end Body

theorem indentWidth_of_isFlush {line : Text} (flush : IsFlush line) : indentWidth line = 0 := by
  cases line with
  | nil =>
      rfl
  | cons c rest =>
      simp [indentWidth, flush c rfl]

/-- Code in normal form stays as it is, if its lines make it up again. -/
theorem IsNormalCode.normalCode_eq {text : Text} (normal : IsNormalCode text)
    (kept : joinLines text.lines = text) : normalCode text = text := by
  obtain ⟨line, present, notBlank, flush⟩ := normal.flush
  obtain ⟨first, others, cut⟩ := List.exists_cons_of_ne_nil (List.ne_nil_of_mem present)
  have startKept : text.lines.dropWhile isBlank = text.lines := by
    have solidFirst := normal.start first (by rw [cut]; rfl)
    rw [cut, List.dropWhile_cons_of_neg (by simp [solidFirst])]
  have notIndented : sharedIndent text.lines = 0 := by
    apply sharedIndent_eq
    · exact ⟨line, present, notBlank, indentWidth_of_isFlush flush⟩
    · intro other _ _
      exact Nat.zero_le _
  have linesKept : text.lines.map (outdent 0) = text.lines := by
    nth_rewrite 2 [← List.map_id text.lines]
    apply List.map_congr_left
    intro other isLine
    rw [outdent, List.drop_zero, id]
    split
    next blank =>
      exact (normal.empty_lines other isLine blank).symm
    next =>
      rfl
  rw [normalCode, startKept, notIndented, linesKept, kept]
  exact trimEnd_eq_self normal.finish

/-- Code comes out in normal form, unless nothing is left of it. -/
theorem isNormalCode_normalCode {text : Text} (apart : ¬ doubledReturn <:+: text)
    (present : normalCode text ≠ []) : IsNormalCode (normalCode text) := by
  rcases blank_or_isBody text.lines with blank | ⟨front, last, isBody⟩
  · exact absurd (normalCode_of_blank blank) present
  · exact isNormalCode_of_isBody apart isBody

theorem normalCode_normalCode {text : Text} (apart : ¬ doubledReturn <:+: text) :
    normalCode (normalCode text) = normalCode text := by
  rcases blank_or_isBody text.lines with blank | ⟨front, last, isBody⟩
  · rw [normalCode_of_blank blank]
    rfl
  · apply (isNormalCode_of_isBody apart isBody).normalCode_eq
    rw [lines_normalCode apart isBody, normalCode_eq_joinLines isBody]

end Text

open Text

/-! ### Sections taken apart -/

theorem Passage.normal_normal {role : Passage} {text : Text}
    (apart : role = code → ¬ doubledReturn <:+: text) :
    role.normal (role.normal text) = role.normal text := by
  by_cases isCode : role = code
  · rw [isCode]
    exact normalCode_normalCode (apart isCode)
  · rw [normal_eq_normalProse isCode, normal_eq_normalProse isCode, normalProse_normalProse]

namespace Section

def tag : Section → Text
  | passage role _ => role.tag
  | described role _ _ => role.tag
  | seeAlso _ => seeAlsoTag
  | other tag _ => tag

def firstValue : Section → Option Text
  | passage _ _ => none
  | described _ subject _ => some subject
  | seeAlso target => some target
  | other _ _ => none

variable {tag : Text}

theorem ofTag_of_passage {role : Passage} (found : Passage.ofTag? tag = some role)
    (firstValue : Option Text) (text : Text) :
    ofTag tag firstValue text = passage role (role.normal text) := by
  unfold ofTag
  rw [found]

theorem ofTag_of_subject {role : Subject} (noPassage : Passage.ofTag? tag = none)
    (found : Subject.ofTag? tag = some role) (value text : Text) :
    ofTag tag (some value) text = described role value text.normalProse := by
  unfold ofTag
  rw [noPassage, found]

theorem ofTag_without_value (noPassage : Passage.ofTag? tag = none) (text : Text) :
    ofTag tag none text = other tag text.normalProse := by
  unfold ofTag
  rw [noPassage]

theorem ofTag_of_other (noPassage : Passage.ofTag? tag = none)
    (noSubject : Subject.ofTag? tag = none) (value text : Text) :
    ofTag tag (some value) text =
      if tag = seeAlsoTag then seeAlso value else other tag text.normalProse := by
  unfold ofTag
  rw [noPassage, noSubject]

theorem eq_normal_of_ofTag {firstValue : Option Text} {role : Passage} {text content : Text}
    (made : ofTag tag firstValue text = passage role content) :
    role.tag = tag ∧ content = role.normal text := by
  cases isPassage : Passage.ofTag? tag with
  | some found =>
      rw [ofTag_of_passage isPassage] at made
      cases made
      exact ⟨Passage.tag_of_ofTag? isPassage, rfl⟩
  | none =>
      cases firstValue with
      | none =>
          rw [ofTag_without_value isPassage] at made
          cases made
      | some value =>
          cases isSubject : Subject.ofTag? tag with
          | some found =>
              rw [ofTag_of_subject isPassage isSubject] at made
              cases made
          | none =>
              rw [ofTag_of_other isPassage isSubject] at made
              split at made <;> cases made

/-- A section in normal form, which is made anew of the parts it is taken apart into. -/
structure IsNormal (part : Section) : Prop where
  prose : (∀ code, part ≠ passage .code code) → IsNormalProse part.text
  code : ∀ code, part = passage .code code → code ≠ [] → IsNormalCode code
  remade : ofTag part.tag part.firstValue part.text = part

theorem isNormalProse_text_ofTag {firstValue : Option Text} {text : Text}
    (notCode : ∀ code, ofTag tag firstValue text ≠ passage .code code) :
    IsNormalProse (ofTag tag firstValue text).text := by
  rcases ofTag_cases tag firstValue text with
    ⟨role, made⟩ | ⟨role, value, made⟩ | ⟨value, _, _, made⟩ | made
  · have roleNotCode : role ≠ .code := by
      intro isCode
      rw [isCode] at made
      exact notCode _ made
    rw [made, Passage.normal_eq_normalProse roleNotCode]
    exact isNormalProse_normalProse text
  · rw [made]
    exact isNormalProse_normalProse text
  · rw [made]
    exact isNormalProse_normalProse []
  · rw [made]
    exact isNormalProse_normalProse text

/-- A section is made anew of its own tag, first value and text. -/
theorem ofTag_parts {firstValue : Option Text} {text : Text}
    (apart : tag = Passage.code.tag → ¬ doubledReturn <:+: text) :
    ofTag (ofTag tag firstValue text).tag (ofTag tag firstValue text).firstValue
        (ofTag tag firstValue text).text =
      ofTag tag firstValue text := by
  cases isPassage : Passage.ofTag? tag with
  | some role =>
      have stillApart : role = .code → ¬ doubledReturn <:+: text := by
        intro isCode
        rw [isCode] at isPassage
        exact apart (Passage.tag_of_ofTag? isPassage).symm
      rw [ofTag_of_passage isPassage]
      change ofTag role.tag none (role.normal text) = _
      rw [ofTag_of_passage (Passage.ofTag?_tag role), Passage.normal_normal stillApart]
  | none =>
      have otherRemade :
          ofTag tag none text.normalProse = other tag text.normalProse := by
        rw [ofTag_without_value isPassage, normalProse_normalProse]
      cases firstValue with
      | none =>
          rw [ofTag_without_value isPassage]
          exact otherRemade
      | some value =>
          cases isSubject : Subject.ofTag? tag with
          | some role =>
              have sameTag := Subject.tag_of_ofTag? isSubject
              rw [ofTag_of_subject isPassage isSubject]
              change ofTag role.tag (some value) text.normalProse = _
              rw [sameTag, ofTag_of_subject isPassage isSubject, normalProse_normalProse]
          | none =>
              rw [ofTag_of_other isPassage isSubject]
              by_cases pointer : tag = seeAlsoTag
              · rw [if_pos pointer]
                rfl
              · rw [if_neg pointer]
                exact otherRemade

/-- The text of a section is in normal form, and the section is made anew when it is
taken apart into its tag, the value it needs and this text. Code must not hold doubled
carriage returns, one of which would be taken for a part of the line end the next
time. -/
theorem isNormal_ofTag (tag : Text) (firstValue : Option Text) (text : Text)
    (apart : tag = Passage.code.tag → ¬ doubledReturn <:+: text) :
    (ofTag tag firstValue text).IsNormal := by
  refine ⟨isNormalProse_text_ofTag, ?_, ofTag_parts apart⟩
  intro code made present
  obtain ⟨sameTag, same⟩ := eq_normal_of_ofTag made
  rw [same] at present ⊢
  exact isNormalCode_normalCode (apart sameTag.symm) present

theorem isNormal_ofTag_code :
    (Passage.code.tag = Passage.code.tag →
        ¬ doubledReturn <:+: "  a\r\n    b\r\n \r\n  c \r".toList) ∧
      (ofTag Passage.code.tag none "  a\r\n    b\r\n \r\n  c \r".toList).IsNormal := by
  have apart : ¬ doubledReturn <:+: "  a\r\n    b\r\n \r\n  c \r".toList := by
    decide +kernel
  exact ⟨fun _ => apart, isNormal_ofTag _ _ _ fun _ => apart⟩

-- With doubled carriage returns, code is changed the second time, too.
example :
    normalCode "a\r\r\nb".toList = "a\r\nb".toList ∧
      normalCode "a\r\nb".toList = "a\nb".toList := by
  decide +kernel

end Section

end ApiReference
