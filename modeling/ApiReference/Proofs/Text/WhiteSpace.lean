import ApiReference.Text.WhiteSpace
import Mathlib.Data.List.DropRight

/-! ## Trimming and what it keeps

Trimming takes white space away and nothing else. What is left of a text without
all its white space is its solid part, which survives any change of layout. -/

namespace ApiReference.Text

/-! ### Trimmed texts -/

/-- A text with nothing white at its start or at its end. -/
structure Trimmed (text : Text) : Prop where
  start : ∀ c, text.head? = some c → isWhite c = false
  finish : ∀ c, text.getLast? = some c → isWhite c = false

theorem trimStart_eq_self {text : Text}
    (start : ∀ c, text.head? = some c → isWhite c = false) :
    trimStart text = text := by
  cases text with
  | nil =>
      rfl
  | cons c rest =>
      have solidStart : isWhite c = false := start c rfl
      simp [trimStart, solidStart]

theorem trimEnd_concat {c : Char} (solidEnd : isWhite c = false) (text : Text) :
    trimEnd (text ++ [c]) = text ++ [c] := by
  simp [trimEnd, solidEnd]

theorem trimEnd_eq_self {text : Text}
    (finish : ∀ c, text.getLast? = some c → isWhite c = false) :
    trimEnd text = text := by
  rcases List.eq_nil_or_concat text with rfl | ⟨front, c, rfl⟩
  · rfl
  · rw [List.concat_eq_append] at finish ⊢
    exact trimEnd_concat (finish c (by simp)) front

theorem head?_trimStart {text : Text} {c : Char}
    (first : (trimStart text).head? = some c) : isWhite c = false := by
  have solidStart := List.head?_dropWhile_not isWhite text
  rw [trimStart] at first
  rw [first] at solidStart
  exact solidStart

theorem getLast?_trimEnd {text : Text} {c : Char}
    (last : (trimEnd text).getLast? = some c) : isWhite c = false := by
  rw [trimEnd, List.getLast?_reverse] at last
  exact head?_trimStart last

theorem trimEnd_prefix (text : Text) : trimEnd text <+: text :=
  List.rdropWhile_prefix isWhite text

theorem trimmed_trim (text : Text) : Trimmed (trim text) := by
  constructor
  · intro c first
    obtain ⟨back, split⟩ := trimEnd_prefix (trimStart text)
    apply @head?_trimStart text
    rw [← split, List.head?_append]
    change (trim text).head?.or _ = some c
    rw [first]
    rfl
  · intro c last
    exact getLast?_trimEnd last

theorem trim_eq_self {text : Text} (trimmed : Trimmed text) : trim text = text := by
  rw [trim, trimStart_eq_self trimmed.start, trimEnd_eq_self trimmed.finish]

theorem trimmed_between {first last : Char} (solidFirst : isWhite first = false)
    (solidLast : isWhite last = false) (text : Text) :
    Trimmed (first :: (text ++ [last])) := by
  constructor
  · intro c isFirst
    cases isFirst
    exact solidFirst
  · intro c isLast
    rw [← List.cons_append, List.getLast?_concat] at isLast
    cases isLast
    exact solidLast

/-! ### The solid part of a text -/

/-- The characters of a text that are not white. -/
def solid (text : Text) : Text :=
  text.filter fun c => !isWhite c

@[simp]
theorem solid_nil : solid [] = [] :=
  rfl

@[simp]
theorem solid_append (first second : Text) :
    solid (first ++ second) = solid first ++ solid second :=
  List.filter_append first second

theorem solid_eq_nil_iff {text : Text} : solid text = [] ↔ isBlank text = true := by
  simp [solid, isBlank]

/-- Dropping white characters from the start of a text keeps its solid part. -/
theorem solid_dropWhile {dropped : Char → Bool}
    (white : ∀ c, dropped c = true → isWhite c = true) (text : Text) :
    solid (text.dropWhile dropped) = solid text := by
  induction text with
  | nil =>
      rfl
  | cons c rest inductionHypothesis =>
      by_cases isDropped : dropped c = true
      · have isWhiteFirst : isWhite c = true := white c isDropped
        rw [List.dropWhile_cons_of_pos isDropped, inductionHypothesis]
        simp [solid, isWhiteFirst]
      · rw [List.dropWhile_cons_of_neg isDropped]

theorem solid_reverse (text : Text) : solid text.reverse = (solid text).reverse :=
  List.filter_reverse

theorem solid_trimStart (text : Text) : solid (trimStart text) = solid text :=
  solid_dropWhile (fun _ isWhiteChar => isWhiteChar) text

theorem solid_trimEnd (text : Text) : solid (trimEnd text) = solid text := by
  rw [trimEnd, solid_reverse, solid_dropWhile (fun _ isWhiteChar => isWhiteChar),
    solid_reverse, List.reverse_reverse]

theorem solid_trim (text : Text) : solid (trim text) = solid text := by
  rw [trim, solid_trimEnd, solid_trimStart]

/-! ### Blank texts -/

@[simp]
theorem isBlank_append (first second : Text) :
    isBlank (first ++ second) = (isBlank first && isBlank second) :=
  List.all_append

/-- Whether a text is blank is told by its solid part. -/
theorem isBlank_eq_of_solid_eq {text other : Text} (same : solid text = solid other) :
    isBlank text = isBlank other := by
  rw [Bool.eq_iff_iff, ← solid_eq_nil_iff, same, solid_eq_nil_iff]

@[simp]
theorem isBlank_trim (text : Text) : isBlank (trim text) = isBlank text :=
  isBlank_eq_of_solid_eq (solid_trim text)

@[simp]
theorem isBlank_trimEnd (text : Text) : isBlank (trimEnd text) = isBlank text :=
  isBlank_eq_of_solid_eq (solid_trimEnd text)

end ApiReference.Text
