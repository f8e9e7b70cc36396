import Mathlib.Data.List.TakeWhile
import ApiReference.File.Path

/-! ## Paths with another extension

A path whose last name has an extension already is the same with that extension. Any
other path gets another last name, or one that names no file. -/

namespace ApiReference.Path

/-! ### Texts cut behind the last of a character -/

/-- The text is cut behind the last `mark` in it, or in front of it all. -/
structure CutBehind (mark : Char) (text front last : Text) : Prop where
  whole : front ++ last = text
  absent : mark ∉ last
  marked : front = [] ∨ front.getLast? = some mark

theorem cutBehind_reverse (mark : Char) (text : Text) :
    CutBehind mark text (text.reverse.dropWhile (· ≠ mark)).reverse
      (text.reverse.takeWhile (· ≠ mark)).reverse := by
  constructor
  · rw [← List.reverse_append, List.takeWhile_append_dropWhile, List.reverse_reverse]
  · intro present
    have other := List.mem_takeWhile_imp (List.mem_reverse.mp present)
    simp at other
  · cases rest : text.reverse.dropWhile (· ≠ mark) with
    | nil =>
        exact Or.inl rfl
    | cons c others =>
        have stopped := List.head?_dropWhile_not (· ≠ mark) text.reverse
        rw [rest] at stopped
        right
        simpa using stopped

namespace CutBehind

variable {mark : Char} {text front last otherFront otherLast : Text}

/-- Nothing stands between the places of two cuts, since it would end in the mark. -/
theorem eq_of_append (cut : CutBehind mark text front last)
    (other : CutBehind mark text otherFront otherLast) {between : Text}
    (longer : otherFront = front ++ between) (shorter : last = between ++ otherLast) :
    between = [] := by
  rcases List.eq_nil_or_concat between with empty | ⟨start, finish, ending⟩
  · exact empty
  · rw [List.concat_eq_append] at ending
    have isMark : finish = mark := by
      rcases other.marked with none | marked
      · simp [longer, ending] at none
      · simpa [longer, ending] using marked
    have present : mark ∈ last := by
      simp [shorter, ending, isMark]
    exact absurd present cut.absent

/-- A text can be cut behind the last mark in one way. -/
theorem unique (cut : CutBehind mark text front last)
    (other : CutBehind mark text otherFront otherLast) :
    front = otherFront ∧ last = otherLast := by
  have same : front ++ last = otherFront ++ otherLast :=
    cut.whole.trans other.whole.symm
  rcases List.append_eq_append_iff.mp same with
    ⟨between, longer, shorter⟩ | ⟨between, longer, shorter⟩
  · have empty := cut.eq_of_append other longer shorter
    subst empty
    exact ⟨by simpa using longer.symm, by simpa using shorter⟩
  · have empty := other.eq_of_append cut longer shorter
    subst empty
    exact ⟨by simpa using longer, by simpa using shorter.symm⟩

end CutBehind

/-! ### Last names -/

theorem cutBehind_lastName (path : Text) :
    CutBehind '/' path (front path) (lastName path) :=
  cutBehind_reverse '/' path

theorem front_append_lastName (path : Text) : front path ++ lastName path = path :=
  (cutBehind_lastName path).whole

theorem lastName_front_append {name : Text} (single : '/' ∉ name) (path : Text) :
    lastName (front path ++ name) = name := by
  have cut : CutBehind '/' (front path ++ name) (front path) name :=
    ⟨rfl, single, (cutBehind_lastName path).marked⟩
  exact ((cutBehind_lastName _).unique cut).2

theorem dropTailBackwards_eq_self {path : Text} (noSlash : path.head? ≠ some '/')
    (noDot : ∀ before, path ≠ '.' :: '/' :: before) :
    dropTailBackwards path = path := by
  unfold dropTailBackwards
  split
  · exact absurd rfl noSlash
  · exact absurd rfl (noDot _)
  · rfl

/-- A path that ends in a name has no tail to drop. -/
theorem dropTail_eq_self {path : Text} (named : lastName path ≠ [])
    (notDot : lastName path ≠ ['.']) : dropTail path = path := by
  obtain ⟨c, others, backwards⟩ :=
    List.exists_cons_of_ne_nil (List.reverse_ne_nil_iff.mpr named)
  have noneSlash : ∀ d ∈ c :: others, d ≠ '/' := by
    rintro d present rfl
    rw [← backwards, List.mem_reverse] at present
    exact (cutBehind_lastName path).absent present
  have whole : path.reverse = c :: (others ++ (front path).reverse) := by
    rw [← List.cons_append, ← backwards, ← List.reverse_append, front_append_lastName]
  have kept : dropTailBackwards path.reverse = path.reverse := by
    apply dropTailBackwards_eq_self
    · simpa [whole] using noneSlash c List.mem_cons_self
    · intro before dotted
      rw [whole, List.cons.injEq] at dotted
      obtain ⟨isDot, rest⟩ := dotted
      cases others with
      | nil =>
          apply notDot
          rw [← List.reverse_reverse (lastName path), backwards, isDot]
          rfl
      | cons d others =>
          injection rest with isSlash
          exact noneSlash d (by simp) isSlash
  rw [dropTail, kept, List.reverse_reverse]

/-! ### Extensions -/

/-- The last name of the path is a stem with the extension behind its last dot. A lone
dot is no stem. -/
def HasExtension (extension path : Text) : Prop :=
  ∃ stem, stem ≠ [] ∧ stem ≠ ['.'] ∧ lastName path = stem ++ '.' :: extension

theorem cutBehind_dot {stem extension : Text} (dotFree : '.' ∉ extension) :
    CutBehind '.' (stem ++ '.' :: extension) (stem ++ ['.']) extension :=
  ⟨by simp, dotFree, by simp⟩

theorem extension_unique {stem old otherStem other : Text} (dotFree : '.' ∉ old)
    (otherDotFree : '.' ∉ other) (same : stem ++ '.' :: old = otherStem ++ '.' :: other) :
    stem = otherStem ∧ old = other := by
  have cut := @cutBehind_dot stem old dotFree
  rw [same] at cut
  obtain ⟨sameFront, sameLast⟩ := cut.unique (cutBehind_dot otherDotFree)
  exact ⟨List.append_cancel_right sameFront, sameLast⟩

/-- A name has a stem and an extension, or it has no dot behind its first character. -/
theorem splitExtension_cases (name : Text) :
    (∃ stem extension,
        name = stem ++ '.' :: extension ∧ stem ≠ [] ∧ '.' ∉ extension ∧
          splitExtension name = (stem, some extension)) ∨
      (splitExtension name = (name, none) ∧
        ∀ stem extension,
          name = stem ++ '.' :: extension → '.' ∉ extension → stem = []) := by
  have cut := cutBehind_reverse '.' name
  by_cases dotless :
      ((name.reverse.dropWhile (· ≠ '.')).reverse.dropLast).isEmpty = true
  · right
    refine ⟨if_pos dotless, ?_⟩
    intro stem extension split dotFree
    have otherCut := @cutBehind_dot stem extension dotFree
    rw [← split] at otherCut
    rw [(cut.unique otherCut).1, List.dropLast_concat, List.isEmpty_iff] at dotless
    exact dotless
  · left
    refine ⟨_, _, ?_, ?_, cut.absent, if_neg dotless⟩
    · rcases cut.marked with none | marked
      · rw [none] at dotless
        exact absurd rfl dotless
      · obtain ⟨stem, ending⟩ := List.getLast?_eq_some_iff.mp marked
        have whole := cut.whole
        rw [ending] at whole ⊢
        simpa using whole.symm
    · simpa using dotless

section WithExtension

variable {extension path : Text}

/-- The path with the extension ends in another name, or in one that names no file. -/
def IsRenamed (extension path : Text) : Prop :=
  isRelative (lastName (withExtension extension path)) = true ∨
    lastName (withExtension extension path) ≠ lastName path

/-- An extension is added to a name that has none. -/
theorem isRenamed_of_dotless (dotFree : '.' ∉ extension) (single : '/' ∉ extension)
    (named : lastName path ≠ []) (proper : isRelative (lastName path) = false)
    (plain : dropTail path = path)
    (cut : splitExtension (lastName path) = (lastName path, none))
    (dotless : ∀ stem extension,
      lastName path = stem ++ '.' :: extension → '.' ∉ extension → stem = []) :
    ¬ HasExtension extension path ∧ IsRenamed extension path := by
  have longer : withExtension extension path =
      front path ++ (lastName path ++ '.' :: extension) := by
    simp [withExtension, plain, named, proper, cut]
  have noSlash := (cutBehind_lastName path).absent
  constructor
  · rintro ⟨stem, present, _, split⟩
    exact present (dotless stem extension split dotFree)
  · right
    rw [longer, lastName_front_append (by simp [noSlash, single])]
    simp

/-- An extension takes the place of the one behind the stem. -/
theorem withExtension_of_stem {stem old : Text} (dotFree : '.' ∉ extension)
    (single : '/' ∉ extension) (proper : isRelative (lastName path) = false)
    (plain : dropTail path = path) (split : lastName path = stem ++ '.' :: old)
    (present : stem ≠ []) (oldDotFree : '.' ∉ old)
    (cut : splitExtension (lastName path) = (stem, some old)) :
    (HasExtension extension path ∧ withExtension extension path = path) ∨
      (¬ HasExtension extension path ∧ IsRenamed extension path) := by
  have named : lastName path ≠ [] := by
    simp [split]
  have only : ∀ other, lastName path = other ++ '.' :: extension →
      other = stem ∧ extension = old := by
    intro other same
    exact extension_unique dotFree oldDotFree (same.symm.trans split)
  by_cases lone : stem = ['.']
  · have dots : withExtension extension path = front path ++ ['.', '.'] := by
      simp [withExtension, hasTail, plain, named, proper, cut, lone]
    right
    constructor
    · rintro ⟨other, _, notLone, same⟩
      exact notLone ((only other same).1.trans lone)
    · left
      rw [dots, lastName_front_append (by decide)]
      rfl
  · have renamed : withExtension extension path =
        front path ++ (stem ++ '.' :: extension) := by
      simp [withExtension, plain, named, proper, cut, lone]
    by_cases same : extension = old
    · left
      subst same
      rw [renamed, ← split, front_append_lastName]
      exact ⟨⟨stem, present, lone, split⟩, rfl⟩
    · have noSlash := (cutBehind_lastName path).absent
      have stemSingle : '/' ∉ stem := by
        intro slash
        simp [split, slash] at noSlash
      right
      constructor
      · rintro ⟨other, _, _, split⟩
        exact same (only other split).2
      · right
        rw [renamed, lastName_front_append (by simp [stemSingle, single])]
        intro sameName
        exact same (only stem sameName.symm).2

/-- Another extension leaves a path as it is, if that has the extension already. If not,
the last name becomes another one, or one that names no file. -/
theorem withExtension_cases (dotFree : '.' ∉ extension) (single : '/' ∉ extension)
    (named : lastName path ≠ []) (proper : isRelative (lastName path) = false) :
    (HasExtension extension path ∧ withExtension extension path = path) ∨
      (¬ HasExtension extension path ∧ IsRenamed extension path) := by
  have notDot : lastName path ≠ ['.'] := by
    intro same
    simp [isRelative, same] at proper
  have plain := dropTail_eq_self named notDot
  rcases splitExtension_cases (lastName path) with
    ⟨stem, old, split, present, oldDotFree, cut⟩ | ⟨cut, dotless⟩
  · exact withExtension_of_stem dotFree single proper plain split present oldDotFree cut
  · exact Or.inr (isRenamed_of_dotless dotFree single named proper plain cut dotless)

end WithExtension

end ApiReference.Path
