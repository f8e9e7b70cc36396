import ApiReference.Proofs.Loading

/-! ## Short names

A short name keeps the parameter list of the long name as it is, whatever stands in it.
Only what is in front of the list is cut: down to the last segment, or for a constructor
down to the segment in front of that. -/

namespace ApiReference

namespace Text

/-! ### Segments at the end of a chain -/

/-- A chain of segments is cut behind its last separator, or in front of it all. -/
structure EndsInSegment (chain front segment : Text) : Prop where
  whole : front ++ segment = chain
  unbroken : ∀ c ∈ segment, isSeparator c = false
  bounded : ∀ c, front.getLast? = some c → isSeparator c = true

theorem endsInSegment_concat {chain start segment : Text} {separator : Char}
    (split : chain = start ++ separator :: segment) (separates : isSeparator separator = true)
    (unbroken : segment.any isSeparator = false) :
    EndsInSegment chain (start ++ [separator]) segment := by
  refine ⟨by simp [split], ?_, ?_⟩
  · intro c within
    exact Bool.eq_false_iff.mpr (List.any_eq_false.mp unbroken c within)
  · intro c isLast
    rw [List.getLast?_concat, Option.some.injEq] at isLast
    rw [← isLast]
    exact separates

/-- Every chain of segments ends in one. -/
theorem exists_endsInSegment (chain : Text) :
    ∃ front segment, EndsInSegment chain front segment := by
  refine ⟨chain.rdropWhile (!isSeparator ·), chain.rtakeWhile (!isSeparator ·),
    List.rdropWhile_append_rtakeWhile, ?_, ?_⟩
  · intro c taken
    simpa using List.mem_rtakeWhile_imp taken
  · intro c isLast
    obtain ⟨present, rfl⟩ := List.mem_getLast?_eq_getLast isLast
    simpa using List.rdropWhile_last_not (!isSeparator ·) chain present

namespace EndsInSegment

variable {chain front segment : Text}

theorem splitOnP_alone (ends : EndsInSegment chain [] segment) :
    chain.splitOnP isSeparator = [segment] := by
  rw [← ends.whole]
  exact List.splitOnP_eq_singleton ends.unbroken

theorem separates {start : Text} {separator : Char}
    (ends : EndsInSegment chain (start ++ [separator]) segment) :
    isSeparator separator = true :=
  ends.bounded separator (by rw [List.getLast?_concat])

theorem splitOnP_behind {start : Text} {separator : Char}
    (ends : EndsInSegment chain (start ++ [separator]) segment) :
    chain.splitOnP isSeparator = start.splitOnP isSeparator ++ [segment] := by
  rw [← ends.whole, List.append_assoc, List.singleton_append,
    List.splitOnP_append_cons _ _ ends.separates,
    List.splitOnP_eq_singleton ends.unbroken]

theorem getLast?_splitOnP (ends : EndsInSegment chain front segment) :
    (chain.splitOnP isSeparator).getLast? = some segment := by
  rcases List.eq_nil_or_concat' front with rfl | ⟨start, separator, rfl⟩
  · rw [ends.splitOnP_alone]
    rfl
  · rw [ends.splitOnP_behind, List.getLast?_concat]

theorem mem_chain (ends : EndsInSegment chain front segment) {c : Char}
    (within : c ∈ segment) : c ∈ chain := by
  rw [← ends.whole]
  exact List.mem_append_right front within

end EndsInSegment

/-- A segment that is not empty, and the separator behind it, end what is in front of the
last segment. -/
structure PrecededBy (front owner : Text) : Prop where
  present : owner ≠ []
  ends : ∃ start separator outer, front = start ++ [separator] ∧
    isSeparator separator = true ∧ EndsInSegment start outer owner

theorem not_precededBy_nil (owner : Text) : ¬ PrecededBy [] owner := by
  rintro ⟨_, start, separator, _, empty, _⟩
  exact absurd empty (by simp)

namespace PrecededBy

variable {front owner : Text}

/-- There is only one segment that can stand in front of a place. -/
theorem eq_last {start outer last : Text} {separator : Char}
    (preceded : PrecededBy (start ++ [separator]) owner)
    (lastEnds : EndsInSegment start outer last) : owner = last := by
  obtain ⟨_, otherStart, otherSeparator, otherOuter, same, _, ends⟩ := preceded
  rw [← (List.append_inj' same rfl).1] at ends
  have sameLast := ends.getLast?_splitOnP.symm.trans lastEnds.getLast?_splitOnP
  exact Option.some.inj sameLast

theorem unbroken (preceded : PrecededBy front owner) :
    ∀ c ∈ owner, isSeparator c = false := by
  obtain ⟨_, start, separator, outer, _, _, ends⟩ := preceded
  exact ends.unbroken

theorem mem_front (preceded : PrecededBy front owner) {c : Char} (within : c ∈ owner) :
    c ∈ front := by
  obtain ⟨_, start, separator, outer, split, _, ends⟩ := preceded
  rw [split]
  exact List.mem_append_left _ (ends.mem_chain within)

end PrecededBy

/-! ### The name of a chain -/

/-- The name of a chain of segments: its last segment, or the one in front of it for a
constructor. -/
def chainName (chain : Text) : Text :=
  innermost (chain.splitOnP isSeparator).reverse

/-- A short name keeps the parameters and shortens the chain of names in front. -/
theorem shortName_eq (longName : Text) :
    longName.shortName = longName.qualifiedPart.chainName ++ longName.parameterPart :=
  rfl

theorem chainName_alone {chain segment : Text} (ends : EndsInSegment chain [] segment) :
    chain.chainName = segment := by
  rw [chainName, ends.splitOnP_alone]
  rfl

/-- Behind a separator the last segment names the member, unless this is a constructor of
an owner that has a name. -/
theorem chainName_behind {chain start outer owner segment : Text} {separator : Char}
    (ends : EndsInSegment chain (start ++ [separator]) segment)
    (ownerEnds : EndsInSegment start outer owner) :
    chain.chainName = if segment.head? = some '#' && owner ≠ [] then owner else segment := by
  obtain ⟨others, pieces⟩ := List.getLast?_eq_some_iff.mp ownerEnds.getLast?_splitOnP
  rw [chainName, ends.splitOnP_behind, pieces]
  simp [innermost]

/-- How a chain of segments is named after its last ones. -/
inductive NamedAfter (front segment : Text) : Text → Prop
  | owner {owner : Text} :
      segment.head? = some '#' → PrecededBy front owner → NamedAfter front segment owner
  | segment :
      segment.head? ≠ some '#' ∨ (∀ owner, ¬ PrecededBy front owner) →
      NamedAfter front segment segment

/-- The name of a chain is found by the rule of segments. -/
theorem namedAfter_chainName {chain front segment : Text}
    (ends : EndsInSegment chain front segment) :
    NamedAfter front segment chain.chainName := by
  rcases List.eq_nil_or_concat' front with rfl | ⟨start, separator, rfl⟩
  · rw [chainName_alone ends]
    exact NamedAfter.segment (Or.inr not_precededBy_nil)
  · obtain ⟨outer, owner, ownerEnds⟩ := exists_endsInSegment start
    rw [chainName_behind ends ownerEnds]
    by_cases isOwner : (segment.head? = some '#' && owner ≠ []) = true
    · rw [if_pos isOwner]
      simp only [Bool.and_eq_true, decide_eq_true_eq] at isOwner
      exact NamedAfter.owner isOwner.1
        ⟨isOwner.2, start, separator, outer, rfl, ends.separates, ownerEnds⟩
    · rw [if_neg isOwner]
      apply NamedAfter.segment
      by_cases isConstructor : segment.head? = some '#'
      · -- The one segment that could stand in front is empty.
        right
        intro other preceded
        have present := preceded.present
        rw [preceded.eq_last ownerEnds] at present
        exact isOwner (by simp [isConstructor, present])
      · exact Or.inl isConstructor

namespace NamedAfter

variable {chain front segment name : Text} (named : NamedAfter front segment name)

include named

theorem eq_segment
    (lastNames : segment.head? ≠ some '#' ∨ ∀ owner, ¬ PrecededBy front owner) :
    name = segment := by
  cases named with
  | owner isConstructor preceded =>
      rcases lastNames with other | unpreceded
      · exact absurd isConstructor other
      · exact absurd preceded (unpreceded name)
  | segment _ =>
      rfl

theorem precededBy (isConstructor : segment.head? = some '#')
    (preceded : ∃ owner, PrecededBy front owner) : PrecededBy front name := by
  cases named with
  | owner _ preceded =>
      exact preceded
  | segment lastNames =>
      obtain ⟨owner, preceded⟩ := preceded
      rcases lastNames with other | unpreceded
      · exact absurd isConstructor other
      · exact absurd preceded (unpreceded owner)

theorem unbroken (ends : EndsInSegment chain front segment) :
    ∀ c ∈ name, isSeparator c = false := by
  cases named with
  | owner _ preceded =>
      exact preceded.unbroken
  | segment _ =>
      exact ends.unbroken

theorem mem_chain (ends : EndsInSegment chain front segment) {c : Char}
    (within : c ∈ name) : c ∈ chain := by
  cases named with
  | owner _ preceded =>
      rw [← ends.whole]
      exact List.mem_append_left segment (preceded.mem_front within)
  | segment _ =>
      exact ends.mem_chain within

end NamedAfter

/-! ### Parameter lists -/

/-- A name is cut in front of its first parenthesis, if it has one. -/
structure CutAtParameters (longName qualified parameters : Text) : Prop where
  whole : qualified ++ parameters = longName
  absent : '(' ∉ qualified
  marked : parameters = [] ∨ parameters.head? = some '('

theorem cutAtParameters (longName : Text) :
    CutAtParameters longName longName.qualifiedPart longName.parameterPart := by
  refine ⟨List.takeWhile_append_dropWhile, ?_, ?_⟩
  · intro present
    have other := List.mem_takeWhile_imp present
    simp at other
  · cases rest : longName.parameterPart with
    | nil =>
        exact Or.inl rfl
    | cons c others =>
        have stopped := List.head?_dropWhile_not (· ≠ '(') longName
        rw [← parameterPart, rest] at stopped
        right
        simpa using stopped

end Text

open Text

/-- The short name of a member is a name without separators and the parameter list, which
is whole from its first parenthesis on. The name is the last segment in front of the
list, and what is cut off then ends in a separator, if it is anything. For a constructor
it is the segment in front of that, provided that there is one and it is not empty. -/
theorem shortName_of_segments {rawName : Text} {sections : List Section} {member : Member}
    (accepted : Member.ofRawName rawName sections = .ok member) :
    rawName = member.kind.letter :: ':' :: member.longName ∧
      CutAtParameters member.longName member.longName.qualifiedPart
        member.longName.parameterPart ∧
      ∃ name,
        member.shortName = name ++ member.longName.parameterPart ∧
          (∀ c ∈ name, isSeparator c = false) ∧
          CutAtParameters member.shortName name member.longName.parameterPart ∧
          (∃ front segment, EndsInSegment member.longName.qualifiedPart front segment) ∧
          ∀ front segment, EndsInSegment member.longName.qualifiedPart front segment →
            ((segment.head? ≠ some '#' ∨ ∀ owner, ¬ PrecededBy front owner) →
                name = segment ∧ front ++ member.shortName = member.longName) ∧
              (segment.head? = some '#' → (∃ owner, PrecededBy front owner) →
                PrecededBy front name) := by
  have cut := cutAtParameters member.longName
  obtain ⟨front, segment, ends⟩ := exists_endsInSegment member.longName.qualifiedPart
  have named := namedAfter_chainName ends
  have shortCut : CutAtParameters member.shortName member.longName.qualifiedPart.chainName
      member.longName.parameterPart :=
    ⟨rfl, fun within => cut.absent (named.mem_chain ends within), cut.marked⟩
  refine ⟨(Member.rawName_of_ofRawName_ok accepted).symm, cut, _, rfl, named.unbroken ends,
    shortCut, ⟨front, segment, ends⟩, ?_⟩
  intro front segment ends
  constructor
  · intro lastNames
    have isSegment : member.longName.qualifiedPart.chainName = segment :=
      (namedAfter_chainName ends).eq_segment lastNames
    refine ⟨isSegment, ?_⟩
    rw [Member.shortName, shortName_eq, isSegment, ← List.append_assoc, ends.whole, cut.whole]
  · exact (namedAfter_chainName ends).precededBy

/-- A constructor with separators, parentheses and a segment like its own in its parameter
list. -/
def circleConstructor : Member :=
  ⟨.method, "Shapes+Circle.#ctor(Lib.Unit(é)+.#ctor)".toList, by decide, []⟩

def ownerlessConstructor : Member :=
  ⟨.method, "Shapes..#ctor".toList, by decide, []⟩

theorem shortName_of_segments_circle :
    Member.ofRawName "M:Shapes+Circle.#ctor(Lib.Unit(é)+.#ctor)".toList [] =
        .ok circleConstructor ∧
      (∃ name, circleConstructor.shortName = name ++ "(Lib.Unit(é)+.#ctor)".toList ∧
        PrecededBy ("Shapes+Circle".toList ++ ['.']) name) ∧
      Member.ofRawName "M:Shapes..#ctor".toList [] = .ok ownerlessConstructor ∧
      "Shapes.".toList ++ ['.'] ++ ownerlessConstructor.shortName =
        ownerlessConstructor.longName := by
  have accepted : Member.ofRawName "M:Shapes+Circle.#ctor(Lib.Unit(é)+.#ctor)".toList [] =
      .ok circleConstructor := by
    decide +kernel
  have ownerlessAccepted :
      Member.ofRawName "M:Shapes..#ctor".toList [] = .ok ownerlessConstructor := by
    decide +kernel
  have parameters :
      circleConstructor.longName.parameterPart = "(Lib.Unit(é)+.#ctor)".toList := by
    decide +kernel
  obtain ⟨_, _, name, short, _, _, _, named⟩ := shortName_of_segments accepted
  obtain ⟨_, _, _, _, _, _, _, ownerlessNamed⟩ := shortName_of_segments ownerlessAccepted
  have ends : EndsInSegment circleConstructor.longName.qualifiedPart
      ("Shapes+Circle".toList ++ ['.']) "#ctor".toList :=
    endsInSegment_concat (by decide +kernel) rfl (by decide)
  have ownerlessEnds : EndsInSegment ownerlessConstructor.longName.qualifiedPart
      ("Shapes.".toList ++ ['.']) "#ctor".toList :=
    endsInSegment_concat (by decide +kernel) rfl (by decide)
  have ownerEnds :
      EndsInSegment "Shapes+Circle".toList ("Shapes".toList ++ ['+']) "Circle".toList :=
    endsInSegment_concat (by decide) rfl (by decide)
  have preceded : PrecededBy ("Shapes+Circle".toList ++ ['.']) "Circle".toList :=
    ⟨by decide, _, '.', _, rfl, rfl, ownerEnds⟩
  have unpreceded : ∀ owner, ¬ PrecededBy ("Shapes.".toList ++ ['.']) owner := by
    intro owner preceded
    have emptyEnds : EndsInSegment "Shapes.".toList ("Shapes".toList ++ ['.']) [] :=
      endsInSegment_concat (by decide) rfl rfl
    exact preceded.present (preceded.eq_last emptyEnds)
  rw [parameters] at short
  have constructorNamed := (named _ _ ends).2 rfl ⟨_, preceded⟩
  have ownerlessKept := ((ownerlessNamed _ _ ownerlessEnds).1 (Or.inr unpreceded)).2
  exact ⟨accepted, ⟨name, short, constructorNamed⟩, ownerlessAccepted, ownerlessKept⟩

end ApiReference
