import ApiReference.Proofs.Anchors
import ApiReference.Proofs.EntryLinks
import ApiReference.Proofs.Regrouping

/-! ## Numbers in the list of features

The classes of a list are numbered in their order. Other members bear no number, and
they leave the numbers of the classes as they are. -/

namespace ApiReference

namespace Markdown

/-! ### Numbers that are read -/

def lineNumber? (line : Text) : Option Nat :=
  if line.takeWhile Char.isDigit = [] then none
  else some (Nat.ofDigitChars 10 (line.takeWhile Char.isDigit) 0)

/-- The number that an entry bears. Line feeds in front of its line do not count. -/
def entryNumber? (entry : Text) : Option Nat :=
  lineNumber? (entry.dropWhile (· = '\n'))

theorem lineNumber?_digits (number : Nat) {rest : Text}
    (stops : ∀ c, rest.head? = some c → c.isDigit = false) :
    lineNumber? (Nat.toDigits 10 number ++ rest) = some number := by
  have noMore : rest.takeWhile Char.isDigit = [] := by
    cases rest with
    | nil =>
        rfl
    | cons c others =>
        simp [stops c rfl]
  have digits :
      (Nat.toDigits 10 number ++ rest).takeWhile Char.isDigit = Nat.toDigits 10 number := by
    rw [List.takeWhile_append_of_pos, noMore, List.append_nil]
    intro c present
    exact Nat.isDigit_of_mem_toDigits (by decide) (by decide) present
  rw [lineNumber?, digits, if_neg Nat.toDigits_ne_nil, Nat.ofDigitChars_ten_toDigits]

theorem lineNumber?_listMark (number : Nat) (member : Member) (rest : Text) :
    lineNumber? (member.listMark number ++ rest) =
      if member.kind.isClass then some number else none := by
  rw [Member.listMark]
  split
  · rw [List.append_assoc]
    apply lineNumber?_digits
    intro c first
    cases first
    decide
  · rfl

theorem dropWhile_listMark (number : Nat) (member : Member) (rest : Text) :
    (member.listMark number ++ rest).dropWhile (· = '\n') =
      member.listMark number ++ rest := by
  cases mark : member.listMark number with
  | nil =>
      have present : member.listMark number ≠ [] := by
        rw [Member.listMark]
        split <;> simp
      exact absurd mark present
  | cons c others =>
      have ends := member.endsLine_listMark number c (by simp [mark])
      have notFeed : c ≠ '\n' := by
        intro isFeed
        rw [isFeed] at ends
        cases ends
      simp [notFeed]

/-- The entry of a class bears the number it is given, and no other entry bears one. -/
theorem entryNumber?_entry (number : Nat) (member : Member) :
    entryNumber? (member.entry number) = if member.kind.isClass then some number else none := by
  have line : (member.entry number).dropWhile (· = '\n') =
      member.listMark number ++ (link member.longName member.anchor ++ ['\n']) := by
    rw [Member.entry_eq, List.append_assoc, List.append_assoc, List.dropWhile_append_of_pos,
      dropWhile_listMark]
    intro c present
    split at present
    · simpa using present
    · cases present
  rw [entryNumber?, line, lineNumber?_listMark]

/-! ### Numbers in a list -/

/-- The numbers in a list are consecutive, and there are as many as classes. -/
theorem filterMap_entryNumber?_entriesFrom (number : Nat) (members : List Member) :
    (entriesFrom number members).filterMap entryNumber? =
      List.range' number (classCount members) := by
  induction members generalizing number with
  | nil =>
      rfl
  | cons member others inductionHypothesis =>
      rw [entriesFrom, List.filterMap_cons, entryNumber?_entry, inductionHypothesis,
        classCount_cons]
      by_cases isClass : member.kind.isClass = true
      · rw [if_pos isClass, if_pos isClass, if_pos isClass, List.range'_succ]
      · rw [if_neg isClass, if_neg isClass, if_neg isClass, Nat.add_zero]

theorem entryNumber?_entriesFrom (number : Nat) {members : List Member} {index : Nat}
    {member : Member} (found : members[index]? = some member) :
    (entriesFrom number members)[index]?.bind entryNumber? =
      if member.kind.isClass then some (number + classCount (members.take index))
      else none := by
  rw [getElem?_entriesFrom, found, Option.map_some, Option.bind_some, entryNumber?_entry]
  rfl

/-! ### Numbers that grow -/

def numbered (number : Nat) (rest : Text) : Text :=
  ['\n'] ++ Nat.toDigits 10 number ++ ". ".toList ++ rest

/-- Two entries that are the same, but that the second bears the next number if the first
bears one. -/
inductive NextNumber : Text → Text → Prop
  | numbered (number : Nat) (rest : Text) :
      NextNumber (numbered number rest) (numbered (number + 1) rest)
  | unnumbered (rest : Text) : NextNumber ("- ".toList ++ rest) ("- ".toList ++ rest)

theorem entry_of_class {member : Member} (isClass : member.kind = .classType) (number : Nat) :
    member.entry number = numbered number (link member.longName member.anchor ++ ['\n']) := by
  rw [Member.entry, Member.entryMark, if_pos (Kind.isClass_iff.mpr isClass), numbered]
  simp only [List.append_assoc]

theorem entry_of_other {member : Member} (notClass : member.kind ≠ .classType) (number : Nat) :
    member.entry number = "- ".toList ++ (link member.longName member.anchor ++ ['\n']) := by
  rw [Member.entry, Member.entryMark, if_neg (by simpa using notClass), List.append_assoc]

/-- With the next number, the entry of a member differs in its number alone. -/
theorem nextNumber_entry (number : Nat) (member : Member) :
    NextNumber (member.entry number) (member.entry (number + 1)) := by
  by_cases isClass : member.kind = .classType
  · rw [entry_of_class isClass, entry_of_class isClass]
    exact NextNumber.numbered number _
  · rw [entry_of_other isClass, entry_of_other isClass]
    exact NextNumber.unnumbered _

/-- Where the first number grows by one, so does every later one. -/
theorem nextNumber_entriesFrom (number : Nat) (members : List Member) :
    List.Forall₂ NextNumber (entriesFrom number members) (entriesFrom (number + 1) members) := by
  induction members generalizing number with
  | nil =>
      exact List.Forall₂.nil
  | cons member others inductionHypothesis =>
      rw [entriesFrom, entriesFrom]
      apply List.Forall₂.cons (nextNumber_entry number member)
      split
      · exact inductionHypothesis (number + 1)
      · exact inductionHypothesis number

end Markdown

end ApiReference
