import ApiReference.Markup.Scanner
import ApiReference.Proofs.Numbering
import ApiReference.Proofs.Text.CodeLines
import Mathlib.Data.List.Forall2
import Mathlib.Data.List.Infix

/-! ## The list of features read back

The list is written without any escapes. Still its lines tell what they were made of, as
long as names keep to one line and no long name holds the mark that ends the text of a
link: the list determines which of its members are classes, their long names, and the
places that the links lead to. -/

namespace ApiReference

open Text

/-! ### Texts up to a mark -/

namespace Markup.Scanner

section Mark

variable {first : Char} {others : Text} (apart : first ∉ others)

include apart

/-- A mark that is not in a text does not start in the text and end behind it either, if
its first character is found at its start only. -/
theorem not_prefix_before_mark {text : Text} (present : text ≠ [])
    (absent : ¬ (first :: others) <:+: text) (rest : Text) :
    ¬ (first :: others) <+: text ++ (first :: others ++ rest) := by
  rintro ⟨behind, split⟩
  rcases List.append_eq_append_iff.mp split.symm with ⟨back, longer, later⟩ | ⟨back, shorter, _⟩
  · cases back with
    | nil =>
        rw [List.append_nil] at longer
        exact absent (longer ▸ List.infix_rfl)
    | cons c back =>
        -- The mark reaches over the end of the text, so that the mark behind the text
        -- starts inside it, and its first character is among the others.
        have same : first = c := (List.cons.inj later).1
        obtain ⟨start, middle, split⟩ := List.exists_cons_of_ne_nil present
        rw [split, List.cons_append] at longer
        have within : first ∈ others := by
          rw [(List.cons.inj longer).2, same]
          exact List.mem_append_right middle List.mem_cons_self
        exact apart within
  · exact absent ⟨[], back, by rw [List.nil_append, shorter]⟩

/-- A mark is found behind a text in which it does not occur. -/
theorem splitAtMark_append {text : Text} (absent : ¬ (first :: others) <:+: text)
    (rest : Text) : ∀ before,
      splitAtMark (first :: others) before (text ++ (first :: others ++ rest)) =
        some (before.reverse ++ text, rest) := by
  induction text with
  | nil =>
      intro before
      have atStart : (first :: others).isPrefixOf (first :: others ++ rest) = true :=
        List.isPrefixOf_iff_prefix.mpr (List.prefix_append _ rest)
      rw [List.nil_append, List.append_nil, List.cons_append, splitAtMark, ← List.cons_append,
        if_pos atStart, List.drop_left]
  | cons c text inductionHypothesis =>
      intro before
      have textAbsent : ¬ (first :: others) <:+: text := by
        intro within
        exact absent (within.trans (List.suffix_cons c text).isInfix)
      have notHere := not_prefix_before_mark apart (List.cons_ne_nil c text) absent rest
      rw [← List.isPrefixOf_iff_prefix, List.cons_append] at notHere
      rw [List.cons_append, splitAtMark, if_neg notHere, inductionHypothesis textAbsent,
        List.reverse_cons, List.append_assoc, List.singleton_append]

end Mark

end Markup.Scanner

/-! ### Lines that are read -/

namespace Markdown

open Markup.Scanner

structure Listing where
  isClass : Bool
  longName : Text
  place : Text
deriving DecidableEq, Repr

/-- The link in a line, from its first bracket on. Entries of classes start with a
number. -/
def listingIn? (line : Text) : Option Listing := do
  let (_, link) ← splitAtMark ['['] [] line
  let (longName, destination) ← splitAtMark "](#".toList [] link
  return ⟨(lineNumber? line).isSome, longName, destination.dropLast⟩

def readList (list : Text) : List Listing :=
  (list.splitOn '\n').filterMap listingIn?

def numberedLines (list : Text) : List Text :=
  (list.splitOn '\n').filter fun line => (lineNumber? line).isSome

end Markdown

open Markdown Markup.Scanner

namespace Member

/-- A member whose names keep to one line, and whose long name does not look like the end
of a link's text. -/
structure Legible (member : Member) : Prop where
  longName_line : '\n' ∉ member.longName
  displayName_line : '\n' ∉ member.displayName
  longName_unmarked : ¬ "](#".toList <:+: member.longName

instance (member : Member) : Decidable member.Legible :=
  decidable_of_iff
    ('\n' ∉ member.longName ∧ '\n' ∉ member.displayName ∧
      ¬ "](#".toList <:+: member.longName)
    ⟨fun parts => ⟨parts.1, parts.2.1, parts.2.2⟩, fun legible =>
      ⟨legible.longName_line, legible.displayName_line, legible.longName_unmarked⟩⟩

def listing (member : Member) : Listing :=
  ⟨member.kind.isClass, member.longName, member.anchor⟩

def line (number : Nat) (member : Member) : Text :=
  member.listMark number ++ link member.longName member.anchor

theorem Legible.lineFeed_not_mem_anchor {member : Member} (legible : member.Legible) :
    '\n' ∉ member.anchor := by
  intro present
  obtain ⟨c, lowered, becomesFeed⟩ := List.mem_map.mp present
  split at becomesFeed
  · cases becomesFeed
  · rw [becomesFeed, mem_lowercase_iff (by decide)] at lowered
    exact legible.displayName_line lowered

theorem Legible.lineFeed_not_mem_line {member : Member} (legible : member.Legible)
    (number : Nat) : '\n' ∉ member.line number := by
  intro present
  rcases List.mem_append.mp present with inMark | inLink
  · have ends := member.endsLine_listMark number _ inMark
    cases ends
  · rcases mem_link_iff.mp inLink with inName | inPlace | isBracket
    · exact legible.longName_line inName
    · exact legible.lineFeed_not_mem_anchor inPlace
    · exact absurd isBracket (by decide)

theorem bracket_not_infix_listMark (number : Nat) (member : Member) :
    ¬ ['['] <:+: member.listMark number := by
  intro within
  have present : '[' ∈ member.listMark number := within.subset List.mem_cons_self
  rcases mem_listMark present with isDigit | isSign
  · exact absurd isDigit (by decide)
  · exact absurd isSign (by decide)

/-- From the line of a legible member its kind, long name and place are read back. -/
theorem Legible.listingIn?_line {member : Member} (legible : member.Legible) (number : Nat) :
    listingIn? (member.line number) = some member.listing := by
  have linkFound :
      splitAtMark ['['] [] (member.line number) =
        some (member.listMark number,
          member.longName ++ ("](#".toList ++ (member.anchor ++ [')']))) := by
    have split := splitAtMark_append List.not_mem_nil
      (member.bracket_not_infix_listMark number)
      (member.longName ++ ("](#".toList ++ (member.anchor ++ [')']))) []
    simpa [line, link] using split
  have nameFound :
      splitAtMark "](#".toList [] (member.longName ++ ("](#".toList ++ (member.anchor ++ [')']))) =
        some (member.longName, member.anchor ++ [')']) :=
    splitAtMark_append (by decide) legible.longName_unmarked _ []
  have number : (lineNumber? (member.line number)).isSome = member.kind.isClass := by
    rw [line, lineNumber?_listMark]
    cases member.kind.isClass <;> rfl
  rw [listingIn?, linkFound]
  dsimp only [Option.bind_eq_bind, Option.bind_some]
  rw [nameFound]
  dsimp only [Option.bind_some, Option.pure_def]
  rw [number, List.dropLast_concat]
  rfl

/-- An entry ends its line, and that of a class leaves a line empty in front. -/
theorem Legible.splitOn_entry_append {member : Member} (legible : member.Legible)
    (number : Nat) (rest : Text) :
    (member.entry number ++ rest).splitOn '\n' =
      (if member.kind.isClass then [[]] else []) ++
        member.line number :: rest.splitOn '\n' := by
  have cut :
      (member.line number ++ '\n' :: rest).splitOn '\n' =
        member.line number :: rest.splitOn '\n' :=
    List.splitOn_append_cons_self_of_not_mem (legible.lineFeed_not_mem_line number) rest
  rw [entry_eq, List.append_assoc, List.append_assoc, List.singleton_append]
  split
  · rw [List.singleton_append, List.splitOn_cons_eq_if_modifyHead, if_pos (by decide)]
    exact congrArg _ cut
  · exact cut

end Member

/-! ### Whole lists -/

namespace Markdown

/-- The members of a list are read back from the lines of their entries, wherever the
numbers start. -/
theorem readList_entriesFrom {members : List Member}
    (legible : ∀ member ∈ members, member.Legible) (number : Nat) :
    readList (entriesFrom number members).flatten = members.map Member.listing := by
  induction members generalizing number with
  | nil =>
      rfl
  | cons member others inductionHypothesis =>
      have memberLegible := legible member List.mem_cons_self
      have othersRead := inductionHypothesis
        (fun other later => legible other (List.mem_cons_of_mem member later))
        (if member.kind.isClass then number + 1 else number)
      have noEntry : listingIn? [] = none := by
        rfl
      rw [readList] at othersRead ⊢
      rw [entriesFrom, List.flatten_cons, memberLegible.splitOn_entry_append,
        List.filterMap_append, List.filterMap_cons_some (memberLegible.listingIn?_line number),
        othersRead, List.map_cons]
      split
      · rw [List.filterMap_cons_none noEntry]
        rfl
      · rfl

/-- The lines that start with a number are those of the classes, in their order. -/
theorem numberedLines_entriesFrom {members : List Member}
    (legible : ∀ member ∈ members, member.Legible) (number : Nat) :
    numberedLines (entriesFrom number members).flatten =
      (members.filter (·.kind.isClass)).mapIdx fun index member =>
        member.line (number + index) := by
  induction members generalizing number with
  | nil =>
      rfl
  | cons member others inductionHypothesis =>
      have memberLegible := legible member List.mem_cons_self
      have othersNumbered := inductionHypothesis
        (fun other later => legible other (List.mem_cons_of_mem member later))
        (if member.kind.isClass then number + 1 else number)
      have marked : lineNumber? (member.line number) =
          if member.kind.isClass then some number else none :=
        lineNumber?_listMark number member _
      rw [numberedLines] at othersNumbered ⊢
      rw [entriesFrom, List.flatten_cons, memberLegible.splitOn_entry_append,
        List.filter_append, List.filter_cons, marked, othersNumbered, List.filter_cons]
      by_cases isClass : member.kind.isClass = true
      · have blankDropped :
            [[]].filter (fun line => (lineNumber? line).isSome) = ([] : List Text) := by
          rfl
        simp only [isClass, if_true, Option.isSome_some, List.mapIdx_cons, blankDropped,
          List.nil_append, Nat.add_zero, Nat.add_assoc, Nat.add_comm 1]
      · simp [isClass]

end Markdown

/-- A list of features is read back: each entry tells whether its member is a class, its
long name, and its place; and the lines with numbers are those of the classes, the first
of which bears number one. So lists that are the same are lists of members that agree in
all of this, one by one. -/
theorem featureList_readBack {catalog other : Catalog}
    (legible : ∀ member ∈ catalog.members, member.Legible)
    (otherLegible : ∀ member ∈ other.members, member.Legible) :
    readList catalog.featureList = catalog.members.map Member.listing ∧
      numberedLines catalog.featureList =
        (catalog.members.filter (·.kind.isClass)).mapIdx (fun index member =>
          member.line (1 + index)) ∧
      (catalog.featureList = other.featureList →
        List.Forall₂
          (fun member counterpart =>
            member.kind.isClass = counterpart.kind.isClass ∧
              member.longName = counterpart.longName ∧ member.anchor = counterpart.anchor)
          catalog.members other.members) := by
  have read : readList catalog.featureList = catalog.members.map Member.listing :=
    readList_entriesFrom legible 1
  have otherRead : readList other.featureList = other.members.map Member.listing :=
    readList_entriesFrom otherLegible 1
  refine ⟨read, numberedLines_entriesFrom legible 1, ?_⟩
  intro sameList
  have sameListings : catalog.members.map Member.listing = other.members.map Member.listing := by
    rw [← read, sameList, otherRead]
  rw [← List.forall₂_eq_eq_eq, List.forall₂_map_left_iff, List.forall₂_map_right_iff]
    at sameListings
  apply sameListings.imp
  intro member counterpart same
  rw [Member.listing, Member.listing, Listing.mk.injEq] at same
  exact same

/-- A class and a method, whose names hold brackets of all kinds. -/
def wheelCatalog : Catalog :=
  ⟨some "Parts".toList,
    [⟨some ⟨.classType, "Parts.Wheel[](".toList, by decide,
        [.passage .name "The Wheel)".toList]⟩, []⟩,
      ⟨none, [⟨.method, "- [1. Spin]".toList, by decide, []⟩]⟩]⟩

def smallWheelCatalog : Catalog :=
  ⟨none,
    [⟨some ⟨.classType, "Parts.Wheel[](".toList, by decide,
        [.passage .name "the wheel)".toList]⟩,
      [⟨.field, "- [1. Spin]".toList, by decide, [.passage .name "- [1. spin]".toList]⟩]⟩]⟩

theorem featureList_readBack_wheelCatalog :
    (∀ member ∈ wheelCatalog.members, member.Legible) ∧
      (∀ member ∈ smallWheelCatalog.members, member.Legible) ∧
      wheelCatalog.featureList = smallWheelCatalog.featureList ∧
      readList wheelCatalog.featureList =
        [⟨true, "Parts.Wheel[](".toList, "the-wheel)".toList⟩,
          ⟨false, "- [1. Spin]".toList, "--[1.-spin]".toList⟩] ∧
      List.Forall₂
        (fun member counterpart =>
          member.kind.isClass = counterpart.kind.isClass ∧
            member.longName = counterpart.longName ∧ member.anchor = counterpart.anchor)
        wheelCatalog.members smallWheelCatalog.members := by
  have legible : ∀ member ∈ wheelCatalog.members, member.Legible := by
    decide +kernel
  have otherLegible : ∀ member ∈ smallWheelCatalog.members, member.Legible := by
    decide +kernel
  have sameList : wheelCatalog.featureList = smallWheelCatalog.featureList := by
    decide +kernel
  obtain ⟨read, _, agree⟩ := featureList_readBack legible otherLegible
  have listed : wheelCatalog.members.map Member.listing =
      [⟨true, "Parts.Wheel[](".toList, "the-wheel)".toList⟩,
        ⟨false, "- [1. Spin]".toList, "--[1.-spin]".toList⟩] := by
    decide +kernel
  exact ⟨legible, otherLegible, sameList, read.trans listed, agree sameList⟩

end ApiReference
