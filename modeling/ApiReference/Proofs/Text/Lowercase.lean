import ApiReference.Text.Lowercase
import ApiReference.Text.WhiteSpace
import Mathlib

/-! ## What small letters leave alone

White space and backticks have no case: they stay as they are, and no letter turns into
one of them. -/

namespace ApiReference

/-! ### Single characters -/

def caseless : CodeRanges :=
  (0x60, 0x60) :: whiteSpace

theorem caseless_contains_iff {c : Char} :
    caseless.contains c = true ↔ c = '`' ∨ isWhite c = true := by
  have tick : (0x60 ≤ c.toNat ∧ c.toNat ≤ 0x60) ↔ c = '`' := by
    constructor
    · intro bounds
      have same : c.toNat = 0x60 := by
        omega
      rw [← Char.ofNat_toNat c, same]
    · rintro rfl
      decide
  simp only [caseless, CodeRanges.contains, List.any_cons, Bool.or_eq_true,
    Bool.and_eq_true, decide_eq_true_eq, tick, isWhite]

theorem caseless_positive : ∀ range ∈ caseless, 0 < range.1 := by
  decide

theorem not_caseless_of_avoided {c : Char}
    (avoided : ∀ range ∈ caseless, c.toNat < range.1 ∨ range.2 < c.toNat) :
    caseless.contains c = false := by
  rw [CodeRanges.contains, List.any_eq_false]
  intro range present
  have outside := avoided range present
  simp only [Bool.and_eq_true, decide_eq_true_eq]
  omega

/-- Whether a run of capital letters and the small letters of the run have no code point
in a range. -/
def CaseRun.avoids (run : CaseRun) (range : Nat × Nat) : Bool :=
  (run.last < range.1 || range.2 < run.first) &&
    (run.lowered + (run.last - run.first) < range.1 || range.2 < run.lowered)

/-- No run of capitals, and no run of the letters they are lowered to, meets a character
without a case. -/
theorem capitalRuns_avoid_caseless :
    capitalRuns.all (fun run => caseless.all run.avoids) = true := by
  decide +kernel

theorem capitalRuns_avoid {run : CaseRun} (listed : run ∈ capitalRuns) {code : Nat}
    (fromFirst : run.first ≤ code) (toLast : code ≤ run.last) :
    ∀ range ∈ caseless,
      (code < range.1 ∨ range.2 < code) ∧
        (run.lowered + (code - run.first) < range.1 ∨
          range.2 < run.lowered + (code - run.first)) := by
  intro range present
  have avoids := List.all_eq_true.mp capitalRuns_avoid_caseless run listed
  have apart := List.all_eq_true.mp avoids range present
  simp only [CaseRun.avoids, Bool.and_eq_true, Bool.or_eq_true,
    decide_eq_true_eq] at apart
  omega

theorem lowerLetter_ascii_cases {c : Char} (ascii : c.toNat < 0x80) :
    lowerLetter c = c ∨
      caseless.contains c = false ∧ caseless.contains (lowerLetter c) = false := by
  have checked : ∀ code < 0x80,
      (Char.ofNat code).toLower = Char.ofNat code ∨
        caseless.contains (Char.ofNat code) = false ∧
          caseless.contains (Char.ofNat code).toLower = false := by
    decide +kernel
  have here := checked c.toNat ascii
  rw [Char.ofNat_toNat] at here
  rw [lowerLetter, if_pos ascii]
  exact here

/-- A letter that is lowered is not caseless, and neither is its small form. -/
theorem lowerLetter_cases (c : Char) :
    lowerLetter c = c ∨
      caseless.contains c = false ∧ caseless.contains (lowerLetter c) = false := by
  by_cases ascii : c.toNat < 0x80
  · exact lowerLetter_ascii_cases ascii
  · rw [lowerLetter, if_neg ascii]
    cases found : capitalRuns.find? (·.holds c.toNat) with
    | none =>
        exact Or.inl rfl
    | some run =>
        have holds := List.find?_some found
        simp only [CaseRun.holds, Bool.and_eq_true, decide_eq_true_eq] at holds
        obtain ⟨⟨fromFirst, toLast⟩, _⟩ := holds
        have avoid :=
          capitalRuns_avoid (List.mem_of_find?_eq_some found) fromFirst toLast
        refine Or.inr ⟨?_, ?_⟩
        · apply not_caseless_of_avoided
          intro range present
          exact (avoid range present).1
        · apply not_caseless_of_avoided
          intro range present
          have apart := (avoid range present).2
          have positive := caseless_positive range present
          -- A code point that no character has stands for the one of code point zero.
          rw [Char.toNat_ofNat]
          split
          · exact apart
          · exact Or.inl positive

namespace Text

/-! ### Texts -/

/-- What a character may become: itself if it has no case, and else one or more
characters that have none of the caseless ones among them. -/
inductive Lowers (c : Char) : Text → Prop
  | kept : caseless.contains c = true → Lowers c [c]
  | lowered {first : Char} {others : Text} :
      caseless.contains c = false →
      (∀ d ∈ first :: others, caseless.contains d = false) →
      Lowers c (first :: others)

theorem lowers_lowerLetter (c : Char) : Lowers c [lowerLetter c] := by
  by_cases hasNoCase : caseless.contains c = true
  · rcases lowerLetter_cases c with same | ⟨hasCase, _⟩
    · rw [same]
      exact Lowers.kept hasNoCase
    · rw [hasNoCase] at hasCase
      cases hasCase
  · have hasCase : caseless.contains c = false := by
      simpa using hasNoCase
    apply Lowers.lowered hasCase
    intro d present
    obtain rfl := List.mem_singleton.mp present
    rcases lowerLetter_cases c with same | ⟨_, stillCase⟩
    · rw [same]
      exact hasCase
    · exact stillCase

theorem lowercaseAfter_cons (before : Text) (c : Char) (rest : Text) :
    ∃ piece, Lowers c piece ∧
      lowercaseAfter before (c :: rest) = piece ++ lowercaseAfter (c :: before) rest := by
  refine ⟨_, ?_, rfl⟩
  split
  next isSigma =>
    subst isSigma
    apply Lowers.lowered (by decide)
    intro d present
    obtain rfl := List.mem_singleton.mp present
    split <;> decide
  next =>
    split
    next isDotted =>
      subst isDotted
      have noneCaseless : ['i', '\u0307'].any caseless.contains = false := by
        decide
      apply Lowers.lowered (by decide)
      intro d present
      exact Bool.eq_false_iff.mpr (List.any_eq_false.mp noneCaseless d present)
    next =>
      exact lowers_lowerLetter c

/-- A character without a case comes of itself alone. -/
theorem Lowers.mem_iff {c d : Char} {piece : Text} (lowers : Lowers c piece)
    (hasNoCase : caseless.contains d = true) : d ∈ piece ↔ d = c := by
  cases lowers with
  | kept =>
      exact List.mem_singleton
  | lowered hasCase noneCaseless =>
      constructor
      · intro present
        rw [noneCaseless d present] at hasNoCase
        cases hasNoCase
      · rintro rfl
        rw [hasCase] at hasNoCase
        cases hasNoCase

theorem Lowers.ne_nil {c : Char} {piece : Text} (lowers : Lowers c piece) : piece ≠ [] := by
  cases lowers with
  | kept =>
      exact List.cons_ne_nil _ _
  | lowered =>
      exact List.cons_ne_nil _ _

theorem mem_lowercaseAfter_iff {c : Char} (hasNoCase : caseless.contains c = true)
    (text : Text) : ∀ before, c ∈ lowercaseAfter before text ↔ c ∈ text := by
  induction text with
  | nil =>
      intro before
      rfl
  | cons first rest inductionHypothesis =>
      intro before
      obtain ⟨piece, lowers, split⟩ := lowercaseAfter_cons before first rest
      rw [split, List.mem_append, lowers.mem_iff hasNoCase, inductionHypothesis,
        List.mem_cons]

/-- Characters without a case are in the lowered text exactly if they are in the text. -/
theorem mem_lowercase_iff {c : Char} (hasNoCase : caseless.contains c = true)
    (text : Text) : c ∈ lowercase text ↔ c ∈ text :=
  mem_lowercaseAfter_iff hasNoCase text []

end Text

end ApiReference
