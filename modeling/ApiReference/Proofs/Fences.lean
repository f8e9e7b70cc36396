import ApiReference.Markdown.MemberBlocks
import ApiReference.Proofs.Text.CodeLines

/-! ## Code within its fence

A block of code stands between fences of three backticks, whatever the code is. As
Markdown reads it, the block ends at the first line that is a fence itself. So the code
stays within the block exactly if none of its lines is one. -/

namespace ApiReference

open Text

namespace Markdown

/-! ### Fences -/

/-- Whether a line is a fence: at most three spaces, at least three backticks, and
nothing but suited characters behind these. -/
def isFence (suits : Char → Bool) (line : Text) : Bool :=
  let ticked := line.dropWhile (· = ' ')
  let tail := ticked.dropWhile (· = '`')
  line.length ≤ ticked.length + 3 && tail.length + 3 ≤ ticked.length && tail.all suits

/-- What is behind the backticks of an opening fence tells the language. -/
def opensFence : Text → Bool :=
  isFence (· ≠ '`')

def closesFence : Text → Bool :=
  isFence isIndent

theorem eq_replicate_takeWhile (c : Char) (line : Text) :
    line.takeWhile (· = c) = List.replicate (line.takeWhile (· = c)).length c := by
  apply List.eq_replicate_iff.mpr
  refine ⟨rfl, ?_⟩
  intro d taken
  simpa using List.mem_takeWhile_imp taken

theorem dropWhile_replicate_append {c : Char} {rest : Text} (other : rest.head? ≠ some c)
    (count : Nat) : (List.replicate count c ++ rest).dropWhile (· = c) = rest := by
  rw [List.dropWhile_append_of_pos (by simp)]
  cases rest with
  | nil =>
      rfl
  | cons d others =>
      have different : d ≠ c := by
        simpa using other
      simp [different]

/-- A fence is made of spaces, backticks and what may follow them. -/
theorem isFence_iff {suits : Char → Bool} (tickless : suits '`' = false) {line : Text} :
    isFence suits line = true ↔
      ∃ spaces ticks tail,
        line = List.replicate spaces ' ' ++ (List.replicate ticks '`' ++ tail) ∧
          spaces ≤ 3 ∧ 3 ≤ ticks ∧ ∀ c ∈ tail, suits c = true := by
  constructor
  · intro fenced
    have spaces := List.takeWhile_append_dropWhile (p := (· = ' ')) (l := line)
    have ticks := List.takeWhile_append_dropWhile (p := (· = '`'))
      (l := line.dropWhile (· = ' '))
    have spacesLength := congrArg List.length spaces
    have ticksLength := congrArg List.length ticks
    simp only [isFence, Bool.and_eq_true, decide_eq_true_eq, List.all_eq_true] at fenced
    rw [List.length_append] at spacesLength ticksLength
    refine ⟨(line.takeWhile (· = ' ')).length,
      ((line.dropWhile (· = ' ')).takeWhile (· = '`')).length, _, ?_, ?_, ?_, fenced.2⟩
    · rw [← eq_replicate_takeWhile '`', ticks, ← eq_replicate_takeWhile ' ', spaces]
    · omega
    · omega
  · intro parts
    obtain ⟨spaces, ticks, tail, same, few, enough, suited⟩ := parts
    -- Neither run goes on into what is behind it, so each is dropped as it is written.
    have tailStart : tail.head? ≠ some '`' := by
      intro first
      rw [suited '`' (List.mem_of_mem_head? first)] at tickless
      cases tickless
    have ticksStart : (List.replicate ticks '`' ++ tail).head? ≠ some ' ' := by
      obtain ⟨more, sum⟩ := Nat.exists_eq_add_of_le' enough
      simp [sum, List.replicate_succ]
    simp only [isFence, same, dropWhile_replicate_append ticksStart,
      dropWhile_replicate_append tailStart, Bool.and_eq_true, decide_eq_true_eq,
      List.all_eq_true, List.length_append, List.length_replicate]
    refine ⟨⟨?_, ?_⟩, suited⟩
    · omega
    · omega

theorem opensFence_fence {language : Text} (tickless : '`' ∉ language) :
    opensFence (fence ++ language) = true := by
  apply (isFence_iff (by decide)).mpr
  refine ⟨0, 3, language, rfl, by omega, by omega, ?_⟩
  intro c present
  have notTick : c ≠ '`' := by
    intro isTick
    exact tickless (isTick ▸ present)
  simp [notTick]

theorem closesFence_fence : closesFence fence = true := by
  decide +kernel

/-! ### Blocks of code -/

/-- The lines within the fence that the first line opens, as Markdown reads them: those
up to the next line that closes a fence. -/
def linesInFence : List Text → Option (List Text)
  | [] => none
  | opening :: others =>
    if opensFence opening then some (others.takeWhile fun line => !closesFence line)
    else none

/-- Whether the first line opens a fence, none of the lines `between` closes it, and the
last line does. -/
structure ClosedAtEnd (lines between : List Text) : Prop where
  ends : ∃ opening closing, lines = opening :: (between ++ [closing]) ∧
    opensFence opening = true ∧ closesFence closing = true
  within : ∀ line ∈ between, closesFence line = false

theorem linesInFence_cons {opening : Text} (opens : opensFence opening = true)
    (others : List Text) :
    linesInFence (opening :: others) = some (others.takeWhile fun line => !closesFence line) :=
  if_pos opens

theorem takeWhile_append_closing {closing : Text} (closes : closesFence closing = true)
    (between : List Text) :
    (between ++ [closing]).takeWhile (fun line => !closesFence line) =
      between.takeWhile fun line => !closesFence line := by
  rw [List.takeWhile_append, List.takeWhile_cons_of_neg (by simp [closes]), List.append_nil]
  split
  next whole =>
    exact ((List.takeWhile_prefix _).eq_of_length whole).symm
  next =>
    rfl

section Lines

variable {breaks : Char → Bool} {language : Text}

/-- The fences stand on lines of their own, whatever breaks lines beside the line feed. -/
theorem splitOnP_fencedCode (feedBreaks : breaks '\n' = true) (tickStays : breaks '`' = false)
    (oneLine : ∀ c ∈ language, breaks c = false) (code : Text) :
    (fencedCode language code).splitOnP breaks =
      (fence ++ language) :: (code.splitOnP breaks ++ [fence]) := by
  have fenceUnbroken : ∀ c ∈ fence, breaks c = false := by
    intro c present
    have isTick : c = '`' := List.eq_of_mem_replicate (n := 3) present
    rw [isTick]
    exact tickStays
  have openingUnbroken : ∀ c ∈ fence ++ language, breaks c = false := by
    intro c present
    rcases List.mem_append.mp present with inFence | inLanguage
    · exact fenceUnbroken c inFence
    · exact oneLine c inLanguage
  have shape :
      fencedCode language code = (fence ++ language) ++ '\n' :: (code ++ '\n' :: fence) := by
    simp [fencedCode]
  rw [shape, List.splitOnP_append_cons_of_forall_mem openingUnbroken '\n' feedBreaks,
    List.splitOnP_append_cons _ _ feedBreaks, List.splitOnP_eq_singleton fenceUnbroken]

/-- Fenced code is closed by its last line exactly if no line of the code closes it. -/
theorem closedAtEnd_fencedCode_iff (feedBreaks : breaks '\n' = true)
    (tickStays : breaks '`' = false) (oneLine : ∀ c ∈ language, breaks c = false)
    (tickless : '`' ∉ language) (code : Text) :
    ClosedAtEnd ((fencedCode language code).splitOnP breaks) (code.splitOnP breaks) ↔
      ∀ line ∈ code.splitOnP breaks, closesFence line = false := by
  constructor
  · intro closed
    exact closed.within
  · intro noneCloses
    refine ⟨⟨_, _, splitOnP_fencedCode feedBreaks tickStays oneLine code, ?_, ?_⟩, noneCloses⟩
    · exact opensFence_fence tickless
    · exact closesFence_fence

/-- The code that is read ends in front of its first line that closes the fence. -/
theorem linesInFence_fencedCode (feedBreaks : breaks '\n' = true)
    (tickStays : breaks '`' = false) (oneLine : ∀ c ∈ language, breaks c = false)
    (tickless : '`' ∉ language) (code : Text) :
    linesInFence ((fencedCode language code).splitOnP breaks) =
      some ((code.splitOnP breaks).takeWhile fun line => !closesFence line) := by
  rw [splitOnP_fencedCode feedBreaks tickStays oneLine,
    linesInFence_cons (opensFence_fence tickless),
    takeWhile_append_closing closesFence_fence]

end Lines

end Markdown

open Markdown

theorem Section.block_code (level : Nat) (language code : Text) :
    (passage .code code).block level language = fencedCode language code := by
  have shape : fencedCode language code =
      '`' :: (("``".toList ++ language ++ ['\n'] ++ code ++ "\n``".toList) ++ ['`']) := by
    simp [fencedCode, fence]
  change trim (fencedCode language code) = fencedCode language code
  rw [shape]
  exact trim_eq_self (trimmed_between (by decide) (by decide) _)

/-- The block of a code section is its text between two fences. Of its lines after the
first, only the last closes the fence exactly if no line of the text does; otherwise the
text from the first such line on is left outside. Lines end at line feeds, and at any
other characters that the reader takes for line ends. -/
theorem code_closedAtEnd_iff {breaks : Char → Bool} (feedBreaks : breaks '\n' = true)
    (tickStays : breaks '`' = false) {language : Text}
    (oneLine : ∀ c ∈ language, breaks c = false) (tickless : '`' ∉ language)
    (level : Nat) (code : Text) :
    ((Section.passage .code code).block level language).splitOnP breaks =
        ("```".toList ++ language) :: (code.splitOnP breaks ++ ["```".toList]) ∧
      (ClosedAtEnd (((Section.passage .code code).block level language).splitOnP breaks)
          (code.splitOnP breaks) ↔
        ∀ line ∈ code.splitOnP breaks, closesFence line = false) ∧
      linesInFence (((Section.passage .code code).block level language).splitOnP breaks) =
        some ((code.splitOnP breaks).takeWhile fun line => !closesFence line) := by
  rw [Section.block_code]
  exact ⟨splitOnP_fencedCode feedBreaks tickStays oneLine code,
    closedAtEnd_fencedCode_iff feedBreaks tickStays oneLine tickless code,
    linesInFence_fencedCode feedBreaks tickStays oneLine tickless code⟩

/-- Code on fences, with lines of backticks that are none: they are indented too far, or
followed by more than white space. -/
def fenceSample : Text :=
  "    ```\n```cs\n a ``` \n``".toList

theorem code_closedAtEnd_iff_fenceSample :
    (('\n' == '\n') = true ∧ ('`' == '\n') = false ∧
        (∀ c ∈ "csharp".toList, (c == '\n') = false) ∧ '`' ∉ "csharp".toList) ∧
      ClosedAtEnd
        (((Section.passage .code fenceSample).block 4 "csharp".toList).splitOn '\n')
        (fenceSample.splitOn '\n') := by
  have oneLine : ∀ c ∈ "csharp".toList, (c == '\n') = false := by
    simp
  have tickless : '`' ∉ "csharp".toList := by
    decide +kernel
  have noneCloses : ∀ line ∈ fenceSample.splitOn '\n', closesFence line = false := by
    decide +kernel
  have readBack :=
    @code_closedAtEnd_iff (· == '\n') (by decide) (by decide) _ oneLine tickless 4 fenceSample
  exact ⟨⟨by decide, by decide, oneLine, tickless⟩, readBack.2.1.mpr noneCloses⟩

def fencedSource : Text :=
  "\n      a\n    ```\n    b\n  ".toList

def fencedBlock : Text :=
  (Section.ofTag Passage.code.tag none fencedSource).block 4 "csharp".toList

/-- A line of three backticks in the code leaves the lines behind it outside. -/
theorem code_outside_fence :
    Section.ofTag Passage.code.tag none fencedSource =
        .passage .code "  a\n```\nb".toList ∧
      fencedBlock = "```csharp\n  a\n```\nb\n```".toList ∧
      ¬ ClosedAtEnd (fencedBlock.splitOn '\n')
          ((normalCode fencedSource).splitOn '\n') ∧
      linesInFence (fencedBlock.splitOn '\n') = some ["  a".toList] := by
  refine ⟨by decide +kernel, by decide +kernel, ?_, by decide +kernel⟩
  intro closed
  have fenceWithin : fence ∈ (normalCode fencedSource).splitOn '\n' := by
    decide +kernel
  have stays := closed.within fence fenceWithin
  rw [closesFence_fence] at stays
  cases stays

end ApiReference
