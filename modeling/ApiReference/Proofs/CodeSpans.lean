import ApiReference.Markdown.MemberBlocks
import ApiReference.Proofs.Backticks
import ApiReference.Proofs.FlatText

/-! ## Inline code that is read back

Inline code is written between single backticks, whatever it holds. It is read back as
written unless backticks of its own get in the way: at its ends they make the runs around
it longer, and a lone one within it closes the span too early. -/

namespace ApiReference

namespace Markdown

/-! ### Reading a span of code -/

def spanContent (line : Text) (span : TickRun × TickRun) : Text :=
  (line.take span.2.start).drop span.1.finish

/-- Whether a line is, as Markdown reads it, one span of code with the given content. -/
def ReadsAsCode (line content : Text) : Prop :=
  ∃ span,
    (codeSpans line).head? = some span ∧ span.1.start = 0 ∧
      span.2.finish = line.length ∧ spanContent line span = content

/-- The contents that can stand between single backticks. -/
structure FitsSingleTicks (content : Text) : Prop where
  present : content ≠ []
  start : content.head? ≠ some '`'
  finish : content.getLast? ≠ some '`'
  no_lone : 1 ∉ runLengths content

theorem codeSpan_eq (content : Text) : codeSpan content = '`' :: (content ++ ['`']) :=
  rfl

theorem length_codeSpan (content : Text) :
    (codeSpan content).length = content.length + 2 := by
  simp [codeSpan]

/-- Backticks around a content that has none at its ends are runs of their own. -/
theorem tickRuns_codeSpan {content : Text} (present : content ≠ [])
    (start : content.head? ≠ some '`') (finish : content.getLast? ≠ some '`') :
    tickRuns (codeSpan content) =
      ⟨0, 1⟩ :: (tickRunsFrom 0 1 content ++ [⟨content.length + 1, 1⟩]) := by
  have behind :
      tickRunsFrom 0 1 (content ++ ['`']) =
        tickRunsFrom 0 1 content ++ [⟨content.length + 1, 1⟩] := by
    obtain ⟨front, last, rfl⟩ :=
      (List.eq_nil_or_concat content).resolve_left present
    rw [List.concat_eq_append] at finish ⊢
    have other : last ≠ '`' := by
      simpa using finish
    have closing :
        tickRunsFrom 0 (1 + front.length + 1) ['`'] = [⟨(front ++ [last]).length + 1, 1⟩] := by
      simp [tickRunsFrom, endedRun]
      omega
    rw [List.append_assoc, List.singleton_append, tickRunsFrom_append other, closing,
      tickRunsFrom_append other]
    simp [tickRunsFrom]
  obtain ⟨first, rest, rfl⟩ := List.exists_cons_of_ne_nil present
  have other : first ≠ '`' := by
    simpa using start
  rw [← behind, tickRuns, codeSpan_eq, tickRunsFrom_tick, List.cons_append,
    tickRunsFrom_other other, tickRunsFrom_other other]
  rfl

theorem codeSpans_codeSpan {content : Text} (present : content ≠ [])
    (start : content.head? ≠ some '`') (finish : content.getLast? ≠ some '`') :
    codeSpans (codeSpan content) =
      pairRuns (some ⟨0, 1⟩)
        (tickRunsFrom 0 1 content ++ [⟨content.length + 1, 1⟩]) := by
  have closed :
      (⟨0, 1⟩ : TickRun).length ∈
        (tickRunsFrom 0 1 content ++ [(⟨content.length + 1, 1⟩ : TickRun)]).map
          (·.length) := by
    simp
  rw [codeSpans, tickRuns_codeSpan present start finish, pairRuns, if_pos closed]

/-- The lengths leave one backtick for either run of a span over the whole line. -/
theorem single_of_spanContent {content : Text} {span : TickRun × TickRun}
    (present : content ≠ []) (opens : span.1.start = 0)
    (closes : span.2.finish = (codeSpan content).length)
    (same : span.2.length = span.1.length)
    (holds : spanContent (codeSpan content) span = content) : span.1.length = 1 := by
  have lengths := congrArg List.length holds
  have positive := List.length_pos_of_ne_nil present
  rw [length_codeSpan] at closes
  simp only [spanContent, TickRun.finish, List.length_drop, List.length_take,
    length_codeSpan] at lengths closes
  omega

/-- A span over the whole line has no backticks beside those at its ends. -/
theorem ends_of_readsAsCode {content : Text} {span : TickRun × TickRun}
    (first : (codeSpans (codeSpan content)).head? = some span)
    (opens : span.1.start = 0) (closes : span.2.finish = (codeSpan content).length)
    (holds : spanContent (codeSpan content) span = content) :
    content ≠ [] ∧ content.head? ≠ some '`' ∧ content.getLast? ≠ some '`' := by
  have present : content ≠ [] := by
    rintro rfl
    cases first
  have paired := List.mem_of_head? first
  have same := length_eq_of_mem_pairRuns paired
  have single := single_of_spanContent present opens closes same holds
  obtain ⟨opening, closing⟩ := mem_of_mem_pairRuns paired
  obtain ⟨before, after, shape, place, _, _, apart⟩ := mem_tickRuns_iff.mp opening
  obtain ⟨before', after', shape', place', _, apart', _⟩ := mem_tickRuns_iff.mp closing
  rw [single] at same
  rw [codeSpan_eq, single] at shape
  rw [codeSpan_eq, same] at shape'
  refine ⟨present, ?_, ?_⟩
  · obtain rfl : before = [] := List.length_eq_zero_iff.mp (place.trans opens)
    have behind : after = content ++ ['`'] := by
      simpa using shape.symm
    rw [behind, List.head?_append_of_ne_nil _ present] at apart
    exact apart
  · have nothing : after' = [] := by
      have lengths := congrArg List.length shape'
      rw [length_codeSpan] at closes
      simp only [TickRun.finish, List.length_append, List.length_cons, List.length_nil,
        List.length_replicate] at lengths closes
      exact List.length_eq_zero_iff.mp (by omega)
    rw [nothing, List.append_nil, ← List.cons_append] at shape'
    have inFront : before' = '`' :: content := (List.append_inj_left' shape' rfl).symm
    rw [inFront, List.getLast?_cons_of_ne_nil present] at apart'
    exact apart'

/-- What is read back from between single backticks can stand there. -/
theorem fits_of_readsAsCode {content : Text}
    (reads : ReadsAsCode (codeSpan content) content) : FitsSingleTicks content := by
  obtain ⟨span, first, opens, closes, holds⟩ := reads
  obtain ⟨present, start, finish⟩ := ends_of_readsAsCode first opens closes holds
  refine ⟨present, start, finish, ?_⟩
  intro lone
  have closed : 1 ∈ (tickRunsFrom 0 1 content).map (·.length) := by
    rw [map_length_tickRunsFrom]
    exact lone
  -- The span ends at the lone backtick already, in front of the closing one.
  obtain ⟨closing, among, early⟩ :=
    @exists_head?_pairRuns ⟨0, 1⟩ _ closed [⟨content.length + 1, 1⟩]
  rw [codeSpans_codeSpan present start finish, early] at first
  cases first
  have within := within_of_mem_tickRunsFrom_zero among
  rw [length_codeSpan] at closes
  simp only [TickRun.Within] at within
  change closing.finish = _ at closes
  omega

/-- What can stand between single backticks is read back from there. -/
theorem readsAsCode_of_fits {content : Text} (fits : FitsSingleTicks content) :
    ReadsAsCode (codeSpan content) content := by
  have spans := codeSpans_codeSpan fits.present fits.start fits.finish
  obtain ⟨closing, among, first⟩ :=
    @exists_head?_pairRuns ⟨0, 1⟩
      (tickRunsFrom 0 1 content ++ [⟨content.length + 1, 1⟩]) (by simp) []
  rw [List.append_nil, ← spans] at first
  have same : closing.length = 1 :=
    length_eq_of_mem_pairRuns (List.mem_of_head? first)
  have last : closing = ⟨content.length + 1, 1⟩ := by
    rcases List.mem_append.mp among with earlier | isLast
    · have lone := List.mem_map_of_mem (f := fun run : TickRun => run.length) earlier
      rw [same, map_length_tickRunsFrom] at lone
      exact absurd lone fits.no_lone
    · exact List.mem_singleton.mp isLast
  subst last
  refine ⟨_, first, rfl, ?_, ?_⟩
  · rw [length_codeSpan]
    rfl
  · simp [spanContent, codeSpan_eq, TickRun.finish]

theorem readsAsCode_codeSpan_iff {content : Text} :
    ReadsAsCode (codeSpan content) content ↔ FitsSingleTicks content :=
  ⟨fits_of_readsAsCode, readsAsCode_of_fits⟩

end Markdown

open Markdown Markup Text

/-! ### References and inline code -/

theorem Markup.Node.shownText_of_solidTarget? {name : Name} {attributes : List Attribute}
    {children : List Node} {target : Text}
    (named : (Node.element name attributes children).solidTarget? = some target)
    (textless : (Node.element name attributes children).elementText.isBlank = true) :
    (Node.element name attributes children).shownText = codeSpan target.dropKindMark := by
  have held : isBlank (Node.shownTexts children) = true := textless
  rw [Node.shownText, Node.resolvedText_target?, held, if_pos rfl, named]
  rfl

theorem Section.block_inlineCode (level : Nat) (language text : Text) :
    (passage .inlineCode text).block level language = codeSpan text := by
  change trim (codeSpan text) = codeSpan text
  rw [codeSpan_eq]
  exact trim_eq_self (trimmed_between (by decide) (by decide) text)

/-- What is written as inline code, and the content meant by it: a reference without a
text of its own stands for the name of its target, and a section of inline code for its
text. -/
inductive WrittenAsCode : (line content : Text) → Prop
  | reference {name : Name} {attributes : List Attribute} {children : List Node}
      {target : Text} :
      (Node.element name attributes children).solidTarget? = some target →
      (Node.element name attributes children).elementText.isBlank = true →
      WrittenAsCode (Node.element name attributes children).shownText
        target.dropKindMark
  | passage (level : Nat) (language text : Text) :
      WrittenAsCode ((Section.passage .inlineCode text).block level language) text

/-- Inline code is written between single backticks, whatever it is written for. -/
theorem WrittenAsCode.eq_codeSpan {line content : Text}
    (written : WrittenAsCode line content) : line = codeSpan content := by
  cases written with
  | reference named textless =>
      exact Node.shownText_of_solidTarget? named textless
  | passage level language =>
      exact Section.block_inlineCode level language content

/-- Inline code is read back as the content meant by it exactly if this can stand between
single backticks. -/
theorem inlineCode_readsAsCode_iff {line content : Text}
    (written : WrittenAsCode line content) :
    ReadsAsCode line content ↔ FitsSingleTicks content := by
  rw [written.eq_codeSpan]
  exact readsAsCode_codeSpan_iff

def referenceTo (rawName : String) : Node :=
  .element ⟨none, "see".toList⟩ [⟨⟨none, "cref".toList⟩, rawName.toList⟩] []

/-- A reference with no children has no text of its own, so its target is shown. -/
theorem referenceTo_writtenAsCode {rawName : String} {target : Text}
    (named : (referenceTo rawName).solidTarget? = some target) :
    WrittenAsCode (referenceTo rawName).shownText target.dropKindMark :=
  WrittenAsCode.reference named rfl

theorem inlineCode_readsAsCode_iff_circle :
    WrittenAsCode (referenceTo " T:Shapes.Circle ").shownText "Shapes.Circle".toList ∧
      ReadsAsCode (referenceTo " T:Shapes.Circle ").shownText "Shapes.Circle".toList := by
  have named :
      (referenceTo " T:Shapes.Circle ").solidTarget? = some "T:Shapes.Circle".toList := by
    decide +kernel
  have written :
      WrittenAsCode (referenceTo " T:Shapes.Circle ").shownText "Shapes.Circle".toList :=
    referenceTo_writtenAsCode named
  have fits : FitsSingleTicks "Shapes.Circle".toList := by
    constructor <;> decide +kernel
  exact ⟨written, (inlineCode_readsAsCode_iff written).mpr fits⟩

/-- A lone backtick within the name of a generic type, and a target that consists of the
mark of its kind alone, are not read back, and neither is such a text as inline code. -/
theorem inlineCode_misread :
    WrittenAsCode (referenceTo "T:List`1").shownText "List`1".toList ∧
      ¬ ReadsAsCode (referenceTo "T:List`1").shownText "List`1".toList ∧
      WrittenAsCode (referenceTo "T:").shownText [] ∧
      ¬ ReadsAsCode (referenceTo "T:").shownText [] ∧
      Section.ofTag "c".toList none "List`1".toList = .passage .inlineCode "List`1".toList ∧
      ¬ ReadsAsCode
          ((Section.passage .inlineCode "List`1".toList).block 3 "csharp".toList)
          "List`1".toList := by
  have generic : ¬ ReadsAsCode (codeSpan "List`1".toList) "List`1".toList := by
    rw [readsAsCode_codeSpan_iff]
    rintro ⟨_, _, _, noLone⟩
    exact noLone (by decide)
  have nameless : ¬ ReadsAsCode (codeSpan []) [] := by
    rw [readsAsCode_codeSpan_iff]
    rintro ⟨present, _, _, _⟩
    exact present rfl
  have toList : (referenceTo "T:List`1").solidTarget? = some "T:List`1".toList := by
    decide +kernel
  have toNothing : (referenceTo "T:").solidTarget? = some "T:".toList := by
    decide +kernel
  have shownList :
      WrittenAsCode (referenceTo "T:List`1").shownText "List`1".toList :=
    referenceTo_writtenAsCode toList
  have shownNothing : WrittenAsCode (referenceTo "T:").shownText [] :=
    referenceTo_writtenAsCode toNothing
  refine ⟨shownList, ?_, shownNothing, ?_, by decide +kernel, ?_⟩
  · rw [shownList.eq_codeSpan]
    exact generic
  · rw [shownNothing.eq_codeSpan]
    exact nameless
  · rw [Section.block_inlineCode]
    exact generic

end ApiReference
