import ApiReference.Proofs.AllOrNothing
import ApiReference.Proofs.Fences
import Mathlib.Data.List.Forall2
import Mathlib.Data.List.Infix

/-! ## Documents around the language of code

The language of code is written behind opening fences and nowhere else. All else in a
document is settled before the language is chosen. So a document is a list of texts with
the language between any two of them, one text more than there are sections of code that
are worth writing. -/

namespace ApiReference

open Text

namespace Markdown

/-! ### Blocks without their language -/

/-- A block of a document before the language of code is chosen. -/
inductive BlockPlan
  | settled (block : Text)
  | code (text : Text)

namespace BlockPlan

def block (language : Text) : BlockPlan → Text
  | settled block => block
  | code text => fencedCode language text

def code? : BlockPlan → Option Text
  | settled _ => none
  | code text => some text

end BlockPlan

/-- What a block of code has behind its language, up to the next block. -/
def behindLanguage (code : Text) : Text :=
  ['\n'] ++ code ++ "\n```\n\n".toList

theorem separated_fencedCode (language code : Text) :
    separated (fencedCode language code) = fence ++ language ++ behindLanguage code := by
  simp [separated, fencedCode, fence, behindLanguage]

/-! ### Texts around the language -/

/-- The texts around the places of the language in a row of blocks. What was written
since the last such place is `before`. -/
def textsAround (before : Text) : List BlockPlan → List Text
  | [] => [before]
  | .settled block :: others => textsAround (before ++ separated block) others
  | .code text :: others => (before ++ fence) :: textsAround (behindLanguage text) others

/-- The first of the texts starts with what was written before. -/
theorem exists_first_textsAround (plans : List BlockPlan) : ∀ before,
    ∃ first later, textsAround before plans = first :: later ∧ before <+: first := by
  induction plans with
  | nil =>
      intro before
      exact ⟨before, [], rfl, List.prefix_rfl⟩
  | cons plan others inductionHypothesis =>
      intro before
      cases plan with
      | settled block =>
          obtain ⟨first, later, same, starts⟩ :=
            inductionHypothesis (before ++ separated block)
          exact ⟨first, later, same, (List.prefix_append _ _).trans starts⟩
      | code text =>
          exact ⟨before ++ fence, _, rfl, List.prefix_append before fence⟩

/-- With a language between them, the texts are the blocks in that language. -/
theorem intercalate_textsAround (language : Text) (plans : List BlockPlan) : ∀ before,
    language.intercalate (textsAround before plans) =
      before ++ plans.flatMap fun plan => separated (plan.block language) := by
  induction plans with
  | nil =>
      intro before
      rw [textsAround, List.intercalate_singleton, List.flatMap_nil, List.append_nil]
  | cons plan others inductionHypothesis =>
      intro before
      cases plan with
      | settled block =>
          rw [textsAround, inductionHypothesis, List.flatMap_cons, List.append_assoc]
          rfl
      | code text =>
          obtain ⟨first, later, same, _⟩ :=
            exists_first_textsAround others (behindLanguage text)
          rw [textsAround, same, List.intercalate_cons_cons, ← same, inductionHypothesis,
            List.flatMap_cons, BlockPlan.block, separated_fencedCode]
          simp only [List.append_assoc]

example :
    textsAround "## Doc\n\n".toList [.settled "Turns.".toList, .code "a.Turn()".toList] =
      ["## Doc\n\nTurns.\n\n```".toList, "\na.Turn()\n```\n\n".toList] := by
  decide +kernel

/-- Texts that stand around one place for each of the codes: in front of the place they
end with a fence on a line of its own below a blank line, and behind it they go on with
the code and the fence that closes it. -/
structure AroundCode (codes texts : List Text) : Prop where
  length_eq : texts.length = codes.length + 1
  opened : ∀ text ∈ texts.dropLast, "\n\n```".toList <:+ text
  closed : List.Forall₂
    (fun code text => ['\n'] ++ code ++ "\n```\n\n".toList <+: text) codes texts.tail

theorem aroundCode_singleton (text : Text) : AroundCode [] [text] := by
  refine ⟨rfl, ?_, List.Forall₂.nil⟩
  intro other absent
  cases absent

theorem AroundCode.cons {code text next : Text} {codes later : List Text}
    (around : AroundCode codes (next :: later)) (opens : "\n\n```".toList <:+ text)
    (closes : behindLanguage code <+: next) :
    AroundCode (code :: codes) (text :: next :: later) := by
  constructor
  · rw [List.length_cons, around.length_eq, List.length_cons]
  · intro other present
    rw [List.dropLast_cons_of_ne_nil (List.cons_ne_nil next later)] at present
    rcases List.mem_cons.mp present with isFirst | among
    · rw [isFirst]
      exact opens
    · exact around.opened other among
  · exact List.Forall₂.cons closes around.closed

theorem blankLine_suffix_separated (before block : Text) :
    "\n\n".toList <:+ before ++ separated block := by
  rw [separated, ← List.append_assoc]
  exact List.suffix_append _ _

theorem blankLine_suffix_behindLanguage (code : Text) :
    "\n\n".toList <:+ behindLanguage code :=
  ⟨['\n'] ++ code ++ "\n```".toList, by simp [behindLanguage]⟩

/-- Each block leaves a blank line in front of the next, so that no fence stands within a
line. -/
theorem aroundCode_textsAround (plans : List BlockPlan) : ∀ before,
    "\n\n".toList <:+ before →
      AroundCode (plans.filterMap (·.code?)) (textsAround before plans) := by
  induction plans with
  | nil =>
      intro before _
      exact aroundCode_singleton before
  | cons plan others inductionHypothesis =>
      intro before blankLine
      cases plan with
      | settled block =>
          exact inductionHypothesis _ (blankLine_suffix_separated before block)
      | code text =>
          obtain ⟨first, later, same, starts⟩ :=
            exists_first_textsAround others (behindLanguage text)
          have around :=
            inductionHypothesis (behindLanguage text) (blankLine_suffix_behindLanguage text)
          rw [same] at around
          rw [textsAround, same]
          obtain ⟨start, split⟩ := blankLine
          apply around.cons _ starts
          refine ⟨start, ?_⟩
          rw [← split, List.append_assoc]
          rfl

end Markdown

open Markdown

/-! ### Sections, members and catalogs -/

namespace Section

/-- The text of a section of code, unless it is empty. -/
def code? : Section → Option Text
  | passage .code text => if text.isEmpty then none else some text
  | _ => none

def plan (level : Nat) : Section → BlockPlan
  | passage .code text => .code text
  | part => .settled (part.block level [])

/-- A plan leads to the block of its section once the language is chosen. -/
theorem block_plan (level : Nat) (language : Text) (part : Section) :
    (part.plan level).block language = part.block level language := by
  cases part with
  | passage role text =>
      cases role with
      | code =>
          exact (block_code level language text).symm
      | _ =>
          rfl
  | _ =>
      rfl

theorem code?_plan (level : Nat) (part : Section) :
    (if !part.isEmpty then (part.plan level).code? else none) = part.code? := by
  cases part with
  | passage role text =>
      cases role with
      | code =>
          cases empty : text.isEmpty <;> simp [isEmpty, plan, code?, BlockPlan.code?, empty]
      | _ =>
          exact ite_self none
  | _ =>
      exact ite_self none

end Section

namespace Member

def codes (member : Member) : List Text :=
  member.sections.filterMap (·.code?)

def plans (member : Member) : List BlockPlan :=
  (if member.givenName.isNone then [.settled member.plainHeading] else []) ++
    member.writtenSections.map (·.plan member.headingDepth)

theorem map_block_plans (member : Member) (language : Text) :
    member.plans.map (·.block language) = member.blocks language := by
  have heading :
      (if member.givenName.isNone then [BlockPlan.settled member.plainHeading] else []).map
          (·.block language) =
        if member.givenName.isNone then [member.plainHeading] else [] := by
    split <;> rfl
  rw [plans, blocks, List.map_append, heading, List.map_map]
  congr 2
  funext part
  exact part.block_plan member.headingDepth language

theorem filterMap_code?_plans (member : Member) :
    member.plans.filterMap (·.code?) = member.codes := by
  have noneInHeading :
      (if member.givenName.isNone then [BlockPlan.settled member.plainHeading]
          else []).filterMap (·.code?) = [] := by
    split <;> rfl
  rw [plans, List.filterMap_append, noneInHeading, List.nil_append, List.filterMap_map,
    writtenSections, List.filterMap_filter, codes]
  congr 1
  funext part
  exact part.code?_plan member.headingDepth

end Member

namespace Catalog

def codes (catalog : Catalog) : List Text :=
  catalog.members.flatMap (·.codes)

def plans (catalog : Catalog) : List BlockPlan :=
  catalog.members.flatMap (·.plans)

def opening (catalog : Catalog) : Text :=
  catalog.titleBlock ++ heading 2 "Features List".toList ++ ['\n'] ++
    catalog.featureList ++ ['\n'] ++ separated (heading 2 "Doc".toList)

theorem filterMap_code?_plans (catalog : Catalog) :
    catalog.plans.filterMap (·.code?) = catalog.codes := by
  rw [plans, List.filterMap_flatMap]
  simp only [Member.filterMap_code?_plans]
  rfl

theorem documentation_eq_flatMap_plans (catalog : Catalog) (language : Text) :
    catalog.documentation language =
      catalog.plans.flatMap fun plan => separated (plan.block language) := by
  have ofMember (member : Member) :
      member.documentation language =
        member.plans.flatMap fun plan => separated (plan.block language) := by
    rw [Member.documentation, ← member.map_block_plans, List.flatMap_map]
  rw [documentation, plans, List.flatMap_assoc]
  simp only [ofMember]

/-- A document is the language between texts that do not depend on it. -/
theorem toMarkdown_eq_intercalate (catalog : Catalog) (language : Text) :
    catalog.toMarkdown language =
      language.intercalate (textsAround catalog.opening catalog.plans) := by
  rw [intercalate_textsAround, ← documentation_eq_flatMap_plans]
  rfl

end Catalog

theorem Conversion.notices_writeDocument {σ : Type} (files : FileAccess (StateM σ))
    (options : Options) (catalog : Catalog) (before : σ) :
    ((writeDocument files options catalog).run before).1.notices =
      catalog.writingNotices ++ [.creating options.destination] := by
  cases ran : (writeDocument files options catalog).run before with
  | mk report after =>
      obtain ⟨done, written, _, rest⟩ := exists_of_run_bind ran
      cases done with
      | false =>
          cases rest
          rfl
      | true =>
          cases rest
          rfl

/-- The language of code decides nothing in a document but what is written behind the
opening fences: with the language between them, texts that do not depend on it make the
document. Without any code that is worth writing there is one such text only, and all
languages make the same document. The notices on writing a document do not depend on the
language either. -/
theorem toMarkdown_around_language (catalog : Catalog) :
    (∃ texts, AroundCode catalog.codes texts ∧
        ∀ language : Text, catalog.toMarkdown language = language.intercalate texts) ∧
      (catalog.codes = [] → ∀ language other : Text,
        catalog.toMarkdown language = catalog.toMarkdown other) ∧
      ∀ (σ : Type) (files : FileAccess (StateM σ)) (options : Options) (before : σ)
          (language : Text),
        ((Conversion.writeDocument files { options with language := language } catalog).run
            before).1.notices =
          catalog.writingNotices ++ [.creating options.destination] := by
  have blankLine : "\n\n".toList <:+ catalog.opening := blankLine_suffix_separated _ _
  have around : AroundCode catalog.codes (textsAround catalog.opening catalog.plans) := by
    rw [← catalog.filterMap_code?_plans]
    exact aroundCode_textsAround catalog.plans _ blankLine
  refine ⟨⟨_, around, catalog.toMarkdown_eq_intercalate⟩, ?_, ?_⟩
  · intro codeless language other
    have single := around.length_eq
    rw [codeless, List.length_nil, Nat.zero_add] at single
    obtain ⟨text, alone⟩ := List.length_eq_one_iff.mp single
    rw [catalog.toMarkdown_eq_intercalate, catalog.toMarkdown_eq_intercalate, alone,
      List.intercalate_singleton, List.intercalate_singleton]
  · intro σ files options before language
    exact Conversion.notices_writeDocument files _ catalog before

/-- A class with code that is blank and code that is a fence, a text of a tag without a
layout, and code that is empty. -/
def coneClass : Member :=
  ⟨.classType, "Cone".toList, by decide,
    [.passage .code " ".toList, .other "note".toList "cs".toList, .passage .code [],
      .passage .code fence]⟩

def coneCatalog : Catalog :=
  ⟨some "Solids".toList, [⟨some coneClass, []⟩]⟩

def coneMethod : Member :=
  ⟨.method, "Cone.Tip".toList, by decide, [.passage .code [], .passage .inlineCode [' ']]⟩

def codelessCatalog : Catalog :=
  ⟨none, [⟨none, [coneMethod]⟩]⟩

theorem toMarkdown_around_language_cone :
    (∃ texts, AroundCode [" ".toList, fence] texts ∧
        coneCatalog.toMarkdown "\n` ".toList = "\n` ".toList.intercalate texts) ∧
      codelessCatalog.codes = [] ∧
      codelessCatalog.toMarkdown [] = codelessCatalog.toMarkdown "\n` ".toList ∧
      ((Conversion.writeDocument Store.access ⟨"in".toList, none, "\n` ".toList, false⟩
          coneCatalog).run ⟨[], []⟩).1.notices =
        [.plain "note".toList, .creating "in.md".toList] := by
  have codes : coneCatalog.codes = [" ".toList, fence] := by
    decide +kernel
  have codeless : codelessCatalog.codes = [] := by
    decide +kernel
  have noted : coneCatalog.writingNotices = [.plain "note".toList] := by
    decide +kernel
  obtain ⟨⟨texts, around, same⟩, _, notices⟩ := toMarkdown_around_language coneCatalog
  obtain ⟨_, alike, _⟩ := toMarkdown_around_language codelessCatalog
  rw [codes] at around
  refine ⟨⟨texts, around, same _⟩, codeless, alike codeless _ _, ?_⟩
  have written :=
    notices Store Store.access (Options.ofInput "in".toList) ⟨[], []⟩ "\n` ".toList
  rw [noted] at written
  exact written.trans (by decide +kernel)

end ApiReference
