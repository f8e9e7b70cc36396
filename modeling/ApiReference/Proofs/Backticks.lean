import ApiReference.Text.Basic

/-! ## Backticks as Markdown reads them

Markdown takes the backticks of a line in runs as long as possible and pairs the runs
from left to right. A run opens a span of code if a run of the same length comes later,
and the first such run closes it; what stands between them is code, runs of other
lengths included. All this is settled before links are looked for. -/

namespace ApiReference.Markdown

/-- A run of backticks, with the number of characters in front of it. -/
structure TickRun where
  start : Nat
  length : Nat
deriving DecidableEq, Repr

def TickRun.finish (run : TickRun) : Nat :=
  run.start + run.length

/-- Whether a run lies in the `length` characters from `start` on. -/
def TickRun.Within (start length : Nat) (run : TickRun) : Prop :=
  start ≤ run.start ∧ run.finish ≤ start + length

/-- The run that ends at `offset`, if `pending` backticks stand right in front. -/
def endedRun (pending offset : Nat) : List TickRun :=
  if pending = 0 then [] else [⟨offset - pending, pending⟩]

/-- The runs of backticks in a text that starts at `offset`, right behind `pending`
backticks. -/
def tickRunsFrom (pending offset : Nat) : Text → List TickRun
  | [] => endedRun pending offset
  | c :: rest =>
    if c = '`' then tickRunsFrom (pending + 1) (offset + 1) rest
    else endedRun pending offset ++ tickRunsFrom 0 (offset + 1) rest

def tickRuns (text : Text) : List TickRun :=
  tickRunsFrom 0 0 text

/-- The pairs of runs, from left to right. `opening` is the run that waits to be
closed; a run waits only if it will be. -/
def pairRuns : (opening : Option TickRun) → List TickRun → List (TickRun × TickRun)
  | _, [] => []
  | none, run :: later =>
    if run.length ∈ later.map (·.length) then pairRuns (some run) later
    else pairRuns none later
  | some opening, run :: later =>
    if run.length = opening.length then (opening, run) :: pairRuns none later
    else pairRuns (some opening) later

/-- The spans of code in a line: the runs that open and close them. -/
def codeSpans (line : Text) : List (TickRun × TickRun) :=
  pairRuns none (tickRuns line)

/-! ### Runs -/

@[simp]
theorem endedRun_zero (offset : Nat) : endedRun 0 offset = [] :=
  rfl

theorem tickRunsFrom_tick (pending offset : Nat) (rest : Text) :
    tickRunsFrom pending offset ('`' :: rest) =
      tickRunsFrom (pending + 1) (offset + 1) rest :=
  rfl

theorem tickRunsFrom_other {c : Char} (other : c ≠ '`') (pending offset : Nat)
    (rest : Text) :
    tickRunsFrom pending offset (c :: rest) =
      endedRun pending offset ++ tickRunsFrom 0 (offset + 1) rest := by
  rw [tickRunsFrom, if_neg other]

/-- No run goes on beyond a character that is no backtick. -/
theorem tickRunsFrom_append {c : Char} (other : c ≠ '`') (front back : Text) :
    ∀ pending offset,
      tickRunsFrom pending offset (front ++ c :: back) =
        tickRunsFrom pending offset front ++
          tickRunsFrom 0 (offset + front.length + 1) back := by
  induction front with
  | nil =>
      intro pending offset
      exact tickRunsFrom_other other pending offset back
  | cons first rest inductionHypothesis =>
      intro pending offset
      have moved : offset + 1 + rest.length = offset + (first :: rest).length := by
        simp only [List.length_cons]
        omega
      by_cases isTick : first = '`'
      · subst isTick
        rw [List.cons_append, tickRunsFrom_tick, tickRunsFrom_tick, inductionHypothesis,
          moved]
      · rw [List.cons_append, tickRunsFrom_other isTick, tickRunsFrom_other isTick,
          inductionHypothesis, moved, List.append_assoc]

theorem tickRunsFrom_eq_nil {text : Text} (tickless : '`' ∉ text) :
    ∀ offset, tickRunsFrom 0 offset text = [] := by
  induction text with
  | nil =>
      intro offset
      rfl
  | cons c rest inductionHypothesis =>
      intro offset
      have other : c ≠ '`' := fun isTick => tickless (isTick ▸ List.mem_cons_self)
      have later : '`' ∉ rest := fun present => tickless (List.mem_cons_of_mem c present)
      rw [tickRunsFrom_other other, inductionHypothesis later, endedRun_zero,
        List.append_nil]

/-- A run lies in the text, or starts with the backticks in front of it. -/
theorem within_of_mem_tickRunsFrom {text : Text} {run : TickRun} :
    ∀ {pending offset : Nat}, pending ≤ offset →
      run ∈ tickRunsFrom pending offset text →
        run.Within (offset - pending) (pending + text.length) := by
  have ended : ∀ {pending offset : Nat}, pending ≤ offset →
      run ∈ endedRun pending offset → ∀ more,
        run.Within (offset - pending) (pending + more) := by
    intro pending offset fits present more
    unfold endedRun at present
    split at present
    · cases present
    · obtain rfl := List.mem_singleton.mp present
      simp only [TickRun.Within, TickRun.finish]
      omega
  induction text with
  | nil =>
      intro pending offset fits present
      exact ended fits present 0
  | cons c rest inductionHypothesis =>
      intro pending offset fits present
      rw [tickRunsFrom] at present
      split at present
      · have within := inductionHypothesis (Nat.succ_le_succ fits) present
        simp only [TickRun.Within, List.length_cons] at within ⊢
        omega
      · rcases List.mem_append.mp present with now | later
        · exact ended fits now _
        · have within := inductionHypothesis (Nat.zero_le _) later
          simp only [TickRun.Within, List.length_cons] at within ⊢
          omega

theorem within_of_mem_tickRunsFrom_zero {text : Text} {run : TickRun} {offset : Nat}
    (present : run ∈ tickRunsFrom 0 offset text) : run.Within offset text.length := by
  simpa using within_of_mem_tickRunsFrom (Nat.zero_le offset) present

/-- Whether a run is one of a text: backticks at the place it tells, with no backtick
right in front or right behind. -/
def TickRun.IsIn (text : Text) (run : TickRun) : Prop :=
  ∃ before after,
    text = before ++ List.replicate run.length '`' ++ after ∧
      before.length = run.start ∧ 0 < run.length ∧
      before.getLast? ≠ some '`' ∧ after.head? ≠ some '`'

theorem isIn_of_mem_endedRun {front after : Text} {pending : Nat} {run : TickRun}
    (apartFront : front.getLast? ≠ some '`') (apartAfter : after.head? ≠ some '`')
    (ended : run ∈ endedRun pending (front.length + pending)) :
    run.IsIn (front ++ List.replicate pending '`' ++ after) := by
  unfold endedRun at ended
  split at ended
  next =>
    cases ended
  next positive =>
    obtain rfl := List.mem_singleton.mp ended
    have start : front.length = front.length + pending - pending := by
      omega
    exact ⟨front, after, rfl, start, Nat.pos_of_ne_zero positive, apartFront, apartAfter⟩

/-- A run that is found is one of the whole text, what stands in front included. -/
theorem isIn_of_mem_tickRunsFrom {text : Text} {run : TickRun} :
    ∀ {front : Text} {pending : Nat}, front.getLast? ≠ some '`' →
      run ∈ tickRunsFrom pending (front.length + pending) text →
        run.IsIn (front ++ List.replicate pending '`' ++ text) := by
  induction text with
  | nil =>
      intro front pending apart present
      exact isIn_of_mem_endedRun apart (by simp) present
  | cons c rest inductionHypothesis =>
      intro front pending apart present
      by_cases isTick : c = '`'
      · subst isTick
        have grown := inductionHypothesis apart present
        simpa [List.replicate_succ'] using grown
      · rw [tickRunsFrom_other isTick] at present
        rcases List.mem_append.mp present with ended | later
        · exact isIn_of_mem_endedRun apart (by simpa using isTick) ended
        · -- What was read so far, this character included, stands in front now.
          have moved : front.length + pending + 1 =
              (front ++ List.replicate pending '`' ++ [c]).length + 0 := by
            simp only [List.length_append, List.length_replicate, List.length_singleton,
              Nat.add_zero]
          rw [moved] at later
          have found := inductionHypothesis (by simpa using isTick) later
          simpa using found

theorem tickRunsFrom_replicate (after : Text) (more : Nat) :
    ∀ pending offset,
      tickRunsFrom pending offset (List.replicate more '`' ++ after) =
        tickRunsFrom (pending + more) (offset + more) after := by
  induction more with
  | zero =>
      intro pending offset
      rfl
  | succ more inductionHypothesis =>
      intro pending offset
      have sum : ∀ start, start + 1 + more = start + (more + 1) := by
        omega
      rw [List.replicate_succ, List.cons_append, tickRunsFrom_tick,
        inductionHypothesis, sum, sum]

/-- Backticks with none right behind are a run. -/
theorem mem_tickRunsFrom_replicate {run : TickRun} {after : Text}
    (positive : 0 < run.length) (apart : after.head? ≠ some '`') :
    run ∈ tickRunsFrom 0 run.start (List.replicate run.length '`' ++ after) := by
  have itself : run ∈ endedRun run.length (run.start + run.length) := by
    simp [endedRun, Nat.ne_of_gt positive]
  rw [tickRunsFrom_replicate, Nat.zero_add]
  cases after with
  | nil =>
      exact itself
  | cons c rest =>
      have other : c ≠ '`' := by
        simpa using apart
      rw [tickRunsFrom_other other]
      exact List.mem_append_left _ itself

/-- The runs that are found in a text are its runs of backticks, and all of these. -/
theorem mem_tickRuns_iff {text : Text} {run : TickRun} :
    run ∈ tickRuns text ↔ run.IsIn text := by
  constructor
  · intro present
    exact @isIn_of_mem_tickRunsFrom text run [] 0 (by simp) present
  · rintro ⟨before, after, rfl, start, positive, apartBefore, apartAfter⟩
    have first := mem_tickRunsFrom_replicate positive apartAfter
    rw [tickRuns, List.append_assoc]
    rcases List.eq_nil_or_concat before with rfl | ⟨front, c, rfl⟩
    · rw [← start] at first
      exact first
    · rw [List.concat_eq_append] at start apartBefore ⊢
      have other : c ≠ '`' := by
        simpa using apartBefore
      rw [List.append_assoc, List.singleton_append, tickRunsFrom_append other]
      apply List.mem_append_right
      rw [← start, List.length_append, List.length_singleton] at first
      simpa using first

/-! ### Lengths of runs -/

/-- The lengths of the runs in a text that stands right behind `pending` backticks. They
do not depend on where the text starts. -/
def runLengthsFrom (pending : Nat) : Text → List Nat
  | [] => if pending = 0 then [] else [pending]
  | c :: rest =>
    if c = '`' then runLengthsFrom (pending + 1) rest
    else (if pending = 0 then [] else [pending]) ++ runLengthsFrom 0 rest

def runLengths (text : Text) : List Nat :=
  runLengthsFrom 0 text

theorem runLengthsFrom_other {c : Char} (other : c ≠ '`') (pending : Nat) (rest : Text) :
    runLengthsFrom pending (c :: rest) =
      (if pending = 0 then [] else [pending]) ++ runLengthsFrom 0 rest := by
  rw [runLengthsFrom, if_neg other]

theorem runLengthsFrom_append {piece : Text} (tickless : '`' ∉ piece) (rest : Text) :
    runLengthsFrom 0 (piece ++ rest) = runLengthsFrom 0 rest := by
  induction piece with
  | nil =>
      rfl
  | cons c others inductionHypothesis =>
      have other : c ≠ '`' := fun isTick => tickless (isTick ▸ List.mem_cons_self)
      have later : '`' ∉ others := fun present =>
        tickless (List.mem_cons_of_mem c present)
      rw [List.cons_append, runLengthsFrom_other other, inductionHypothesis later]
      rfl

/-- A piece without backticks ends the run in front of it. -/
theorem runLengthsFrom_tickless {piece : Text} (present : piece ≠ [])
    (tickless : '`' ∉ piece) (pending : Nat) (rest : Text) :
    runLengthsFrom pending (piece ++ rest) =
      (if pending = 0 then [] else [pending]) ++ runLengthsFrom 0 rest := by
  obtain ⟨c, others, rfl⟩ := List.exists_cons_of_ne_nil present
  have other : c ≠ '`' := fun isTick => tickless (isTick ▸ List.mem_cons_self)
  have later : '`' ∉ others := fun inOthers => tickless (List.mem_cons_of_mem c inOthers)
  rw [List.cons_append, runLengthsFrom_other other, runLengthsFrom_append later]

theorem map_length_endedRun (pending offset : Nat) :
    (endedRun pending offset).map (·.length) = if pending = 0 then [] else [pending] := by
  unfold endedRun
  split <;> rfl

/-- The lengths of the runs do not depend on where the text starts. -/
theorem map_length_tickRunsFrom (text : Text) :
    ∀ pending offset,
      (tickRunsFrom pending offset text).map (·.length) = runLengthsFrom pending text := by
  induction text with
  | nil =>
      exact map_length_endedRun
  | cons c rest inductionHypothesis =>
      intro pending offset
      rw [tickRunsFrom, runLengthsFrom]
      split
      · exact inductionHypothesis _ _
      · rw [List.map_append, map_length_endedRun, inductionHypothesis]

/-! ### Pairs -/

theorem mem_of_mem_pairRuns {opening : Option TickRun} {runs : List TickRun}
    {span : TickRun × TickRun} (paired : span ∈ pairRuns opening runs) :
    span.1 ∈ opening.toList ++ runs ∧ span.2 ∈ runs := by
  fun_induction pairRuns opening runs with
  | case1 =>
      cases paired
  | case2 run later closes inductionHypothesis =>
      obtain ⟨first, second⟩ := inductionHypothesis paired
      exact ⟨first, List.mem_cons_of_mem run second⟩
  | case3 run later opensNothing inductionHypothesis =>
      obtain ⟨first, second⟩ := inductionHypothesis paired
      exact ⟨List.mem_cons_of_mem run first, List.mem_cons_of_mem run second⟩
  | case4 opening run later same inductionHypothesis =>
      rcases List.mem_cons.mp paired with rfl | isLater
      · exact ⟨List.mem_cons_self, List.mem_cons_self⟩
      · obtain ⟨first, second⟩ := inductionHypothesis isLater
        have beyond : span.1 ∈ run :: later := List.mem_cons_of_mem run first
        exact ⟨List.mem_cons_of_mem opening beyond, List.mem_cons_of_mem run second⟩
  | case5 opening run later different inductionHypothesis =>
      obtain ⟨first, second⟩ := inductionHypothesis paired
      have widened : span.1 = opening ∨ span.1 ∈ run :: later :=
        (List.mem_cons.mp first).imp_right (List.mem_cons_of_mem run)
      exact ⟨List.mem_cons.mpr widened, List.mem_cons_of_mem run second⟩

/-- Runs are paired with runs of their own length. -/
theorem length_eq_of_mem_pairRuns {opening : Option TickRun} {runs : List TickRun}
    {span : TickRun × TickRun} (paired : span ∈ pairRuns opening runs) :
    span.2.length = span.1.length := by
  fun_induction pairRuns opening runs with
  | case1 =>
      cases paired
  | case2 run later closes inductionHypothesis =>
      exact inductionHypothesis paired
  | case3 run later opensNothing inductionHypothesis =>
      exact inductionHypothesis paired
  | case4 opening run later same inductionHypothesis =>
      rcases List.mem_cons.mp paired with rfl | isLater
      · exact same
      · exact inductionHypothesis isLater
  | case5 opening run later different inductionHypothesis =>
      exact inductionHypothesis paired

/-- A run that waits is closed by the first run of its length. -/
theorem exists_head?_pairRuns {opening : TickRun} {front : List TickRun}
    (closed : opening.length ∈ front.map (·.length)) (back : List TickRun) :
    ∃ closing ∈ front,
      (pairRuns (some opening) (front ++ back)).head? = some (opening, closing) := by
  induction front with
  | nil =>
      simp at closed
  | cons run later inductionHypothesis =>
      by_cases same : run.length = opening.length
      · refine ⟨run, List.mem_cons_self, ?_⟩
        rw [List.cons_append, pairRuns, if_pos same, List.head?_cons]
      · have closedLater : opening.length ∈ later.map (·.length) := by
          rw [List.map_cons] at closed
          exact (List.mem_cons.mp closed).resolve_left (Ne.symm same)
        obtain ⟨closing, present, paired⟩ := inductionHypothesis closedLater
        refine ⟨closing, List.mem_cons_of_mem run present, ?_⟩
        rw [List.cons_append, pairRuns, if_neg same]
        exact paired

/-- The lengths of the runs that pair with no run and lie in no span of code, from the
lengths of all runs. `opening` is the length of the run that waits to be closed. -/
def looseLengths : (opening : Option Nat) → List Nat → List Nat
  | _, [] => []
  | none, length :: later =>
    if length ∈ later then looseLengths (some length) later
    else length :: looseLengths none later
  | some opening, length :: later =>
    if length = opening then looseLengths none later
    else looseLengths (some opening) later

def ClosedIn (opening : Option TickRun) (runs : List TickRun) : Prop :=
  ∀ run, opening = some run → run.length ∈ runs.map (·.length)

theorem closedIn_none (runs : List TickRun) : ClosedIn none runs := by
  intro run impossible
  cases impossible

theorem closedIn_some {opening : TickRun} {runs : List TickRun}
    (closed : opening.length ∈ runs.map (·.length)) : ClosedIn (some opening) runs := by
  intro run same
  cases same
  exact closed

/-- A run of another length does not close the one that waits. -/
theorem ClosedIn.later {opening run : TickRun} {later : List TickRun}
    (closed : ClosedIn (some opening) (run :: later))
    (different : run.length ≠ opening.length) : ClosedIn (some opening) later := by
  apply closedIn_some
  have among := closed opening rfl
  rw [List.map_cons] at among
  exact (List.mem_cons.mp among).resolve_left (Ne.symm different)

section Append

variable {opening : Option TickRun} {front back : List TickRun}

/-- If no loose run in front has the length of a run behind, the runs in front and those
behind are paired apart. -/
theorem pairRuns_append (closed : ClosedIn opening front)
    (apart : ∀ length ∈ looseLengths (opening.map (·.length)) (front.map (·.length)),
      length ∉ back.map (·.length)) :
    pairRuns opening (front ++ back) = pairRuns opening front ++ pairRuns none back := by
  fun_induction pairRuns opening front with
  | case1 opening =>
      cases opening with
      | none =>
          rfl
      | some opening =>
          exact absurd (closed opening rfl) List.not_mem_nil
  | case2 run later closes inductionHypothesis =>
      have closesLonger : run.length ∈ (later ++ back).map (·.length) := by
        rw [List.map_append]
        exact List.mem_append_left _ closes
      simp only [List.map_cons, Option.map_none, looseLengths, closes, if_true] at apart
      rw [List.cons_append, pairRuns, if_pos closesLonger]
      exact inductionHypothesis (closedIn_some closes) apart
  | case3 run later opensNothing inductionHypothesis =>
      simp only [List.map_cons, Option.map_none, looseLengths, opensNothing, if_false]
        at apart
      have opensNothingLonger : run.length ∉ (later ++ back).map (·.length) := by
        rw [List.map_append, List.mem_append, not_or]
        exact ⟨opensNothing, apart _ List.mem_cons_self⟩
      rw [List.cons_append, pairRuns, if_neg opensNothingLonger]
      apply inductionHypothesis (closedIn_none later)
      intro length loose
      exact apart length (List.mem_cons_of_mem _ loose)
  | case4 opening run later same inductionHypothesis =>
      simp only [List.map_cons, Option.map_some, looseLengths, same, if_true] at apart
      rw [List.cons_append, pairRuns, if_pos same, List.cons_append,
        inductionHypothesis (closedIn_none later) apart]
  | case5 opening run later different inductionHypothesis =>
      simp only [List.map_cons, Option.map_some, looseLengths, different, if_false]
        at apart
      rw [List.cons_append, pairRuns, if_neg different]
      exact inductionHypothesis (closed.later different) apart

/-- A run that waits behind the front, which does not close it, is closed by a run
behind. -/
theorem exists_closing_behind {run : TickRun}
    (opensNothing : run.length ∉ front.map (·.length))
    (closes : run.length ∈ (front ++ back).map (·.length)) :
    ∃ closing ∈ back, (run, closing) ∈ pairRuns (some run) (front ++ back) := by
  obtain ⟨closing, present, first⟩ := exists_head?_pairRuns closes []
  rw [List.append_nil] at first
  have paired := List.mem_of_head? first
  refine ⟨closing, ?_, paired⟩
  rcases List.mem_append.mp present with inFront | isBehind
  · have same := length_eq_of_mem_pairRuns paired
    exact absurd (same ▸ List.mem_map_of_mem inFront) opensNothing
  · exact isBehind

/-- Otherwise a run in front is paired with one behind. -/
theorem exists_crossing (closed : ClosedIn opening front) {length : Nat}
    (loose : length ∈ looseLengths (opening.map (·.length)) (front.map (·.length)))
    (behind : length ∈ back.map (·.length)) :
    ∃ span ∈ pairRuns opening (front ++ back), span.1 ∈ front ∧ span.2 ∈ back := by
  fun_induction pairRuns opening front with
  | case1 opening =>
      cases opening with
      | none =>
          cases loose
      | some opening =>
          cases loose
  | case2 run later closes inductionHypothesis =>
      have closesLonger : run.length ∈ (later ++ back).map (·.length) := by
        rw [List.map_append]
        exact List.mem_append_left _ closes
      simp only [List.map_cons, Option.map_none, looseLengths, closes, if_true] at loose
      obtain ⟨span, paired, first, second⟩ :=
        inductionHypothesis (closedIn_some closes) loose
      rw [List.cons_append, pairRuns, if_pos closesLonger]
      exact ⟨span, paired, List.mem_cons_of_mem run first, second⟩
  | case3 run later opensNothing inductionHypothesis =>
      simp only [List.map_cons, Option.map_none, looseLengths, opensNothing, if_false]
        at loose
      by_cases closesLonger : run.length ∈ (later ++ back).map (·.length)
      · obtain ⟨closing, second, paired⟩ :=
          exists_closing_behind opensNothing closesLonger
        rw [List.cons_append, pairRuns, if_pos closesLonger]
        exact ⟨(run, closing), paired, List.mem_cons_self, second⟩
      · have different : length ≠ run.length := by
          rintro rfl
          apply closesLonger
          rw [List.map_append]
          exact List.mem_append_right _ behind
        have looseLater := (List.mem_cons.mp loose).resolve_left different
        obtain ⟨span, paired, first, second⟩ :=
          inductionHypothesis (closedIn_none later) looseLater
        rw [List.cons_append, pairRuns, if_neg closesLonger]
        exact ⟨span, paired, List.mem_cons_of_mem run first, second⟩
  | case4 opening run later same inductionHypothesis =>
      simp only [List.map_cons, Option.map_some, looseLengths, same, if_true] at loose
      obtain ⟨span, paired, first, second⟩ :=
        inductionHypothesis (closedIn_none later) loose
      rw [List.cons_append, pairRuns, if_pos same]
      exact ⟨span, List.mem_cons_of_mem _ paired, List.mem_cons_of_mem run first, second⟩
  | case5 opening run later different inductionHypothesis =>
      simp only [List.map_cons, Option.map_some, looseLengths, different, if_false]
        at loose
      obtain ⟨span, paired, first, second⟩ :=
        inductionHypothesis (closed.later different) loose
      rw [List.cons_append, pairRuns, if_neg different]
      exact ⟨span, paired, List.mem_cons_of_mem run first, second⟩

end Append

end ApiReference.Markdown
