import CompilerSession.Report.Payload

namespace CompilerSession

/-!
# Diagnostics that stand for imports

A backend that cannot open an import says so in a diagnostic.  When it also
names missing inputs, these placeholders are marked, and a marked diagnostic is
not fatal.  Marking touches the origins and nothing else, so all that is written
of a report stays as it is, and the verdict loses just the errors among the
placeholders.
-/

namespace Diagnostic

/-- A text speaks of an import that was put off. -/
def Mentions (text : String) : Prop :=
  deferredImportText.toList <:+: text.toList

/--
The message speaks of an import that was put off, or the formatted message does.
-/
def Placeholder (diagnostic : Diagnostic) : Prop :=
  Mentions diagnostic.message ∨
    ∃ formatted,
      diagnostic.formattedMessage? = some formatted ∧ Mentions formatted

/-- The check of a diagnostic tells whether it is a placeholder. -/
theorem standsForImport_iff {diagnostic : Diagnostic} :
    diagnostic.standsForImport = true ↔ diagnostic.Placeholder := by
  simp [standsForImport, Placeholder, Mentions, Text.contains,
    Text.occurs_iff_infix, Option.mem_toList]

instance : DecidablePred Placeholder := fun _ =>
  decidable_of_iff _ standsForImport_iff

/-- A diagnostic is an error, whether it counts or not. -/
def IsError (diagnostic : Diagnostic) : Prop :=
  diagnostic.severity = .error

instance : DecidablePred IsError := fun diagnostic =>
  inferInstanceAs (Decidable (diagnostic.severity = .error))

/-- The diagnostic as the backend gave it. -/
def unmarked (diagnostic : Diagnostic) : Diagnostic :=
  { diagnostic with origin := .compiler }

/-- Marking a placeholder gives it another origin. -/
theorem mark_of_placeholder
    {diagnostic : Diagnostic}
    (placeholder : diagnostic.Placeholder) :
    diagnostic.mark = { diagnostic with origin := .deferredImport } :=
  if_pos (standsForImport_iff.mpr placeholder)

/-- Marking leaves a genuine diagnostic as it is. -/
theorem mark_of_genuine
    {diagnostic : Diagnostic}
    (genuine : ¬ diagnostic.Placeholder) :
    diagnostic.mark = diagnostic :=
  if_neg (genuine ∘ standsForImport_iff.mp)

@[simp] theorem unmarked_mark (diagnostic : Diagnostic) :
    diagnostic.mark.unmarked = diagnostic.unmarked := by
  unfold mark
  split <;> rfl

@[simp] theorem mark_mark (diagnostic : Diagnostic) :
    diagnostic.mark.mark = diagnostic.mark := by
  by_cases placeholder : diagnostic.Placeholder
  · -- The texts are the same after marking, so the marked diagnostic is a
    -- placeholder too.
    have still : Placeholder { diagnostic with origin := .deferredImport } :=
      placeholder
    rw [mark_of_placeholder placeholder, mark_of_placeholder still]
  · rw [mark_of_genuine placeholder, mark_of_genuine placeholder]

/-- A diagnostic is fatal if it is an error and has not been marked. -/
theorem isFatal_iff {diagnostic : Diagnostic} :
    diagnostic.isFatal = true ↔
      diagnostic.IsError ∧ diagnostic.origin ≠ .deferredImport := by
  simp [isFatal, isDeferred, IsError]

/--
A diagnostic is fatal after marking if it was fatal before and is no
placeholder.
-/
theorem isFatal_mark_iff {diagnostic : Diagnostic} :
    diagnostic.mark.isFatal = true ↔
      diagnostic.isFatal = true ∧ ¬ diagnostic.Placeholder := by
  by_cases placeholder : diagnostic.Placeholder
  · simp [mark_of_placeholder placeholder, isFatal_iff, placeholder]
  · simp only [mark_of_genuine placeholder, placeholder, not_false_eq_true,
      and_true]

/-- Marking neither makes nor unmakes an error. -/
theorem isError_mark_iff {diagnostic : Diagnostic} :
    diagnostic.mark.IsError ↔ diagnostic.IsError := by
  unfold mark
  split <;> rfl

end Diagnostic

namespace Report

variable {report : Report} {missing : List String}

/-- The report as the backend gave it. -/
def unmarked (report : Report) : Report :=
  report.mapDiagnostics Diagnostic.unmarked

@[simp] theorem diagnostics_mapDiagnostics
    (change : Diagnostic → Diagnostic)
    (report : Report) :
    (report.mapDiagnostics change).diagnostics =
      report.diagnostics.map change := by
  simp [diagnostics, mapDiagnostics, Option.toList_map]

/-- Two changes of every diagnostic make one. -/
theorem mapDiagnostics_mapDiagnostics
    (first second : Diagnostic → Diagnostic)
    (report : Report) :
    (report.mapDiagnostics first).mapDiagnostics second =
      report.mapDiagnostics (second ∘ first) := by
  simp [mapDiagnostics]

/--
What is written of a report does not depend on the origins of its diagnostics.
-/
theorem toJson_unmarked
    (report : Report) :
    report.unmarked.toJson = report.toJson := by
  simp only [toJson, unmarked, mapDiagnostics, List.map_map, Option.toList_map]
  rfl

/-- A report is left as it is if no import is missing. -/
theorem markPlaceholders_nil
    (report : Report) :
    report.markPlaceholders [] = report :=
  rfl

theorem markPlaceholders_of_ne_nil (given : missing ≠ []) :
    report.markPlaceholders missing =
      report.mapDiagnostics Diagnostic.mark := by
  simp [markPlaceholders, given]

@[simp] theorem unmarked_markPlaceholders
    (report : Report)
    (missing : List String) :
    (report.markPlaceholders missing).unmarked = report.unmarked := by
  unfold markPlaceholders
  split
  · rfl
  · rw [unmarked, mapDiagnostics_mapDiagnostics]
    exact congrArg report.mapDiagnostics (funext Diagnostic.unmarked_mark)

/-- Marking a report twice is marking it once. -/
theorem markPlaceholders_markPlaceholders
    (report : Report)
    (missing : List String) :
    (report.markPlaceholders missing).markPlaceholders missing =
      report.markPlaceholders missing := by
  cases missing with
  | nil =>
      rfl
  | cons path others =>
      have given : path :: others ≠ [] := List.cons_ne_nil path others
      rw [markPlaceholders_of_ne_nil given, markPlaceholders_of_ne_nil given,
        mapDiagnostics_mapDiagnostics]
      exact congrArg report.mapDiagnostics (funext Diagnostic.mark_mark)

/--
The fatal diagnostics after marking are those before it that are no
placeholders.
-/
theorem fatalCount_markPlaceholders (given : missing ≠ []) :
    (report.markPlaceholders missing).verdict.fatalCount =
      report.diagnostics.countP fun diagnostic =>
        diagnostic.isFatal && !decide diagnostic.Placeholder := by
  rw [markPlaceholders_of_ne_nil given, verdict, diagnostics_mapDiagnostics,
    List.countP_map]
  refine List.countP_congr fun diagnostic _ => ?_
  simp [Diagnostic.isFatal_mark_iff]

/--
Marking takes the placeholders out of the fatal diagnostics, and no others.
-/
theorem fatalCount_eq_add (given : missing ≠ []) :
    report.verdict.fatalCount =
      (report.markPlaceholders missing).verdict.fatalCount +
        report.diagnostics.countP fun diagnostic =>
          diagnostic.isFatal && decide diagnostic.Placeholder := by
  rw [fatalCount_markPlaceholders given, Nat.add_comm, verdict,
    List.countP_eq_length_filter,
    List.length_eq_countP_add_countP fun diagnostic =>
      decide diagnostic.Placeholder, List.countP_filter, List.countP_filter]
  simp [Bool.and_comm]

/-- Marking never adds a fatal diagnostic. -/
theorem fatalCount_markPlaceholders_le
    (report : Report)
    (missing : List String) :
    (report.markPlaceholders missing).verdict.fatalCount ≤
      report.verdict.fatalCount := by
  by_cases nothing : missing = []
  · exact Nat.le_of_eq (by rw [nothing, markPlaceholders_nil])
  · exact Nat.le.intro (fatalCount_eq_add nothing).symm

/-- The errors among the diagnostics, whether they count or not. -/
def gravest (report : Report) : List Diagnostic :=
  report.diagnostics.filter fun diagnostic => decide diagnostic.IsError

/-- Only the errors have a part in the verdict. -/
theorem verdict_of_gravest
    {other : Report}
    (same : other.gravest = report.gravest) :
    other.verdict = report.verdict := by
  have counted (any : Report) :
      any.diagnostics.countP Diagnostic.isFatal =
        any.gravest.countP Diagnostic.isFatal := by
    rw [gravest, List.countP_filter]
    refine List.countP_congr fun diagnostic _ => ?_
    simp +contextual [Diagnostic.isFatal_iff]
  rw [verdict, verdict, counted other, counted report, same]

/-- Marking makes no error and unmakes none. -/
theorem gravest_markPlaceholders (given : missing ≠ []) :
    (report.markPlaceholders missing).gravest =
      report.gravest.map Diagnostic.mark := by
  rw [markPlaceholders_of_ne_nil given, gravest, gravest,
    diagnostics_mapDiagnostics, List.filter_map]
  refine congrArg (List.map Diagnostic.mark)
    (List.filter_congr fun diagnostic _ => ?_)
  simp [Diagnostic.isError_mark_iff]

/-- A verdict is fatal if it counts anything fatal. -/
theorem isFatal_verdict_iff {report : Report} :
    report.verdict.isFatal = true ↔ 0 < report.verdict.fatalCount :=
  decide_eq_true_iff

/--
Marking excuses the placeholders among the errors, and does nothing else.  A
report that is marked is told from the one before by the origins of its
diagnostics alone; marking it once more, or for no missing input, leaves it as
it is.  What counts as fatal afterwards is what did so before, less the
placeholders; of a report as a backend gives it these are the errors in which
neither text speaks of an import.  Diagnostics that are no errors have no part
in it.
-/
theorem marking_excuses_placeholders
    (report : Report)
    (missing : List String) :
    let marked := report.markPlaceholders missing
    marked.unmarked = report.unmarked ∧
      marked.diagnostics.map Diagnostic.unmarked =
        report.diagnostics.map Diagnostic.unmarked ∧
      marked.diagnostics.length = report.diagnostics.length ∧
      marked.toJson = report.toJson ∧
      marked.text = report.text ∧
      marked.markPlaceholders missing = marked ∧
      (missing = [] → marked = report) ∧
      (missing ≠ [] →
        report.verdict.fatalCount =
          marked.verdict.fatalCount +
            report.diagnostics.countP (fun diagnostic =>
              diagnostic.isFatal && decide diagnostic.Placeholder)) ∧
      (missing ≠ [] →
        (∀ diagnostic ∈ report.diagnostics, diagnostic.origin = .compiler) →
          marked.verdict.fatalCount =
              report.diagnostics.countP (fun diagnostic =>
                decide (diagnostic.IsError ∧ ¬ diagnostic.Placeholder)) ∧
            report.verdict.fatalCount =
              marked.verdict.fatalCount +
                report.diagnostics.countP (fun diagnostic =>
                  decide (diagnostic.IsError ∧ diagnostic.Placeholder))) ∧
      marked.verdict.fatalCount ≤ report.verdict.fatalCount ∧
      (∀ other : Report,
        other.gravest = report.gravest →
          other.verdict = report.verdict ∧
            (other.markPlaceholders missing).verdict = marked.verdict) ∧
      (report.verdict.isFatal = true ↔ 0 < report.verdict.fatalCount) ∧
      (marked.verdict.isFatal = true ↔ 0 < marked.verdict.fatalCount) := by
  intro marked
  have same : marked.unmarked = report.unmarked :=
    unmarked_markPlaceholders report missing
  have sameDiagnostics :
      marked.diagnostics.map Diagnostic.unmarked =
        report.diagnostics.map Diagnostic.unmarked := by
    rw [← diagnostics_mapDiagnostics, ← diagnostics_mapDiagnostics]
    exact congrArg diagnostics same
  have sameJson : marked.toJson = report.toJson := by
    rw [← toJson_unmarked marked, same, toJson_unmarked]
  refine ⟨same, sameDiagnostics, ?_, sameJson, congrArg Json.text sameJson,
    markPlaceholders_markPlaceholders report missing, ?_, fatalCount_eq_add, ?_,
    fatalCount_markPlaceholders_le report missing, ?_, isFatal_verdict_iff,
    isFatal_verdict_iff⟩
  · simpa using congrArg List.length sameDiagnostics
  · rintro rfl
    exact markPlaceholders_nil report
  · intro given fresh
    have fatal_iff :
        ∀ diagnostic ∈ report.diagnostics,
          diagnostic.isFatal = decide diagnostic.IsError := by
      intro diagnostic member
      rw [Bool.eq_iff_iff, decide_eq_true_iff, Diagnostic.isFatal_iff,
        fresh diagnostic member]
      simp
    refine ⟨(fatalCount_markPlaceholders given).trans ?_,
      (fatalCount_eq_add given).trans ?_⟩
    · refine List.countP_congr fun diagnostic member => ?_
      simp [fatal_iff diagnostic member]
    · refine congrArg (marked.verdict.fatalCount + ·) ?_
      refine List.countP_congr fun diagnostic member => ?_
      simp [fatal_iff diagnostic member]
  · intro other sameErrors
    refine ⟨verdict_of_gravest sameErrors, ?_⟩
    by_cases nothing : missing = []
    · subst nothing
      exact verdict_of_gravest sameErrors
    · refine verdict_of_gravest ?_
      rw [gravest_markPlaceholders nothing, gravest_markPlaceholders nothing,
        sameErrors]

/--
A report whose top-level error and one of whose warnings only stand for an
import.
-/
def mixed : Report where
  contracts := .empty
  sources := .empty
  errors :=
    [.error "Undeclared identifier.",
      .warning "Source not found: Deferred import",
      .bare .info "Unused local variable."]
  error? :=
    some
      { Diagnostic.bare .error "Source not found" with
        formattedMessage? :=
          some "a.sol:1:1: Source not found: Deferred import" }

/--
Of two errors one stands for an import, and the other counts before and after.
-/
theorem marking_excuses_placeholders_mixed :
    (∀ diagnostic ∈ mixed.diagnostics, diagnostic.origin = .compiler) ∧
      mixed.verdict.fatalCount = 2 ∧
      (mixed.markPlaceholders ["b.sol"]).verdict.fatalCount = 1 ∧
      (mixed.markPlaceholders ["b.sol"]).verdict.isFatal = true ∧
      (mixed.markPlaceholders ["b.sol"]).text = mixed.text := by
  have fresh : ∀ diagnostic ∈ mixed.diagnostics,
    diagnostic.origin = .compiler := by decide
  obtain ⟨-, -, -, -, sameText, -, -, -, counted, -, -, -, fatal_iff⟩ :=
    marking_excuses_placeholders mixed ["b.sol"]
  obtain ⟨after, before⟩ := counted (by decide) fresh
  have genuine :
      mixed.diagnostics.countP (fun diagnostic =>
        decide (diagnostic.IsError ∧ ¬ diagnostic.Placeholder)) = 1 := by
    decide +kernel
  have excused :
      mixed.diagnostics.countP (fun diagnostic =>
        decide (diagnostic.IsError ∧ diagnostic.Placeholder)) = 1 := by
    decide +kernel
  rw [genuine] at after
  rw [excused, after] at before
  exact ⟨fresh, before, after, fatal_iff.mpr (after ▸ Nat.one_pos), sameText⟩

end Report

end CompilerSession
