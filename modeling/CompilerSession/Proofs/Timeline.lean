import CompilerSession.Proofs.Moves

namespace CompilerSession

/-!
# Moments of a run

The length of the log is the clock of a session.  Logs only grow, so every
moment of a run lies in one operation, and `during` is the session that this
operation leads to.  What is known of single operations is thereby known of
every place in a log.
-/

namespace Session

/--
The session that the operation of a moment leads to.  Its settings are those of
the moment: the one operation that changes them leaves nothing in the log.
-/
def during
    (host : Host)
    (session : Session) : List Operation → Nat → Session
  | [], _ => session
  | operation :: rest, moment =>
      let after := session.apply host operation
      if moment < after.log.length then after else after.during host rest moment

end Session

open Session

/-- Every step adds to the log and takes nothing back. -/
theorem WorkStep.grows
    {host : Host}
    {stage next : Stage}
    (taken : WorkStep host stage next)
    (aligned : stage.session.Aligned) :
    stage.session.log <+: next.session.log := by
  obtain ⟨task, rest, seen, added, later?, moved⟩ := taken.moves aligned
  exact ⟨added, moved.logged.symm⟩

namespace Session.Aligned

variable {session : Session}

/-- Every operation adds to the log and takes nothing back. -/
theorem grows
    (aligned : session.Aligned)
    (host : Host)
    (operation : Operation) :
    session.log <+: (session.apply host operation).log := by
  have kept :=
    apply_induction host session operation
      (fun stage => stage.session.Aligned ∧ session.log <+: stage.session.log)
      (by
        intro stage opens
        obtain ⟨added, logged, _⟩ := opens.logs
        exact ⟨aligned.opening opens, added, logged.symm⟩)
      (by
        rintro stage next ⟨stillAligned, grown⟩ taken
        exact ⟨stillAligned.step taken, grown.trans (taken.grows stillAligned)⟩)
  exact kept.2

theorem runAll_grows
    (aligned : session.Aligned)
    (host : Host)
    (operations : List Operation) :
    session.log <+: (session.runAll host operations).log := by
  induction operations generalizing session with
  | nil =>
      exact List.prefix_refl _
  | cons operation rest inductionHypothesis =>
      exact
        (aligned.grows host operation).trans
          (inductionHypothesis (aligned.apply host operation))

/-- Every moment of a run lies in one of its operations. -/
private theorem moment
    (aligned : session.Aligned)
    (host : Host)
    (operations : List Operation)
    {position : Nat}
    (new : session.log.length ≤ position)
    (past : position < (session.runAll host operations).log.length) :
    ∃ earlier operation later,
      operations = earlier ++ operation :: later ∧
        (session.runAll host earlier).log.length ≤ position ∧
        session.during host operations position =
          (session.runAll host earlier).apply host operation ∧
        position <
          ((session.runAll host earlier).apply host operation).log.length := by
  induction operations generalizing session with
  | nil =>
      exact absurd past (Nat.not_lt.mpr new)
  | cons operation rest inductionHypothesis =>
      by_cases here : position < (session.apply host operation).log.length
      · refine ⟨[], operation, rest, rfl, new, ?_, here⟩
        simp only [during, here, ↓reduceIte]
        rfl
      · obtain ⟨earlier, other, later, shape, after, same, inside⟩ :=
          inductionHypothesis (aligned.apply host operation)
            (Nat.le_of_not_lt here) past
        refine ⟨operation :: earlier, other, later,
          by rw [shape]; rfl, after, ?_, inside⟩
        simp only [during, here, ↓reduceIte]
        exact same

/--
Whatever is observed in a run was observed in the operation of its moment.
-/
theorem observed
    (aligned : session.Aligned)
    (host : Host)
    (operations : List Operation)
    {position : Nat}
    {observation : Observation}
    (new : session.log.length ≤ position)
    (found :
      (session.runAll host operations).log[position]? = some observation) :
    ∃ earlier operation later,
      operations = earlier ++ operation :: later ∧
        session.during host operations position =
          (session.runAll host earlier).apply host operation ∧
        (session.runAll host earlier).log.length ≤ position ∧
        ((session.runAll host earlier).apply host operation).log <+:
          (session.runAll host operations).log ∧
        ((session.runAll host earlier).apply host operation).log[position]? =
          some observation := by
  have past := (List.getElem?_eq_some_iff.mp found).1
  obtain ⟨earlier, operation, later, shape, after, same, inside⟩ :=
    aligned.moment host operations new past
  have before := aligned.runAll host earlier
  have grown := (before.apply host operation).runAll_grows host later
  have whole :
      ((session.runAll host earlier).apply host operation).runAll host later =
        session.runAll host operations := by
    rw [shape, runAll_append]
    rfl
  rw [whole] at grown
  refine ⟨earlier, operation, later, shape, same, after, grown, ?_⟩
  obtain ⟨added, logged⟩ := grown
  rw [← logged, List.getElem?_append_left inside] at found
  exact found

end Session.Aligned

end CompilerSession
