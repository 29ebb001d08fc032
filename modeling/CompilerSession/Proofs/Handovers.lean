import CompilerSession.Proofs.Stage

namespace CompilerSession

/-!
# Where jobs are handed over

A pass whose imports resolve hands its job over to the backend, and the
functions of a session do so on their way.  `Session.handedOver` lists where an
operation does it, from the first pass to the last.  The main statement says
that each of these is a stage of the operation: small steps lead there, and from
there to the session after the operation.
-/

namespace Session

variable (host : Host)

/--
Where a pass hands its job over, if it comes so far: the imports have been
resolved, and an inline load that has arrived has been taken over.
-/
def handover?
    (session : Session)
    (job : Job) : Option (Session × Job) :=
  let resolution := session.resolution host job
  if isStuck job || resolution.failure?.isSome then none
  else
    some
      ((session.recordFetches job.request resolution).announceArrival,
        session.resolved host job)

/-- Where a job is handed over while it goes through its passes. -/
def handovers
    (session : Session)
    (job : Job) : List (Session × Job) :=
  match retried : pass host session job with
  | (_, none) => (handover? host session job).toList
  | (after, some next) =>
    have _less := remaining_of_pass (congrArg Prod.snd retried)
    (handover? host session job).toList ++ handovers after next
termination_by remaining host job
decreasing_by exact _less

/-- Where an operation hands jobs over, in order. -/
def handedOver (session : Session) : Operation → List (Session × Job)
  | .compile files target =>
    session.start.handovers host (.new session.requests files target)
  | .next position =>
    match session.toolchain.next session.waitingJobs position with
    | (.news (.compiled ticket answer), toolchain) =>
      match session.docket.take ticket with
      | (some job, docket) =>
        match { session with toolchain, docket }.takeAnswer job answer with
        | (after, some next) => after.handovers host next
        | (_, none) => []
      | (none, _) => []
    | _ => []
  | _ => []

variable
  {host : Host}
  {session before after : Session}
  {job handed : Job}

/--
What is handed over is the job with its files resolved, after its fetches have
been recorded and an arrival announced.
-/
theorem resolved_of_handover
    (reached : handover? host session job = some (before, handed)) :
    ¬ isStuck job = true ∧
      (session.resolution host job).failure? = none ∧
      before =
        (session.recordFetches job.request
          (session.resolution host job)).announceArrival ∧
      handed = session.resolved host job := by
  unfold handover? at reached
  dsimp only at reached
  split at reached
  · cases reached
  · rename_i going
    obtain ⟨unstuck, succeeds⟩ :
        isStuck job = false ∧
          (session.resolution host job).failure? = none := by
      simpa using going
    cases reached
    exact ⟨Bool.eq_false_iff.mp unstuck, succeeds, rfl, rfl⟩

/-- Such a pass is the handing over of its job. -/
theorem pass_of_handover
    (reached : handover? host session job = some (before, handed)) :
    pass host session job = before.dispatch handed := by
  obtain ⟨going, succeeds, rfl, rfl⟩ := resolved_of_handover reached
  have succeeds :
      (host.library.resolve session.now job.sources job.target
        job.missing).failure? = none :=
    succeeds
  rw [pass, if_neg going]
  simp only [succeeds]
  rfl

/-- A job that needs one pass is handed over in this pass only. -/
theorem handovers_of_ended
    (ended : pass host session job = (after, none)) :
    handovers host session job = (handover? host session job).toList := by
  rw [handovers]
  split
  · rfl
  · rename_i retried
    cases ended.symm.trans retried

/-- A job that needs more passes is handed over in these too. -/
theorem handovers_of_retried
    {next : Job}
    (retried : pass host session job = (after, some next)) :
    handovers host session job =
      (handover? host session job).toList ++ handovers host after next := by
  rw [handovers]
  split
  · rename_i ended
    cases retried.symm.trans ended
  · rename_i again
    cases retried.symm.trans again
    rfl

end Session

namespace Work

variable
  {host : Host}
  {session before : Session}
  {job handed : Job}

/-- Small steps lead from a pass to where its job is handed over. -/
theorem to_handover
    (reached : Session.handover? host session job = some (before, handed)) :
    Work host ⟨session, [.pass job]⟩ ⟨before, [.dispatch handed]⟩ := by
  obtain ⟨going, succeeds, rfl, rfl⟩ := Session.resolved_of_handover reached
  exact .head (.resolve session job going succeeds) (arrive host _ _)

/--
Where a job is handed over lies between its first pass and the end of its last.
-/
theorem around_handover
    (member : (before, handed) ∈ Session.handovers host session job) :
    Work host ⟨session, [.pass job]⟩ ⟨before, [.dispatch handed]⟩ ∧
      Work host ⟨before, [.dispatch handed]⟩
        ⟨Session.submit host session job, []⟩ := by
  fun_induction Session.submit host session job with
  | case1 session job after ended =>
      rw [Session.handovers_of_ended ended, Option.mem_toList] at member
      have handing := dispatch host before handed
      rw [← Session.pass_of_handover member, ended] at handing
      exact ⟨to_handover member, handing⟩
  | case2 session job after next retried _ inductionHypothesis =>
      have passing := pass host session job
      rw [retried] at passing
      rw [Session.handovers_of_retried retried, List.mem_append,
        Option.mem_toList] at member
      rcases member with now | later
      · have handing := dispatch host before handed
        rw [← Session.pass_of_handover now, retried] at handing
        exact ⟨to_handover now, handing.trans (submit host after next)⟩
      · obtain ⟨first, rest⟩ := inductionHypothesis later
        exact ⟨passing.trans first, rest⟩

end Work

/--
Where an operation hands a job over is a stage of it: the opening of the
operation and small steps lead there, and small steps lead on to the session
after the operation.
-/
theorem opens_to_handover
    {host : Host}
    {session before : Session}
    {operation : Session.Operation}
    {job : Job}
    (member : (before, job) ∈ session.handedOver host operation) :
    ∃ stage,
      Opening host session operation stage ∧
        Work host stage ⟨before, [.dispatch job]⟩ ∧
        Work host ⟨before, [.dispatch job]⟩
          ⟨session.apply host operation, []⟩ := by
  cases operation with
  | compile files target =>
      exact ⟨_, .compile files target, Work.around_handover member⟩
  | next position =>
      simp only [Session.handedOver] at member
      split at member
      · rename_i ticket answer toolchain heard
        split at member
        · rename_i waiting docket taken
          split at member
          · rename_i after next retried
            have applied :
                session.apply host (.next position) =
                  after.submit host next := by
              simp only [Session.apply, Session.next, heard, Session.handle,
                taken, retried]
            have found : (session.docket.take ticket).1 = some waiting :=
              congrArg Prod.fst taken
            have kept : (session.docket.take ticket).2 = docket :=
              congrArg Prod.snd taken
            subst kept
            obtain ⟨first, rest⟩ := Work.around_handover member
            have answered := Work.takeAnswer host
              { session with
                toolchain
                docket := (session.docket.take ticket).2 }
              waiting answer
            rw [retried] at answered
            rw [applied]
            exact
              ⟨_, .compiled position ticket answer toolchain waiting heard
                found, answered.trans first, rest⟩
          · cases member
        · cases member
      · cases member
  | _ =>
      cases member

end CompilerSession
