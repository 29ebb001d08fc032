import CompilerSession.Source.SourceSet

namespace CompilerSession

/-!
# Compilation jobs

A job is one compile request on its way through its passes.  Its files only
grow; the missing inputs that a backend names replace those of the pass before.
-/

/-- Sources with the file among them that is to be compiled. -/
structure Program where
  sources : SourceSet
  target : String
  deriving DecidableEq

/--
A compile request under way; requests are numbered in the order they are made.
-/
structure Job where
  request : Nat
  sources : SourceSet
  target : String
  missing : List String
  deriving DecidableEq

namespace Job

/-- The job of a new request. -/
def new
    (request : Nat)
    (sources : SourceSet)
    (target : String) : Job :=
  ⟨request, sources, target, []⟩

/--
The job for another pass, with what the backend could not find in the last one.
-/
def withMissing
    (job : Job)
    (missing : List String) : Job := { job with missing }

/-- What the job compiles, with the files fetched for it so far. -/
def program (job : Job) : Program := ⟨job.sources, job.target⟩

end Job

end CompilerSession
