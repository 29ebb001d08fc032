namespace CompilerSession

/-!
# Failures

Everything that can go wrong in a session, as causes.  `Failure.message` has the
one wording of each, which is what a listener reads.
-/

/-- What went wrong. -/
inductive Failure where
  | fetchFailed (path message : String)
  | noBackend
  | unreadablePayload (detail : String)
  | workerFailed (message : String)
  | loadFailed (url message : String)
  | missingImports (paths : List String)
  | during (activity message : String)
  | storageRefused (message : String)
  | unreadableText (message : String)
  | fileAccess (message : String)
  deriving Repr, DecidableEq

namespace Failure

/-- The wording of a failure. -/
def message : Failure → String
  | .fetchFailed path message =>
      "Failed to fetch import \"" ++ path ++ "\": " ++ message
  | .noBackend => "Compiler not yet loaded."
  | .unreadablePayload detail =>
      "Invalid JSON output from the compiler: " ++ detail
  | .workerFailed message => "Worker error: " ++ message
  | .loadFailed url message =>
      "Failed to load compiler from " ++ url ++ ": " ++ message
  | .missingImports paths =>
      "Unable to resolve imports: " ++ String.intercalate ", " paths
  | .during activity cause => activity ++ ": " ++ cause
  | .storageRefused message => "Storage error: " ++ message
  | .unreadableText message => message
  | .fileAccess message => message

/--
Say what was being done; colons at the end of the activity are not repeated.
-/
def whileDoing (activity cause : String) : Failure :=
  .during
    (String.ofList (activity.toList.reverse.dropWhile (· == ':')).reverse) cause

end Failure

end CompilerSession
