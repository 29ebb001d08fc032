import CompilerSession.OrderedMap

namespace CompilerSession

/-!
# Configuration

The settings that go into every bundle, and overrides that may leave any of them
as it is.
-/

/-- Library addresses by source file and library name. -/
abbrev Libraries := OrderedMap (OrderedMap String)

/-- The settings of the compiler. -/
structure Configuration where
  optimize : Bool
  optimizerRuns : UInt32
  libraries : Libraries
  deriving DecidableEq

/-- Settings to change; what is absent stays. -/
structure Overrides where
  optimize? : Option Bool
  optimizerRuns? : Option UInt32
  libraries? : Option Libraries
  deriving DecidableEq

namespace Overrides

/-- The overrides that change nothing. -/
def none : Overrides := ⟨.none, .none, .none⟩

end Overrides

namespace Configuration

/-- The settings of a session that is told nothing. -/
def standard : Configuration := ⟨false, 200, .empty⟩

/-- The settings with overrides put over them. -/
def merged
    (configuration : Configuration)
    (overrides : Overrides) : Configuration where
  optimize := overrides.optimize?.getD configuration.optimize
  optimizerRuns := overrides.optimizerRuns?.getD configuration.optimizerRuns
  libraries := overrides.libraries?.getD configuration.libraries

/-- The standard settings with overrides put over them, if there are any. -/
def ofOverrides (overrides? : Option Overrides) : Configuration :=
  standard.merged (overrides?.getD .none)

end Configuration

end CompilerSession
