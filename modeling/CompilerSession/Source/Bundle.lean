import CompilerSession.Json.Basic
import CompilerSession.Settings.Configuration
import CompilerSession.Source.SourceSet

namespace CompilerSession

/-!
# Bundles

A bundle is what a backend is asked to compile: the sources, the settings, and
which outputs are wanted.  Its text is one JSON object.  The libraries are left
out when there are none.
-/

/-- Sources with the settings to compile them under. -/
structure Bundle where
  files : SourceSet
  configuration : Configuration

namespace Bundle

/-- The outputs that are wanted for a file as a whole. -/
def wantedOfFiles : List String := ["legacyAST"]

/-- The outputs that are wanted for each contract. -/
def wantedOfContracts : List String :=
  ["abi", "metadata", "devdoc", "userdoc", "evm.legacyAssembly", "evm.bytecode",
    "evm.deployedBytecode", "evm.methodIdentifiers", "evm.gasEstimates"]

/-- The wanted outputs, for every file. -/
def wantedOutputs : Json :=
  .object [("*", .object [("", .array (wantedOfFiles.map Json.string)),
    ("*", .array (wantedOfContracts.map Json.string))])]

/-- The sources by path. -/
def sourcesJson (files : SourceSet) : Json :=
  Json.ofMap (fun content => .object [("content", .string content)])
    files.contents

/-- The optimizer settings. -/
def optimizerJson (configuration : Configuration) : Json :=
  .object [("enabled", .bool configuration.optimize),
    ("runs", .natural configuration.optimizerRuns.toUInt64)]

/-- The library addresses by file and name. -/
def librariesJson
    (libraries : Libraries) :
    Json :=
  Json.ofMap (Json.ofMap Json.string) libraries

/-- The settings of a configuration. -/
def settingsJson (configuration : Configuration) : Json :=
  .object (
    [("optimizer", optimizerJson configuration)] ++
    (if configuration.libraries.isEmpty then []
      else [("libraries", librariesJson configuration.libraries)]) ++
    [("outputSelection", wantedOutputs)])

/-- The bundle as a value. -/
def toJson (bundle : Bundle) : Json :=
  .object
    [("language", .string "Solidity"), ("sources", sourcesJson bundle.files),
      ("settings", settingsJson bundle.configuration)]

/-- The text that a backend is given. -/
def text (bundle : Bundle) : String := bundle.toJson.text

end Bundle

end CompilerSession
