import CompilerSession.Session.Basic
import CompilerSession.Text.Search

namespace CompilerSession

/-!
# Scripted surroundings

Collaborators that follow a script: a library with a fixed catalogue, a backend
that answers by rules, a loader with a fixed table.  None of them changes with
the moment.
-/

namespace Library

/-- The answer of a catalogue to a path. -/
def lookup
    (catalogue : List (String × Fetch))
    (path : String) : Fetch :=
  match catalogue.find? fun entry => entry.1 == path with
  | some entry => entry.2
  | none => ⟨.error ("404 for " ++ path), false⟩

/-- What is fetched from a catalogue stands in it. -/
private theorem mem_of_lookup
    {catalogue : List (String × Fetch)}
    {path content : String}
    (found : (lookup catalogue path).answer = .ok content) :
    path ∈ catalogue.map Prod.fst := by
  unfold lookup at found
  split at found
  · rename_i entry member
    have same : entry.1 = path := by simpa using List.find?_some member
    exact same ▸ List.mem_map_of_mem (List.mem_of_find?_eq_some member)
  · cases found

/-- The library that answers from a catalogue. -/
def ofCatalogue (catalogue : List (String × Fetch)) : Library where
  paths := catalogue.map Prod.fst
  fetch _ path := lookup catalogue path
  listed _ _ _ found := mem_of_lookup found

end Library

/--
What a scripted backend does with the inputs that hold some texts and lack
others.
-/
structure Rule where
  has : List String
  lacks : List String
  requested : List String
  outcome : CallOutcome
  deriving Repr, DecidableEq

namespace Rule

/-- Whether a rule is about an input. -/
def applies
    (rule : Rule)
    (input : String) : Bool :=
  rule.has.all (Text.contains input) && rule.lacks.all fun text =>
    !Text.contains input text

end Rule

namespace Backend

/--
The backend that follows the first rule about its input, and has nothing to say
otherwise.
-/
def ofRules
    (version : String)
    (rules : List Rule) : Backend where
  version := version
  compile _ input :=
    match rules.find? fun rule => rule.applies input with
    | some rule => ⟨rule.requested, rule.outcome⟩
    | none => ⟨[], .returned "\x7b\x7d"⟩

end Backend

namespace Host

/-- How a table of loads answers. -/
def loadFrom
    (table : List (String × LoadResult))
    (url : String) : LoadResult :=
  match table.find? fun entry => entry.1 == url with
  | some entry => entry.2
  | none => .failed "unknown url"

/-- The host with a catalogue of files and a table of loads. -/
def scripted
    (catalogue : List (String × Fetch))
    (table : List (String × LoadResult)) : Host where
  library := .ofCatalogue catalogue
  load _ url := loadFrom table url

end Host

end CompilerSession
