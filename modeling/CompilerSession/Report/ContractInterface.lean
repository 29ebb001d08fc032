import CompilerSession.Json.Basic
import CompilerSession.Version.Basic

namespace CompilerSession.ContractInterface

/-!
# Contract interfaces

A contract interface lists entries of a kind each.  Older compilers left out
what newer ones state, so an interface is brought up to the newer form by the
version that produced it:

* constructors were payable before 0.4.5, and before 0.4.0 so was every entry
  that is not marked constant;
* before 0.4.16 an entry did not state its mutability, which follows from its
  marks;
* before 0.1.2 a constructor, and before 0.4.0 a fallback, went without saying.

Events and values that are no objects stay as they are.
-/

/-- Whether a member is true. -/
def flag
    (key : String)
    (members : Entries Json) : Bool :=
  ((members.find? key).bind Json.bool?).getD false

/-- The kind of an entry; one that does not say is a function. -/
def kind (members : Entries Json) : String :=
  ((members.find? "type").bind Json.string?).getD "function"

/-- The entry with the mark that it takes payments. -/
def markPayable (members : Entries Json) : Entries Json :=
  members.insert "payable" (.bool true)

/-- What an entry may do to the state of its contract, judging by its marks. -/
def mutability (members : Entries Json) : String :=
  if flag "payable" members then "payable"
  else if flag "constant" members then "view"
  else "nonpayable"

/-- The entry with its mutability stated. -/
def stateMutability (members : Entries Json) : Entries Json :=
  members.insert "stateMutability" (.string (mutability members))

/-- An entry in the newer form. -/
def modernMembers
    (version : Version)
    (members : Entries Json) : Entries Json :=
  let constructed :=
    if kind members = "constructor" ∧
      version.precedes 0 4 5 then markPayable members else members
  if kind members = "event" then constructed
  else
    let paid :=
      if !flag "constant" constructed ∧
        version.precedes 0 4 0 then markPayable constructed
      else constructed
    if version.precedes 0 4 16 then stateMutability paid else paid

/-- An entry of an interface in the newer form, if it is an object. -/
def modernEntry (version : Version) : Json → Json
  | .object members => .object (modernMembers version members)
  | entry => entry

/-- Whether an entry is of a kind. -/
def hasKind (wanted : String) : Json → Bool
  | .object members => kind members == wanted
  | _ => false

/-- The constructor that went without saying. -/
def impliedConstructor : Json :=
  .object [("inputs", .array []), ("payable", .bool true),
    ("stateMutability", .string "payable"), ("type", .string "constructor")]

/-- The fallback that went without saying. -/
def impliedFallback : Json :=
  .object [("payable", .bool true), ("stateMutability", .string "payable"),
    ("type", .string "fallback")]

/-- The entries that an interface of a version implies and does not have. -/
def impliedEntries
    (version : Version)
    (entries : List Json) : List Json :=
  (if !entries.any (hasKind "constructor") ∧
    version.precedes 0 1 2 then [impliedConstructor]
    else []) ++
  (if !entries.any (hasKind "fallback") ∧
    version.precedes 0 4 0 then [impliedFallback] else [])

/-- An interface in the newer form. -/
def modernise
    (version : Version)
    (entries : List Json) : List Json :=
  entries.map (modernEntry version) ++ impliedEntries version entries

end CompilerSession.ContractInterface
