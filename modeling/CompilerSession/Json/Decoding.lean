import CompilerSession.Json.Basic
import CompilerSession.Json.Tree

namespace CompilerSession.Json

/-!
# Values from trees

Decoding walks a tree in text order and stops at the first thing it cannot keep:
a container inside too many others, a number beyond every double, a string
without a text, a value of the wrong kind, or the place where the text is
broken.  `room` is the number of containers that may still be opened; a whole
text has `roomiest`.

A part of a tree that a decoder passes over is never looked at: if it were
broken, so would be the container around it.
-/

/-- Why a text has no value of the kind that was asked for. -/
inductive DecodingError where
  | broken
  | tooDeep
  | numberOutOfRange
  | loneSurrogate
  | mismatch (found expected : String)
  | repeated (field : String)
  | noSuchShape
  deriving Repr, DecidableEq

/--
The wording of an error.  It is that of this library: another reader of the same
texts fails for the same causes, but words them in its own way and may add where
the text failed.  Only texts shown to a reader hold it.
-/
def DecodingError.message : DecodingError → String
  | .broken => "the text is not JSON"
  | .tooDeep => "arrays and objects are nested too deeply"
  | .numberOutOfRange => "number out of range"
  | .loneSurrogate => "lone surrogate in a string"
  | .mismatch found expected =>
      "invalid type: " ++ found ++ ", expected " ++ expected
  | .repeated field => "duplicate field `" ++ field ++ "`"
  | .noSuchShape => "neither a message nor a diagnostic object"

/-- The number of containers that may be open at once. -/
def roomiest : Nat := 127

namespace Tree

/-- What a message calls the value. -/
def description : Tree → String
  | .null => "null"
  | .bool true => "boolean true"
  | .bool false => "boolean false"
  | .number _ => "number"
  | .string (some text) => "string \"" ++ text ++ "\""
  | .string none => "string"
  | .array _ _ => "sequence"
  | .object _ _ => "map"

/-- The error of finding a value where another kind is expected. -/
def mismatch
    (tree : Tree)
    (expected : String) : DecodingError :=
  match tree with
  | .string none => .loneSurrogate
  | _ => .mismatch tree.description expected

/-- One container less that may be opened. -/
def enter : Nat → Except DecodingError Nat
  | 0 => .error .tooDeep
  | room + 1 => .ok room

/-- A string that is kept. -/
def keep (text? : Option String) : Except DecodingError String :=
  match text? with
  | some text => .ok text
  | none => .error .loneSurrogate

/-- The end of a container, which the text has to reach. -/
def finish
    {α : Type}
    (closed : Bool)
    (value : α) : Except DecodingError α :=
  if closed then .ok value else .error .broken

mutual

/-- The value of a tree; of members with one key the last counts. -/
def value (room : Nat) : Tree → Except DecodingError Json
  | .null => .ok .null
  | .bool flag => .ok (.bool flag)
  | .number literal =>
    match literal.value? with
    | some held => .ok (.number held)
    | none => .error .numberOutOfRange
  | .string text? => (keep text?).map Json.string
  | .array elements closed => do
    let inner ← enter room
    let values ← elementValues inner elements
    finish closed (.array values)
  | .object members closed => do
    let inner ← enter room
    let values ← memberValues inner [] members
    finish closed (.object values)

/-- The values of the elements of an array. -/
def elementValues (room : Nat) : List Tree → Except DecodingError (List Json)
  | [] => .ok []
  | element :: rest => do
    let first ← value room element
    let others ← elementValues room rest
    return first :: others

/-- The values of the members of an object, added to those before them. -/
def memberValues
    (room : Nat)
    (known : Entries Json) :
    List (Option String × Tree) → Except DecodingError (Entries Json)
  | [] => .ok known
  | (key?, member) :: rest => do
    let key ← keep key?
    let first ← value room member
    memberValues room (known.insert key first) rest

end

/--
The map of an object whose values are decoded alike; of one key the last counts.
-/
def mapOf
    {α : Type}
    (decode : Nat → Tree → Except DecodingError α)
    (room : Nat)
    (tree : Tree) : Except DecodingError (OrderedMap α) :=
  match tree with
  | .object members closed => do
    let inner ← enter room
    let map ← members.foldlM (fun known (key?, member) => do
      let key ← keep key?
      let decoded ← decode inner member
      return known.insert key decoded) OrderedMap.empty
    finish closed map
  | _ => .error (tree.mismatch "a map")

/-- The list of an array whose elements are decoded alike. -/
def listOf
    {α : Type}
    (decode : Nat → Tree → Except DecodingError α)
    (room : Nat)
    (tree : Tree) : Except DecodingError (List α) :=
  match tree with
  | .array elements closed => do
    let inner ← enter room
    let decoded ← elements.mapM (decode inner)
    finish closed decoded
  | _ => .error (tree.mismatch "a sequence")

end Tree

/-- Decode a text, which has to hold one value and nothing after it. -/
def decodeText
    {α : Type}
    (decode : Nat → Tree → Except DecodingError α)
    (text : String) :
    Except DecodingError α :=
  match Document.ofText text with
  | ⟨none, _⟩ => .error .broken
  | ⟨some root, whole⟩ => do
    let decoded ← decode roomiest root
    Tree.finish whole decoded

/-- The value that a text holds. -/
def parse
    (text : String) : Except DecodingError Json :=
  decodeText Tree.value text

end CompilerSession.Json
