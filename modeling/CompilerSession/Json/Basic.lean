import CompilerSession.Json.Number
import CompilerSession.Json.StringLiteral
import CompilerSession.OrderedMap

namespace CompilerSession

/-!
# JSON values

A value with its compact text.  The members of an object are written in the
order in which they are listed.  Values that come from a reader list them in
ascending order of their keys, which is what `Ordered` says; values that a
program puts together may have an order of their own.
-/

/-- A JSON value. -/
inductive Json where
  | null
  | bool (value : Bool)
  | number (value : Json.Number)
  | string (text : String)
  | array (elements : List Json)
  | object (members : List (String × Json))

namespace Json

instance : Inhabited Json := ⟨.null⟩

mutual

/--
Every object in the value lists its members in strictly ascending order of the
keys.
-/
def Ordered : Json → Prop
  | .array elements => OrderedElements elements
  | .object members => Entries.Ascending members ∧ OrderedMembers members
  | _ => True

/-- Every element is ordered. -/
def OrderedElements : List Json → Prop
  | [] => True
  | element :: rest => Ordered element ∧ OrderedElements rest

/-- Every member has an ordered value. -/
def OrderedMembers : List (String × Json) → Prop
  | [] => True
  | (_, value) :: rest => Ordered value ∧ OrderedMembers rest

end

/-- A natural number of at most 64 bits. -/
def natural (value : UInt64) : Json := .number (.ofUInt64 value)

/-- The truth value that a value is. -/
def bool? : Json → Option Bool
  | .bool value => some value
  | _ => none

/-- The text that a value is. -/
def string? : Json → Option String
  | .string text => some text
  | _ => none

/--
The natural number that a value is; a double is none, whatever it is equal to.
-/
def natural? : Json → Option Nat
  | .number held => held.natural?
  | _ => none

/-- The member of an object under a key. -/
def member? (key : String) : Json → Option Json
  | .object members => Entries.find? key members
  | _ => none

mutual

/-- The compact text of a value. -/
def render : Json → List Char
  | .null => ['n', 'u', 'l', 'l']
  | .bool true => ['t', 'r', 'u', 'e']
  | .bool false => ['f', 'a', 'l', 's', 'e']
  | .number held => held.render
  | .string text => StringLiteral.encode text
  | .array [] => ['[', ']']
  | .array (first :: rest) => '[' :: (render first ++ renderElements rest)
  | .object [] => ['{', '}']
  | .object ((key, value) :: rest) =>
    '{' ::
      (StringLiteral.encode key ++ ':' :: (render value ++ renderMembers rest))

/-- The text of the elements after the first and of the end of their array. -/
def renderElements : List Json → List Char
  | [] => [']']
  | element :: rest => ',' :: (render element ++ renderElements rest)

/-- The text of the members after the first and of the end of their object. -/
def renderMembers : List (String × Json) → List Char
  | [] => ['}']
  | (key, value) :: rest =>
    ',' ::
      (StringLiteral.encode key ++ ':' :: (render value ++ renderMembers rest))

end

/-- The compact text of a value. -/
def text (value : Json) : String := String.ofList value.render

/-- The object with the entries of a map. -/
def ofMap
    {α : Type}
    (encode : α → Json)
    (map : OrderedMap α) : Json :=
  .object (map.mapValues encode).entries

end Json

end CompilerSession
