import CompilerSession.Json.Token

namespace CompilerSession.Json

/-!
# JSON texts as trees

A tree holds what a text says before anything is decided about it: members in
text order with their repetitions, number literals as spelled, strings that may
lack a text.  A fault in the grammar ends the reading and leaves every container
that was open at that place without its end.  A decoder that walks the tree in
text order therefore meets the things that come before the fault first, and no
decoder can mistake a broken text for a whole one.

The tree is built by a machine that takes one token at a time and keeps the open
containers in a stack, so the depth of a text costs nothing but memory.
-/

/--
A value as it stands in a text; a container tells whether its end was reached.
-/
inductive Tree where
  | null
  | bool (value : Bool)
  | number (literal : NumberLiteral)
  | string (text? : Option String)
  | array (elements : List Tree) (closed : Bool)
  | object (members : List (Option String × Tree)) (closed : Bool)

namespace Tree

/-- A container that is open: its contents so far, the latest first. -/
inductive Frame where
  | array (elements : List Tree)
  | object (members : List (Option String × Tree))
  | member (members : List (Option String × Tree)) (key : Option String)

/-- What may come next. -/
inductive Expected where
  | value
  | valueOrEnd
  | key
  | keyOrEnd
  | colon
  | commaOrEnd

/-- What a token leads to: open containers, the finished root, or a fault. -/
inductive Outcome where
  | inside (frames : List Frame) (expected : Expected)
  | root (tree : Tree)
  | fault

/-- Put a finished value into the innermost open container. -/
def place (value : Tree) : List Frame → Outcome
  | [] => .root value
  | .array elements :: outer =>
      .inside (.array (value :: elements) :: outer) .commaOrEnd
  | .member members key :: outer =>
      .inside (.object ((key, value) :: members) :: outer) .commaOrEnd
  | .object _ :: _ => .fault

/-- Take a token that has to be a value or to begin one. -/
def takeValue (frames : List Frame) : Token → Outcome
  | .null => place .null frames
  | .bool value => place (.bool value) frames
  | .number literal => place (.number literal) frames
  | .string text? => place (.string text?) frames
  | .openArray => .inside (.array [] :: frames) .valueOrEnd
  | .openObject => .inside (.object [] :: frames) .keyOrEnd
  | _ => .fault

/-- Take a token that has to end the innermost container. -/
def takeEnd
    (frames : List Frame)
    (token : Token) : Outcome :=
  match token, frames with
  | .closeArray, .array elements :: outer =>
      place (.array elements.reverse true) outer
  | .closeObject, .object members :: outer =>
      place (.object members.reverse true) outer
  | _, _ => .fault

/-- Take a token that has to be a key. -/
def takeKey
    (frames : List Frame)
    (token : Token) : Outcome :=
  match token, frames with
  | .string key, .object members :: outer =>
      .inside (.member members key :: outer) .colon
  | _, _ => .fault

/-- Take a token that has to part two elements or members. -/
def takeComma (frames : List Frame) : Outcome :=
  match frames with
  | .array _ :: _ => .inside frames .value
  | .object _ :: _ => .inside frames .key
  | _ => .fault

/-- Take one token. -/
def step
    (frames : List Frame)
    (expected : Expected)
    (token : Token) : Outcome :=
  match expected, token with
  | .value, _ => takeValue frames token
  | .valueOrEnd, .closeArray => takeEnd frames token
  | .valueOrEnd, _ => takeValue frames token
  | .key, _ => takeKey frames token
  | .keyOrEnd, .closeObject => takeEnd frames token
  | .keyOrEnd, _ => takeKey frames token
  | .colon, .colon => .inside frames .value
  | .colon, _ => .fault
  | .commaOrEnd, .comma => takeComma frames
  | .commaOrEnd, _ => takeEnd frames token

/--
Leave all open containers without their ends; a value begun last goes where it
belongs.
-/
def abandon (inner? : Option Tree) : List Frame → Option Tree
  | [] => inner?
  | .array elements :: outer =>
    abandon (some (.array (elements.reverse ++ inner?.toList) false)) outer
  | .object members :: outer =>
    abandon (some (.object members.reverse false)) outer
  | .member members key :: outer =>
    let last := inner?.toList.map fun inner => (key, inner)
    abandon (some (.object (members.reverse ++ last) false)) outer

end Tree

/--
What a text holds: the value it begins with, and whether it is nothing but that
value.
-/
structure Document where
  root? : Option Tree
  whole : Bool

namespace Document

/-- Take the tokens of a text inside the open containers. -/
def build
    (frames : List Tree.Frame)
    (expected : Tree.Expected) : List Token → Document
  | [] => ⟨Tree.abandon none frames, false⟩
  | token :: rest =>
    match Tree.step frames expected token with
    | .inside frames expected => build frames expected rest
    | .root tree => ⟨some tree, rest.isEmpty⟩
    | .fault => ⟨Tree.abandon none frames, false⟩

/-- The document of a text. -/
def ofText
    (text : String) : Document :=
  build [] .value (Token.scan text.toList)

end Document

end CompilerSession.Json
