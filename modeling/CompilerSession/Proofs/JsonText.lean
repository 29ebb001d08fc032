import CompilerSession.Proofs.FailurePayload
import CompilerSession.Proofs.NumberText

namespace CompilerSession.Json

/-!
# Written texts as trees

What a reader makes of the compact text of a value is the tree of the value: its
members in the order in which they are listed, each number as it is spelled,
each string with its text, and every container with its end.  This holds of any
value, however deep it is nested; how deep a decoder goes is another matter, and
so is what it makes of a double.

The reader takes a value in the midst of a text and puts it into the innermost
open container, so that is how the main lemma states it.  A number has no end of
its own and needs a mark after it, or the end of the text.
-/

/-! ## The tree of a value -/

mutual

/-- The tree that the text of a value stands for. -/
def tree : Json → Tree
  | .null => .null
  | .bool value => .bool value
  | .number held => .number held.literal
  | .string text => .string (some text)
  | .array elements => .array (elementTrees elements) true
  | .object members => .object (memberTrees members) true

/-- The trees of the elements of an array. -/
def elementTrees : List Json → List Tree
  | [] => []
  | element :: rest => tree element :: elementTrees rest

/-- The trees of the members of an object. -/
def memberTrees : List (String × Json) → List (Option String × Tree)
  | [] => []
  | (key, value) :: rest => (some key, tree value) :: memberTrees rest

end

mutual

/-- No number in the value is a double. -/
def Integral : Json → Prop
  | .number (.double _) => False
  | .array elements => IntegralElements elements
  | .object members => IntegralMembers members
  | _ => True

/-- No number in an element is a double. -/
def IntegralElements : List Json → Prop
  | [] => True
  | element :: rest => Integral element ∧ IntegralElements rest

/-- No number in the value of a member is a double. -/
def IntegralMembers : List (String × Json) → Prop
  | [] => True
  | (_, value) :: rest => Integral value ∧ IntegralMembers rest

end

mutual

/-- Look for a double in a value. -/
def decideIntegral : (value : Json) → Decidable value.Integral
  | .null => .isTrue trivial
  | .bool _ => .isTrue trivial
  | .number (.integer _ _) => .isTrue trivial
  | .number (.double _) => .isFalse id
  | .string _ => .isTrue trivial
  | .array elements => decideIntegralElements elements
  | .object members => decideIntegralMembers members

/-- Look for a double in the elements. -/
def decideIntegralElements :
  (elements : List Json) → Decidable (IntegralElements elements)
  | [] => .isTrue trivial
  | element :: rest =>
    @instDecidableAnd _ _ (decideIntegral element) (decideIntegralElements rest)

/-- Look for a double in the values of the members. -/
def decideIntegralMembers :
    (members : List (String × Json)) → Decidable (IntegralMembers members)
  | [] => .isTrue trivial
  | (_, value) :: rest =>
    @instDecidableAnd _ _ (decideIntegral value) (decideIntegralMembers rest)

end

instance : DecidablePred Integral := decideIntegral

/-- The trees of members are the members with the tree of each value. -/
theorem memberTrees_eq_map (members : List (String × Json)) :
    memberTrees members = members.map fun member =>
      (some member.1, member.2.tree) := by
  induction members with
  | nil =>
      rfl
  | cons member rest inductionHypothesis =>
      rw [memberTrees, inductionHypothesis, List.map_cons]

/-- Elements have no double in them if none of them has. -/
theorem integralElements_iff {elements : List Json} :
    IntegralElements elements ↔ ∀ element ∈ elements, element.Integral := by
  induction elements with
  | nil =>
      simp [IntegralElements]
  | cons element rest inductionHypothesis =>
      simp [IntegralElements, inductionHypothesis]

/-- Members have no double in them if no value of theirs has. -/
theorem integralMembers_iff {members : List (String × Json)} :
    IntegralMembers members ↔ ∀ member ∈ members, member.2.Integral := by
  induction members with
  | nil =>
      simp [IntegralMembers]
  | cons member rest inductionHypothesis =>
      simp [IntegralMembers, inductionHypothesis]

/-! ## Tokens -/

namespace Token

@[simp] theorem scan_openArray (rest : List Char) :
    scan ('[' :: rest) = .openArray :: scan rest :=
  scan_cons rfl rfl

@[simp] theorem scan_closeArray (rest : List Char) :
    scan (']' :: rest) = .closeArray :: scan rest :=
  scan_cons rfl rfl

@[simp] theorem scan_null (rest : List Char) :
    scan ('n' :: 'u' :: 'l' :: 'l' :: rest) = .null :: scan rest :=
  scan_cons rfl rfl

@[simp] theorem scan_true (rest : List Char) :
    scan ('t' :: 'r' :: 'u' :: 'e' :: rest) = .bool true :: scan rest :=
  scan_cons rfl rfl

@[simp] theorem scan_false (rest : List Char) :
    scan ('f' :: 'a' :: 'l' :: 's' :: 'e' :: rest) = .bool false :: scan rest :=
  scan_cons rfl rfl

/-- A text that begins as a number does is cut as one. -/
private theorem next?_numeric
    {first : Char}
    {rest : List Char}
    (numeric : first = '-' ∨ first.isDigit = true) :
    next? (first :: rest) =
      (NumberLiteral.read? (first :: rest)).map fun (literal, after) =>
        (.number literal, after) := by
  unfold next?
  split
  case h_11 =>
    rfl
  all_goals
    rename_i shape
    cases shape
    exact absurd numeric (by decide)

/-- No blank stands in front of a number. -/
private theorem visible_numeric
    {first : Char}
    (rest : List Char)
    (numeric : first = '-' ∨ first.isDigit = true) :
    (first :: rest).dropWhile isBlank = first :: rest := by
  have blank : isBlank first = false := by
    rw [Bool.eq_false_iff]
    intro blank
    simp only [isBlank, Bool.or_eq_true, beq_iff_eq] at blank
    rcases blank with ((rfl | rfl) | rfl) | rfl
    all_goals exact absurd numeric (by decide)
  simp [blank]

/-- The text of a number is one token. -/
theorem scan_render
    {rest : List Char}
    (held : Number)
    (delimited : Delimited rest) :
    scan (held.render ++ rest) = .number held.literal :: scan rest := by
  have read := held.read?_render delimited
  obtain ⟨first, others, shape, numeric⟩ := held.exists_render_eq_cons
  rw [shape, List.cons_append] at read ⊢
  refine scan_cons (visible_numeric _ numeric) ?_
  rw [next?_numeric numeric, read]
  rfl

end Token

/-! ## The reader on a written text -/

/-- A finished value may be put into the innermost open container. -/
def Tree.Receptive : List Tree.Frame → Prop
  | .object _ :: _ => False
  | _ => True

namespace Document

/--
What becomes of a text once a value is put into the innermost open container.
-/
def placed
    (frames : List Tree.Frame)
    (value : Tree)
    (rest : List Token) : Document :=
  match Tree.place value frames with
  | .inside frames expected => build frames expected rest
  | .root tree => ⟨some tree, rest.isEmpty⟩
  | .fault => ⟨Tree.abandon none frames, false⟩

/-- A bracket ends a list, which is placed with its elements in order. -/
private theorem build_closeArray
    {outer : List Tree.Frame}
    (known : List Tree)
    (receptive : Tree.Receptive outer)
    (rest : List Token) :
    build (.array known :: outer) .commaOrEnd (.closeArray :: rest) =
      placed outer (.array known.reverse true) rest := by
  cases outer with
  | nil =>
      rfl
  | cons frame others =>
      cases frame with
      | object members =>
          exact receptive.elim
      | _ =>
          rfl

/-- A brace ends an object, which is placed with its members in order. -/
private theorem build_closeObject
    {outer : List Tree.Frame}
    (known : List (Option String × Tree))
    (receptive : Tree.Receptive outer)
    (rest : List Token) :
    build (.object known :: outer) .commaOrEnd (.closeObject :: rest) =
      placed outer (.object known.reverse true) rest := by
  cases outer with
  | nil =>
      rfl
  | cons frame others =>
      cases frame with
      | object members =>
          exact receptive.elim
      | _ =>
          rfl

/--
A value may come next, whether or not the end of an array may come as well.
-/
def WantsValue : Tree.Expected → Prop
  | .value => True
  | .valueOrEnd => True
  | _ => False

/-- What is not the end of an array is taken as the beginning of a value. -/
private theorem build_of_wants
    {frames : List Tree.Frame}
    {expected : Tree.Expected}
    {token : Token}
    {rest : List Token}
    (wanted : WantsValue expected)
    (other : token ≠ .closeArray) :
    build frames expected (token :: rest) =
      build frames .value (token :: rest) := by
  cases expected with
  | value =>
      rfl
  | valueOrEnd =>
      cases token with
      | closeArray =>
          exact absurd rfl other
      | _ =>
          rfl
  | _ =>
      exact wanted.elim

/-- What is written after an element ends a number. -/
private theorem delimited_renderElements
    (elements : List Json)
    (rest : List Char) :
    Delimited (renderElements elements ++ rest) := by
  cases elements <;> simp [Delimited, renderElements]

/-- What is written after a member ends a number. -/
private theorem delimited_renderMembers
    (members : List (String × Json))
    (rest : List Char) :
    Delimited (renderMembers members ++ rest) := by
  cases members <;> simp [Delimited, renderMembers]

mutual

/-- A reader that wants a value takes a written one as its tree. -/
theorem build_render
    {frames : List Tree.Frame}
    {expected : Tree.Expected}
    {rest : List Char}
    (value : Json)
    (receptive : Tree.Receptive frames)
    (wanted : WantsValue expected)
    (delimited : Delimited rest) :
    build frames expected (Token.scan (value.render ++ rest)) =
      placed frames value.tree (Token.scan rest) := by
  cases value with
  | null =>
      simp only [render, List.cons_append, List.nil_append, Token.scan_null]
      exact build_of_wants wanted nofun
  | bool flag =>
      cases flag with
      | false =>
          simp only [render, List.cons_append, List.nil_append,
            Token.scan_false]
          exact build_of_wants wanted nofun
      | true =>
          simp only [render, List.cons_append, List.nil_append, Token.scan_true]
          exact build_of_wants wanted nofun
  | number held =>
      rw [render, Token.scan_render held delimited]
      exact build_of_wants wanted nofun
  | string text =>
      rw [render, Token.scan_encode]
      exact build_of_wants wanted nofun
  | array elements =>
      cases elements with
      | nil =>
          simp only [render, List.cons_append, List.nil_append,
            Token.scan_openArray, Token.scan_closeArray]
          rw [build_of_wants wanted (nofun : Token.openArray ≠ .closeArray)]
          exact build_closeArray [] receptive _
      | cons first others =>
          simp only [render, List.cons_append, List.append_assoc,
            Token.scan_openArray]
          calc
            build frames expected (.openArray :: _)
            _ = build (.array [] :: frames) .valueOrEnd
                  (Token.scan
                    (first.render ++ (renderElements others ++ rest))) :=
              build_of_wants wanted nofun
            _ = build (.array [first.tree] :: frames) .commaOrEnd
                  (Token.scan (renderElements others ++ rest)) :=
              build_render first trivial trivial (delimited_renderElements _ _)
            _ = placed frames (.array (elementTrees (first :: others)) true)
              (Token.scan rest) :=
              build_renderElements others [first.tree] receptive rest
  | object members =>
      cases members with
      | nil =>
          simp only [render, List.cons_append, List.nil_append,
            Token.scan_openObject, Token.scan_closeObject]
          rw [build_of_wants wanted (nofun : Token.openObject ≠ .closeArray)]
          exact build_closeObject [] receptive _
      | cons first others =>
          obtain ⟨key, value⟩ := first
          simp only [render, List.cons_append, List.append_assoc,
            Token.scan_openObject, Token.scan_encode, Token.scan_colon]
          calc
            build frames expected
                (.openObject :: .string (some key) :: .colon :: _)
            _ = build (.member [] (some key) :: frames) .value
                  (Token.scan
                    (value.render ++ (renderMembers others ++ rest))) :=
              build_of_wants wanted nofun
            _ = build (.object [(some key, value.tree)] :: frames) .commaOrEnd
                  (Token.scan (renderMembers others ++ rest)) :=
              build_render value trivial trivial (delimited_renderMembers _ _)
            _ = placed frames
                  (.object (memberTrees ((key, value) :: others)) true)
                  (Token.scan rest) :=
              build_renderMembers others [(some key, value.tree)] receptive rest

/--
A reader takes the elements after the first of an array and the end of it.
-/
theorem build_renderElements
    {outer : List Tree.Frame}
    (elements : List Json)
    (known : List Tree)
    (receptive : Tree.Receptive outer)
    (rest : List Char) :
    build (.array known :: outer) .commaOrEnd
      (Token.scan (renderElements elements ++ rest)) =
      placed outer (.array (known.reverse ++ elementTrees elements) true)
        (Token.scan rest) := by
  cases elements with
  | nil =>
      simp only [renderElements, List.cons_append, List.nil_append,
        Token.scan_closeArray, elementTrees, List.append_nil]
      exact build_closeArray known receptive _
  | cons first others =>
      simp only [renderElements, List.cons_append, List.append_assoc,
        Token.scan_comma]
      calc
        build (.array known :: outer) .commaOrEnd (.comma :: _)
        _ = build (.array (first.tree :: known) :: outer) .commaOrEnd
              (Token.scan (renderElements others ++ rest)) :=
          build_render first trivial trivial (delimited_renderElements _ _)
        _ = placed outer
              (.array
                ((first.tree :: known).reverse ++ elementTrees others) true)
              (Token.scan rest) :=
          build_renderElements others (first.tree :: known) receptive rest
        _ = _ := by
          simp [elementTrees]

/--
A reader takes the members after the first of an object and the end of it.
-/
theorem build_renderMembers
    {outer : List Tree.Frame}
    (members : List (String × Json))
    (known : List (Option String × Tree))
    (receptive : Tree.Receptive outer)
    (rest : List Char) :
    build (.object known :: outer) .commaOrEnd
      (Token.scan (renderMembers members ++ rest)) =
      placed outer (.object (known.reverse ++ memberTrees members) true)
        (Token.scan rest) := by
  cases members with
  | nil =>
      simp only [renderMembers, List.cons_append, List.nil_append,
        Token.scan_closeObject, memberTrees, List.append_nil]
      exact build_closeObject known receptive _
  | cons first others =>
      obtain ⟨key, value⟩ := first
      simp only [renderMembers, List.cons_append, List.append_assoc,
        Token.scan_comma, Token.scan_encode, Token.scan_colon]
      calc
        build (.object known :: outer) .commaOrEnd
            (.comma :: .string (some key) :: .colon :: _)
        _ = build (.object ((some key, value.tree) :: known) :: outer)
              .commaOrEnd (Token.scan (renderMembers others ++ rest)) :=
          build_render value trivial trivial (delimited_renderMembers _ _)
        _ = placed outer
              (.object
                (((some key, value.tree) :: known).reverse ++
                  memberTrees others) true)
              (Token.scan rest) :=
          build_renderMembers others ((some key, value.tree) :: known)
            receptive rest
        _ = _ := by
          simp [memberTrees]

end

/-- The text of a value is read as its tree and nothing else. -/
theorem ofText_text (value : Json) :
    ofText value.text = ⟨some value.tree, true⟩ := by
  have delimited : Delimited [] := nofun
  have receptive : Tree.Receptive [] := trivial
  have wanted : WantsValue .value := trivial
  have read := build_render value receptive wanted delimited
  rw [List.append_nil, Token.scan_nil] at read
  rw [ofText, Json.text, String.toList_ofList, read]
  rfl

end Document

end CompilerSession.Json
