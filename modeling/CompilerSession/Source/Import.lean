namespace CompilerSession.Import

/-!
# Import statements

An import statement begins a line and names one path:

* spaces or tabs, the word `import`, spaces or tabs;
* a quote, a path that is not empty and holds no quote of either kind, a quote;
* a semicolon.

The two quotes need not be of one kind and the path may run over several lines.
Statements are taken from left to right and never overlap.  `scan` lists the
paths they name, with a path that starts with `./` moved into the directory of
the target.
-/

/-- Whether a character may stand between the words of a statement. -/
def isGap (character : Char) : Bool := character == ' ' || character == '\t'

/-- Whether a character opens or closes a path. -/
def isQuote (character : Char) : Bool := character == '\x27' || character == '"'

/-- The text after the word `import`, if the text starts with it. -/
def afterKeyword? (text : List Char) : Option (List Char) :=
  match text with
  | 'i' :: 'm' :: 'p' :: 'o' :: 'r' :: 't' :: rest => some rest
  | _ => none

/-- The quoted path that a text starts with and the text after its semicolon. -/
def quotedPath? (text : List Char) : Option (List Char × List Char) :=
  match text with
  | [] => none
  | opening :: body =>
    match body.takeWhile (fun character => !isQuote character),
        body.dropWhile (fun character => !isQuote character) with
    | first :: path, _ :: ';' :: rest =>
      if isQuote opening then some (first :: path, rest) else none
    | _, _ => none

/--
The path of the statement that a text starts with and the text after the
statement.
-/
def statement? (text : List Char) : Option (List Char × List Char) :=
  match afterKeyword? (text.dropWhile isGap) with
  | some rest => quotedPath? (rest.dropWhile isGap)
  | none => none

/-- A keyword is read off a longer text. -/
private theorem afterKeyword?_length
    {text rest : List Char}
    (found : afterKeyword? text = some rest) :
    rest.length < text.length := by
  unfold afterKeyword? at found
  split at found
  · cases found
    simp only [List.length_cons]
    omega
  · cases found

/-- A quoted path is read off a longer text. -/
private theorem quotedPath?_length
    {text path rest : List Char}
    (found : quotedPath? text = some (path, rest)) :
    rest.length < text.length := by
  unfold quotedPath? at found
  split at found
  · cases found
  · rename_i opening body
    split at found
    · rename_i shape
      have shorter := (List.dropWhile_suffix (l := body)
        fun character => !isQuote character).length_le
      rw [shape] at shorter
      split at found
      · cases found
        simp only [List.length_cons] at shorter ⊢
        omega
      · cases found
    · cases found

/-- What follows a statement is shorter than what it begins. -/
theorem statement?_length
    {text path rest : List Char}
    (found : statement? text = some (path, rest)) :
    rest.length < text.length := by
  unfold statement? at found
  split at found
  · rename_i body keyword
    have one := afterKeyword?_length keyword
    have two := quotedPath?_length found
    have three := (List.dropWhile_suffix (l := text) isGap).length_le
    have four := (List.dropWhile_suffix (l := body) isGap).length_le
    omega
  · cases found

/--
The statement at a place in the text, which has to be the start of a line.
-/
def statementAt?
    (lineStart : Bool)
    (text : List Char) : Option (List Char × List Char) :=
  if lineStart then statement? text else none

/-- What follows a statement is shorter than what was left at its place. -/
theorem statementAt?_length
    {lineStart : Bool}
    {text path rest : List Char}
    (found : statementAt? lineStart text = some (path, rest)) :
    rest.length < text.length := by
  unfold statementAt? at found
  split at found
  · exact statement?_length found
  · cases found

/--
The paths of the statements of a text, taken from left to right.  The flag tells
whether the text left begins a line.
-/
def statements
    (lineStart : Bool)
    (text : List Char) : List (List Char) :=
  match found : statementAt? lineStart text with
  | some (path, rest) =>
    have _shorter := statementAt?_length found
    path :: statements false rest
  | none =>
    match text with
    | [] => []
    | character :: rest => statements (character == '\n') rest
termination_by text.length

/-- The part of a path up to its last slash, which is kept. -/
def directory (path : List Char) : List Char :=
  (path.reverse.dropWhile fun character => character != '/').reverse

/--
A path that starts with `./` is taken to lie in the directory of the target.
-/
def rooted (raw target : String) : String :=
  match raw.toList with
  | '.' :: '/' :: rest => String.ofList (directory target.toList ++ rest)
  | _ => raw

/-- The paths that the import statements of a content name, in text order. -/
def scan (content target : String) : List String :=
  (statements true content.toList).map fun path =>
    rooted (String.ofList path) target

end CompilerSession.Import
