namespace CompilerSession.Text

/-!
# Texts inside texts

`occurs` decides whether one text stands somewhere inside another, `startsWith`
whether it stands at the front.
-/

/-- Whether a pattern stands at some place of a text. -/
def occurs (pattern : List Char) : List Char → Bool
  | [] => pattern.isEmpty
  | character :: rest =>
      pattern.isPrefixOf (character :: rest) || occurs pattern rest

/-- A pattern occurs exactly in the texts that have it as an infix. -/
theorem occurs_iff_infix {pattern text : List Char} :
    occurs pattern text = true ↔ pattern <:+: text := by
  induction text with
  | nil =>
      simp [occurs]
  | cons character rest inductionHypothesis =>
      simp [occurs, inductionHypothesis, List.infix_cons_iff]

/-- Whether a pattern stands at some place of a text. -/
def contains (text pattern : String) : Bool := occurs pattern.toList text.toList

/-- Whether a pattern stands at the front of a text. -/
def startsWith
    (text pattern : String) : Bool :=
  pattern.toList.isPrefixOf text.toList

end CompilerSession.Text
