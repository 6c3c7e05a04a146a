import TagTree.Parser.Basic

/-!
# Parsers from parsers

Ordered choice, optional parts, and sequences that keep some of their values.
None of these tries a parser twice at the same place: a choice commits to its
first alternative that matches.
-/

namespace TagTree.Parser

universe u v w

variable {α : Type u} {β : Type v} {γ : Type w}

/-- Applies a function to the value read. -/
def map (transform : α → β) (parser : Parser α) : Parser β :=
  parser.andThen fun value => succeed (transform value)

theorem run_map (transform : α → β) (parser : Parser α) (cursor : Cursor) :
    (parser.map transform).run cursor =
      (parser.run cursor).map fun (value, next) => (transform value, next) := by
  rw [map, run_andThen]
  cases parser.run cursor <;> rfl

/-- Reads with the parser where it matches, and reads nothing elsewhere. -/
def optional (parser : Parser α) : Parser (Option α) where
  run cursor :=
    match parser.run cursor with
    | none => some (none, cursor)
    | some (value, next) => some (some value, next)
  forward := by
    intro start stop _ matched
    split at matched
    · simp only [Option.some.injEq, Prod.mk.injEq] at matched
      exact matched.2 ▸ start.le_refl
    · next value next read =>
      simp only [Option.some.injEq, Prod.mk.injEq] at matched
      exact matched.2 ▸ parser.forward read

theorem run_optional (parser : Parser α) (cursor : Cursor) :
    parser.optional.run cursor =
      match parser.run cursor with
      | none => some (none, cursor)
      | some (value, next) => some (some value, next) := rfl

/-- Reads with the first parser, or with the second where the first does not match. -/
def orElse (first second : Parser α) : Parser α where
  run cursor :=
    match first.run cursor with
    | some result => some result
    | none => second.run cursor
  forward := by
    intro start stop _ matched
    split at matched
    · next result read =>
      simp only [Option.some.injEq] at matched
      exact first.forward (matched ▸ read)
    · exact second.forward matched

theorem run_orElse (first second : Parser α) (cursor : Cursor) :
    (first.orElse second).run cursor = (first.run cursor).or (second.run cursor) := by
  simp only [orElse]
  cases first.run cursor <;> rfl

/-- Reads with the first of the alternatives that matches. -/
def firstOf : List (Parser α) → Parser α
  | [] => fail
  | alternative :: others => alternative.orElse (firstOf others)

/-- A choice finds the first result among its alternatives. -/
theorem run_firstOf (alternatives : List (Parser α)) (cursor : Cursor) :
    (firstOf alternatives).run cursor =
      alternatives.findSome? fun alternative => alternative.run cursor := by
  induction alternatives with
  | nil => rfl
  | cons alternative others inductionHypothesis =>
      rw [firstOf, run_orElse, inductionHypothesis, List.findSome?_cons]
      cases alternative.run cursor <;> rfl

/-- Reads with both parsers, one after the other. -/
def pair (first : Parser α) (second : Parser β) : Parser (α × β) :=
  first.andThen fun left => second.map fun right => (left, right)

/-- Reads with both parsers and keeps the second value. -/
def skipThen (first : Parser α) (second : Parser β) : Parser β :=
  first.andThen fun _ => second

/-- Reads with both parsers and keeps the first value. -/
def thenSkip (first : Parser α) (second : Parser β) : Parser α :=
  first.andThen fun value => second.map fun _ => value

/-- Reads with all three parsers and keeps the value in the middle. -/
def between (opening : Parser α) (body : Parser β) (closing : Parser γ) : Parser β :=
  opening.skipThen (body.thenSkip closing)

end TagTree.Parser
