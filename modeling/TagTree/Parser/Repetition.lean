import TagTree.Parser.Basic

/-!
# Repetition

The three loops over parsers: any number of matches, at least one match, and
matches divided by separators.  Each goes on only while it makes progress.  A
match that reads nothing is kept as the last value, and the loop stops at the
place where that match was found.
-/

namespace TagTree.Parser

universe u v

variable {α : Type u} {β : Type v}

/--
Reads items from `start` on for as long as they match and make progress;
`found` holds the values read before, latest first.
-/
def manyFrom (item : Parser α) (found : List α) (start : Cursor) : List α × Cursor :=
  match matched : item.run start with
  | none => (found.reverse, start)
  | some (value, next) =>
    if progress : start.offset < next.offset then
      have : next.rest.length < start.rest.length :=
        Cursor.rest_length_lt (item.forward matched) progress
      manyFrom item (value :: found) next
    else
      ((value :: found).reverse, start)
termination_by start.rest.length

/-- Where the item does not match, the loop ends. -/
theorem manyFrom_of_none {item : Parser α} (found : List α) {start : Cursor}
    (unmatched : item.run start = none) :
    manyFrom item found start = (found.reverse, start) := by
  rw [manyFrom]
  split
  · rfl
  · next matched => simp [unmatched] at matched

/-- After a match that makes progress, the loop goes on behind it. -/
theorem manyFrom_of_lt {item : Parser α} (found : List α) {start next : Cursor} {value : α}
    (matched : item.run start = some (value, next))
    (progress : start.offset < next.offset) :
    manyFrom item found start = manyFrom item (value :: found) next := by
  rw [manyFrom]
  split
  · next unmatched => simp [matched] at unmatched
  · next otherValue otherNext otherMatched =>
    simp only [matched, Option.some.injEq, Prod.mk.injEq] at otherMatched
    obtain ⟨rfl, rfl⟩ := otherMatched
    rw [dif_pos progress]

/-- A match that reads nothing is kept, and the loop ends where it was found. -/
theorem manyFrom_of_not_lt {item : Parser α} (found : List α) {start next : Cursor}
    {value : α}
    (matched : item.run start = some (value, next))
    (stuck : ¬ start.offset < next.offset) :
    manyFrom item found start = ((value :: found).reverse, start) := by
  rw [manyFrom]
  split
  · next unmatched => simp [matched] at unmatched
  · next otherValue otherNext otherMatched =>
    simp only [matched, Option.some.injEq, Prod.mk.injEq] at otherMatched
    obtain ⟨rfl, rfl⟩ := otherMatched
    rw [dif_neg stuck]

/-- The loop only reads on. -/
theorem le_manyFrom (item : Parser α) (found : List α) (start : Cursor) :
    start ≤ (manyFrom item found start).2 := by
  fun_induction manyFrom item found start with
  | case1 found start _ => exact start.le_refl
  | case2 found start value next matched _ _ inductionHypothesis =>
      exact Cursor.le_trans (item.forward matched) inductionHypothesis
  | case3 found start value next _ _ => exact start.le_refl

/-- The values read before stand in front of those read from `start` on. -/
theorem manyFrom_eq_append (item : Parser α) (found : List α) (start : Cursor) :
    manyFrom item found start =
      (found.reverse ++ (manyFrom item [] start).1, (manyFrom item [] start).2) := by
  match matched : item.run start with
  | none => simp [manyFrom_of_none _ matched]
  | some (value, next) =>
      by_cases progress : start.offset < next.offset
      · have : next.rest.length < start.rest.length :=
          Cursor.rest_length_lt (item.forward matched) progress
        rw [manyFrom_of_lt found matched progress, manyFrom_of_lt [] matched progress,
          manyFrom_eq_append item (value :: found) next,
          manyFrom_eq_append item [value] next]
        simp
      · simp [manyFrom_of_not_lt _ matched progress]
termination_by start.rest.length

/-- Reads items for as long as they match; always matches. -/
def many (item : Parser α) : Parser (List α) where
  run start := some (manyFrom item [] start)
  forward := by
    intro start stop _ matched
    simp only [Option.some.injEq] at matched
    have forward := le_manyFrom item [] start
    rw [matched] at forward
    exact forward

@[simp]
theorem run_many (item : Parser α) (start : Cursor) :
    item.many.run start = some (manyFrom item [] start) := rfl

/-- Reads items for as long as they match, at least one. -/
def many1 (item : Parser α) : Parser (List α) where
  run start :=
    match item.run start with
    | none => none
    | some (first, next) =>
      if start.offset < next.offset then
        some (manyFrom item [first] next)
      else
        some ([first], next)
  forward := by
    intro start stop _ matched
    split at matched
    · simp at matched
    · next first next read =>
      split at matched
      · simp only [Option.some.injEq] at matched
        have forward := le_manyFrom item [first] next
        rw [matched] at forward
        exact Cursor.le_trans (item.forward read) forward
      · simp only [Option.some.injEq, Prod.mk.injEq] at matched
        exact matched.2 ▸ item.forward read

/--
Reads a separator and an item from `start` on for as long as both match and
make progress.  A separator without an item after it is not read.
-/
def sepByFrom (item : Parser α) (separator : Parser β) (found : List α)
    (start : Cursor) : List α × Cursor :=
  match separated : separator.run start with
  | none => (found.reverse, start)
  | some (_, afterSeparator) =>
    match matched : item.run afterSeparator with
    | none => (found.reverse, start)
    | some (value, next) =>
      if progress : start.offset < next.offset then
        have : next.rest.length < start.rest.length :=
          Cursor.rest_length_lt
            (Cursor.le_trans (separator.forward separated) (item.forward matched))
            progress
        sepByFrom item separator (value :: found) next
      else
        ((value :: found).reverse, start)
termination_by start.rest.length

/-- Where the separator does not match, the loop ends. -/
theorem sepByFrom_of_no_separator {item : Parser α} {separator : Parser β}
    (found : List α) {start : Cursor}
    (unseparated : separator.run start = none) :
    sepByFrom item separator found start = (found.reverse, start) := by
  rw [sepByFrom]
  split
  · rfl
  · next separated => simp [unseparated] at separated

/-- Behind a separator, the item decides whether the loop goes on. -/
theorem sepByFrom_of_separator {item : Parser α} {separator : Parser β}
    (found : List α) {start afterSeparator : Cursor} {mark : β}
    (separated : separator.run start = some (mark, afterSeparator)) :
    sepByFrom item separator found start =
      match item.run afterSeparator with
      | none => (found.reverse, start)
      | some (value, next) =>
        if start.offset < next.offset then
          sepByFrom item separator (value :: found) next
        else
          ((value :: found).reverse, start) := by
  rw [sepByFrom]
  split
  · next unseparated => simp [separated] at unseparated
  · next otherMark otherAfter otherSeparated =>
    simp only [separated, Option.some.injEq, Prod.mk.injEq] at otherSeparated
    obtain ⟨rfl, rfl⟩ := otherSeparated
    split
    · next unmatched => simp [unmatched]
    · next value next matched =>
      simp only [matched]
      split <;> rfl

/-- The loop only reads on. -/
theorem le_sepByFrom (item : Parser α) (separator : Parser β) (found : List α)
    (start : Cursor) :
    start ≤ (sepByFrom item separator found start).2 := by
  fun_induction sepByFrom item separator found start with
  | case1 found start _ => exact start.le_refl
  | case2 found start _ afterSeparator _ _ => exact start.le_refl
  | case3 found start _ afterSeparator separated value next matched _ _
      inductionHypothesis =>
      exact Cursor.le_trans
        (Cursor.le_trans (separator.forward separated) (item.forward matched))
        inductionHypothesis
  | case4 found start _ afterSeparator _ value next _ _ => exact start.le_refl

/-- Reads at least one item, with a separator between each two. -/
def sepBy1 (item : Parser α) (separator : Parser β) : Parser (List α) where
  run start :=
    match item.run start with
    | none => none
    | some (first, next) => some (sepByFrom item separator [first] next)
  forward := by
    intro start stop _ matched
    split at matched
    · simp at matched
    · next first next read =>
      simp only [Option.some.injEq] at matched
      have forward := le_sepByFrom item separator [first] next
      rw [matched] at forward
      exact Cursor.le_trans (item.forward read) forward

end TagTree.Parser
