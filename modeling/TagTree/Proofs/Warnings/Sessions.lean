import Mathlib.Data.List.DropRight
import Mathlib.Data.List.Nodup
import TagTree.Proofs.Token.Repetitions
import TagTree.Warnings

/-!
# Sessions of remarks

In a session remarks are made, asked for and forgotten, and texts are scanned,
in any order.  What is remembered at each moment are the texts of all remarks
that were raised since the last time they were forgotten, by hand or by a scan.
A remark is made exactly if its text is not among these.

One request leaves the remembered texts with the texts of the remarks it made
put in front.  So the remembered texts are the remarks made since they were
last forgotten, and no text is among them twice.

What a scan reads is not changed by anything that is remembered: apart from
the remarks its trail of events is always the same.
-/

namespace TagTree

/-- The event is a remark. -/
def Event.isRemark : Event → Bool
  | warned _ => true
  | _ => false

@[simp]
theorem Event.isRemark_warned (warning : Warning) : (warned warning).isRemark = true := rfl

theorem Event.isRemark_eq_false {event : Event}
    (notWarned : ∀ warning : Warning, event = .warned warning → False) :
    event.isRemark = false := by
  cases event with
  | warned warning => exact (notWarned warning rfl).elim
  | _ => rfl

namespace Warnings

/-! ## New remarks -/

/-- The remarks whose text is neither among the given ones nor that of an earlier remark. -/
def fresh (texts : List String) : List Warning → List Warning
  | [] => []
  | warning :: others =>
    if warning.text ∈ texts then fresh texts others
    else warning :: fresh (warning.text :: texts) others

theorem mem_text_fresh_iff {texts : List String} {raised : List Warning} {text : String} :
    (text ∈ (fresh texts raised).map Warning.text ∨ text ∈ texts) ↔
      (text ∈ raised.map Warning.text ∨ text ∈ texts) := by
  induction raised generalizing texts with
  | nil => rfl
  | cons warning others inductionHypothesis =>
      rw [fresh]
      split
      · next known =>
        have redundant : text = warning.text → text ∈ texts := by
          rintro rfl
          exact known
        rw [inductionHypothesis, List.map_cons, List.mem_cons]
        tauto
      · have step := @inductionHypothesis (warning.text :: texts)
        rw [List.mem_cons] at step
        simp only [List.map_cons, List.mem_cons]
        tauto

theorem nodup_text_fresh {texts : List String}
    (nodup : texts.Nodup) (raised : List Warning) :
    (((fresh texts raised).map Warning.text).reverse ++ texts).Nodup := by
  induction raised generalizing texts with
  | nil => exact nodup
  | cons warning others inductionHypothesis =>
      rw [fresh]
      split
      · exact inductionHypothesis nodup
      · next unknown =>
        have both := inductionHypothesis (List.nodup_cons.mpr ⟨unknown, nodup⟩)
        simpa using both

/-- Only which texts are given matters, not how often or in which order. -/
theorem fresh_congr {texts otherTexts : List String}
    (same : ∀ text : String, text ∈ texts ↔ text ∈ otherTexts) (raised : List Warning) :
    fresh texts raised = fresh otherTexts raised := by
  induction raised generalizing texts otherTexts with
  | nil => rfl
  | cons warning others inductionHypothesis =>
      have sameWith :
          ∀ text : String, text ∈ warning.text :: texts ↔ text ∈ warning.text :: otherTexts := by
        intro text
        rw [List.mem_cons, List.mem_cons, same text]
      simp only [fresh, same warning.text, inductionHypothesis same,
        inductionHypothesis sameWith]

/-- A text that is given is as good as leaving out its remarks. -/
theorem fresh_cons_eq_filter (text : String) (texts : List String) (raised : List Warning) :
    fresh (text :: texts) raised =
      fresh texts (raised.filter fun warning => warning.text ≠ text) := by
  induction raised generalizing texts with
  | nil => rfl
  | cons warning others inductionHypothesis =>
      by_cases sameText : warning.text = text
      · rw [fresh, if_pos (by simp [sameText]), inductionHypothesis,
          List.filter_cons_of_neg (by simp [sameText])]
      · have swapped :
            fresh (warning.text :: text :: texts) others =
              fresh (text :: warning.text :: texts) others := by
          apply fresh_congr
          intro other
          simp only [List.mem_cons]
          tauto
        rw [List.filter_cons_of_pos (by simp [sameText]), fresh, fresh, swapped,
          inductionHypothesis, inductionHypothesis]
        simp only [List.mem_cons, sameText, false_or]

/-- Different repetitions in the list are remarked on in different words. -/
def Distinguished (repetitions : List (String × String)) : Prop :=
  ∀ left ∈ repetitions, ∀ right ∈ repetitions,
    (Warning.ofRepetition left).text = (Warning.ofRepetition right).text → left = right

theorem Distinguished.mono {repetitions fewer : List (String × String)}
    (distinguished : Distinguished repetitions)
    (subset : fewer ⊆ repetitions) :
    Distinguished fewer := by
  intro left leftMember right rightMember
  exact distinguished left (subset leftMember) right (subset rightMember)

/-- To leave out the words of a repetition is to leave out that repetition. -/
theorem Distinguished.filter_map_ofRepetition
    {first : String × String} {others : List (String × String)}
    (distinguished : Distinguished (first :: others)) :
    (others.map Warning.ofRepetition).filter
        (fun warning => warning.text ≠ (Warning.ofRepetition first).text) =
      (others.filter fun other => !other == first).map Warning.ofRepetition := by
  rw [List.filter_map]
  congr 1
  apply List.filter_congr
  intro other member
  have sameText :
      (Warning.ofRepetition other).text = (Warning.ofRepetition first).text ↔
        other = first := by
    constructor
    · exact distinguished other (by simp [member]) first (by simp)
    · rintro rfl
      rfl
  rw [Bool.eq_iff_iff]
  simp [sameText]

/--
Of repetitions with different words, those are remarked on whose words are not
given, each at its first occurrence.
-/
theorem fresh_map_ofRepetition
    (texts : List String) {repetitions : List (String × String)}
    (distinguished : Distinguished repetitions) :
    fresh texts (repetitions.map Warning.ofRepetition) =
      (repetitions.eraseDups.map Warning.ofRepetition).filter
        fun warning => warning.text ∉ texts := by
  -- The induction is on the length: behind the first repetition, all that are
  -- equal to it are left out on both sides.
  match repetitions with
  | [] => rfl
  | first :: others =>
      have shorter : (others.filter fun other => !other == first).length < others.length + 1 :=
        Nat.lt_succ_of_le (List.length_filter_le _ _)
      have subset : (others.filter fun other => !other == first) ⊆ first :: others :=
        List.subset_cons_of_subset first (List.filter_subset_self others)
      have behind :
          fresh ((Warning.ofRepetition first).text :: texts)
              (others.map Warning.ofRepetition) =
            ((others.filter fun other => !other == first).eraseDups.map
              Warning.ofRepetition).filter fun warning => warning.text ∉ texts := by
        rw [fresh_cons_eq_filter, distinguished.filter_map_ofRepetition,
          fresh_map_ofRepetition texts (distinguished.mono subset)]
      rw [List.map_cons, List.eraseDups_cons, List.map_cons, fresh]
      by_cases known : (Warning.ofRepetition first).text ∈ texts
      · rw [if_pos known, List.filter_cons_of_neg (by simpa using known), ← behind]
        apply fresh_congr
        intro text
        rw [List.mem_cons]
        constructor
        · exact Or.inr
        · rintro (rfl | given)
          · exact known
          · exact given
      · rw [if_neg known, List.filter_cons_of_pos (by simpa using known), behind]
termination_by repetitions.length

/-! ## Sifting -/

@[simp]
theorem among_nil : among [] = [] := rfl

@[simp]
theorem among_append (left right : List Event) :
    among (left ++ right) = among left ++ among right :=
  List.filterMap_append

theorem among_flatMap {α : Type} (items : List α) (events : α → List Event) :
    among (items.flatMap events) = items.flatMap fun item => among (events item) :=
  List.filterMap_flatMap

@[simp]
theorem among_cons_warned (warning : Warning) (others : List Event) :
    among (.warned warning :: others) = warning :: among others :=
  List.filterMap_cons_some rfl

theorem among_cons_of_not_isRemark {event : Event}
    (notRemark : event.isRemark = false) (others : List Event) :
    among (event :: others) = among others := by
  cases event with
  | warned warning => cases notRemark
  | _ => rfl

theorem contains_iff {warnings : Warnings} {warning : Warning} :
    warnings.contains warning = true ↔ warning.text ∈ warnings.texts :=
  List.contains_iff_mem

/-- Of the remarks, sifting lets the new ones pass. -/
theorem among_siftFrom (passed : List Event) (warnings : Warnings) (events : List Event) :
    among (siftFrom passed warnings events).1 =
      among passed.reverse ++ fresh warnings.texts (among events) := by
  fun_induction siftFrom passed warnings events with
  | case1 passed warnings => simp [fresh]
  | case2 passed warnings warning others known inductionHypothesis =>
      rw [inductionHypothesis, among_cons_warned, fresh, if_pos (contains_iff.mp known)]
  | case3 passed warnings warning others unknown inductionHypothesis =>
      rw [inductionHypothesis, among_cons_warned, fresh, if_neg (mt contains_iff.mpr unknown)]
      simp [insert]
  | case4 passed warnings event others notWarned inductionHypothesis =>
      have notRemark := Event.isRemark_eq_false notWarned
      rw [inductionHypothesis, among_cons_of_not_isRemark notRemark, List.reverse_cons,
        among_append, among_cons_of_not_isRemark notRemark, among_nil, List.append_nil]

/-- The texts of the new remarks are remembered, latest first. -/
theorem texts_siftFrom (passed : List Event) (warnings : Warnings) (events : List Event) :
    (siftFrom passed warnings events).2.texts =
      ((fresh warnings.texts (among events)).map Warning.text).reverse ++ warnings.texts := by
  fun_induction siftFrom passed warnings events with
  | case1 passed warnings => rfl
  | case2 passed warnings warning others known inductionHypothesis =>
      rw [inductionHypothesis, among_cons_warned, fresh, if_pos (contains_iff.mp known)]
  | case3 passed warnings warning others unknown inductionHypothesis =>
      rw [inductionHypothesis, among_cons_warned, fresh, if_neg (mt contains_iff.mpr unknown)]
      simp [insert]
  | case4 passed warnings event others notWarned inductionHypothesis =>
      rw [inductionHypothesis,
        among_cons_of_not_isRemark (Event.isRemark_eq_false notWarned)]

/-- All other events pass. -/
theorem filter_siftFrom (passed : List Event) (warnings : Warnings) (events : List Event) :
    (siftFrom passed warnings events).1.filter (!·.isRemark) =
      passed.reverse.filter (!·.isRemark) ++ events.filter (!·.isRemark) := by
  fun_induction siftFrom passed warnings events with
  | case1 passed warnings => simp
  | case2 passed warnings warning others known inductionHypothesis =>
      simp [inductionHypothesis]
  | case3 passed warnings warning others unknown inductionHypothesis =>
      simp [inductionHypothesis]
  | case4 passed warnings event others notWarned inductionHypothesis =>
      simp [inductionHypothesis, Event.isRemark_eq_false notWarned]

/-! ## One request -/

/-- The remarks that an answer reports as made. -/
def Answer.made : Answer → List Warning
  | warned made => made
  | known _ => []
  | cleared => []
  | scanned _ made => made

/-- The remarks that a request gives rise to, new or not. -/
def Request.raised : Request → List Warning
  | warn warning => [warning]
  | ask _ => []
  | clear => []
  | scan text => (Scan.ofText text).repetitions.map Warning.ofRepetition

theorem among_map_warned (warnings : List Warning) :
    among (warnings.map .warned) = warnings := by
  induction warnings with
  | nil => rfl
  | cons warning others inductionHypothesis =>
      rw [List.map_cons, among_cons_warned, inductionHypothesis]

theorem isRemark_lastEvent (scan : Scan) : scan.lastEvent.isRemark = false := by
  rw [Scan.lastEvent]
  split <;> rfl

/-- The remarks of a scan are its repetitions. -/
theorem among_events (scan : Scan) :
    among scan.events = scan.repetitions.map Warning.ofRepetition := by
  have lexemeRemarks :
      ∀ lexeme : Lexeme,
        among lexeme.events = lexeme.token.repetitions.map Warning.ofRepetition := by
    intro lexeme
    rw [Lexeme.events, among_cons_of_not_isRemark rfl, among_map_warned,
      lexeme.warnings_eq_map]
  rw [Scan.events, among_cons_of_not_isRemark rfl, among_append,
    among_cons_of_not_isRemark (isRemark_lastEvent scan), among_nil, List.append_nil,
    among_flatMap]
  simp only [lexemeRemarks, Scan.repetitions, Scan.tokens, List.flatMap_map, List.map_flatMap]

/-- What a scan reports apart from its remarks: where it begins, its tokens and how it ends. -/
theorem filter_events (scan : Scan) :
    scan.events.filter (!·.isRemark) =
      .blanksSkipped scan.start.offset ::
        (scan.lexemes.map (fun lexeme => .matched lexeme.rule lexeme.offset lexeme.token) ++
          [scan.lastEvent]) := by
  have lexemeReport :
      ∀ lexeme : Lexeme,
        lexeme.events.filter (!·.isRemark) =
          [.matched lexeme.rule lexeme.offset lexeme.token] := by
    intro lexeme
    have noRemark :
        (lexeme.warnings.map Event.warned).filter (!·.isRemark) = [] := by
      simp
    rw [Lexeme.events, List.filter_cons_of_pos rfl, noRemark]
  rw [Scan.events, List.filter_cons_of_pos rfl, List.filter_append, List.filter_flatMap,
    List.filter_cons_of_pos (by simp [isRemark_lastEvent]), List.filter_nil,
    List.map_eq_flatMap]
  simp only [lexemeReport]

/-- A request makes the remarks that it raises and that are new. -/
theorem made_answer (warnings : Warnings) (request : Request) :
    (warnings.answer request).1.made = fresh warnings.texts request.raised := by
  cases request with
  | warn warning =>
      simp only [answer, sift, Answer.made, among_siftFrom]
      rfl
  | ask warning => rfl
  | clear => rfl
  | scan text =>
      simp only [answer, sift, Answer.made, among_siftFrom, among_events]
      rfl

/-- The texts of the remarks that a request makes are put in front of those remembered. -/
theorem texts_answer (warnings : Warnings) {request : Request}
    (notClear : request ≠ .clear) :
    (warnings.answer request).2.texts =
      ((warnings.answer request).1.made.map Warning.text).reverse ++ warnings.texts := by
  rw [made_answer]
  cases request with
  | warn warning =>
      simp only [answer, sift, texts_siftFrom]
      rfl
  | ask warning => rfl
  | clear => exact absurd rfl notClear
  | scan text =>
      simp only [answer, sift, texts_siftFrom, among_events]
      rfl

/-! ## Whole sessions -/

/-- What is remembered after the requests. -/
def after (warnings : Warnings) (requests : List Request) : Warnings :=
  requests.foldl (fun remembered request => (remembered.answer request).2) warnings

theorem answerAll_cons (warnings : Warnings) (request : Request) (others : List Request) :
    warnings.answerAll (request :: others) =
      (warnings.answer request).1 :: (warnings.answer request).2.answerAll others := rfl

theorem length_answerAll (warnings : Warnings) (requests : List Request) :
    (warnings.answerAll requests).length = requests.length := by
  induction requests generalizing warnings with
  | nil => rfl
  | cons request others inductionHypothesis =>
      rw [answerAll_cons, List.length_cons, inductionHypothesis, List.length_cons]

theorem answerAll_append (warnings : Warnings) (left right : List Request) :
    warnings.answerAll (left ++ right) =
      warnings.answerAll left ++ (warnings.after left).answerAll right := by
  induction left generalizing warnings with
  | nil => rfl
  | cons request others inductionHypothesis =>
      rw [List.cons_append, answerAll_cons, inductionHypothesis]
      rfl

/-- The answer to a request depends on the requests before it and not on those behind it. -/
theorem getElem?_answerAll
    (warnings : Warnings) (before : List Request) (request : Request) (later : List Request) :
    (warnings.answerAll (before ++ request :: later))[before.length]? =
      some ((warnings.after before).answer request).1 := by
  rw [answerAll_append, List.getElem?_append_right (by rw [length_answerAll]),
    length_answerAll, Nat.sub_self]
  rfl

/-- The answers to the requests in the middle of a session. -/
theorem take_drop_answerAll (warnings : Warnings) (before middle later : List Request) :
    ((warnings.answerAll (before ++ (middle ++ later))).drop before.length).take
        middle.length =
      (warnings.after before).answerAll middle := by
  rw [answerAll_append, List.drop_left' (length_answerAll _ _), answerAll_append,
    List.take_left' (length_answerAll _ _)]

/--
The texts of the remarks that were raised since all remarks were last forgotten,
for a given way to write the text of a remark.
-/
def recorded (text : Warning → String) (requests : List Request) : List String :=
  (requests.rtakeWhile fun request => request ≠ .clear).flatMap fun request =>
    request.raised.map text

theorem recorded_concat
    (text : Warning → String) (requests : List Request) (request : Request) :
    recorded text (requests ++ [request]) =
      if request = .clear then []
      else recorded text requests ++ request.raised.map text := by
  rw [recorded, List.rtakeWhile_concat]
  by_cases isClear : request = .clear
  · simp [isClear]
  · simp [isClear, recorded]

/-- What is remembered after a session are the texts raised since it was last forgotten. -/
theorem mem_texts_after_iff {requests : List Request} {text : String} :
    text ∈ (empty.after requests).texts ↔ text ∈ recorded Warning.text requests := by
  induction requests using List.reverseRecOn with
  | nil => simp [after, empty, recorded]
  | append_singleton requests request inductionHypothesis =>
      have step :
          (empty.after (requests ++ [request])) =
            ((empty.after requests).answer request).2 := by
        rw [after, List.foldl_append]
        rfl
      rw [step, recorded_concat]
      split
      · next isClear =>
        subst isClear
        rfl
      · next notClear =>
        rw [texts_answer _ notClear, made_answer, List.mem_append, List.mem_reverse,
          mem_text_fresh_iff, inductionHypothesis, List.mem_append, or_comm]

/-- No text is remembered twice. -/
theorem nodup_texts_after {warnings : Warnings}
    (nodup : warnings.texts.Nodup) (requests : List Request) :
    (warnings.after requests).texts.Nodup := by
  induction requests generalizing warnings with
  | nil => exact nodup
  | cons request others inductionHypothesis =>
      apply inductionHypothesis
      by_cases isClear : request = .clear
      · rw [isClear]
        exact List.nodup_nil
      · rw [texts_answer warnings isClear, made_answer]
        exact nodup_text_fresh nodup request.raised

/-- As long as nothing is forgotten, the remarks made are remembered in front of the others. -/
theorem texts_after_of_not_mem (warnings : Warnings) {requests : List Request}
    (noClear : .clear ∉ requests) :
    (warnings.after requests).texts =
      (((warnings.answerAll requests).flatMap Answer.made).map Warning.text).reverse ++
        warnings.texts := by
  induction requests generalizing warnings with
  | nil => rfl
  | cons request others inductionHypothesis =>
      rw [List.mem_cons, not_or] at noClear
      rcases noClear with ⟨notFirst, notOthers⟩
      have behind := inductionHypothesis (warnings.answer request).2 notOthers
      rw [texts_answer warnings (Ne.symm notFirst)] at behind
      rw [answerAll_cons, List.flatMap_cons, List.map_append, List.reverse_append,
        List.append_assoc]
      exact behind

/-- No text is remarked twice as long as nothing is forgotten. -/
theorem nodup_made {requests : List Request}
    (before : List Request)
    (noClear : .clear ∉ requests) :
    ((((empty.after before).answerAll requests).flatMap Answer.made).map
      Warning.text).Nodup := by
  have nodup := nodup_texts_after (nodup_texts_after List.nodup_nil before) requests
  rw [texts_after_of_not_mem _ noClear, List.nodup_append] at nodup
  exact List.nodup_reverse.mp nodup.1

/-! ## The remarks of scans in a session -/

/-- Pairs of a name and a key that stand in scanned texts are remarked on in different words. -/
theorem eq_of_carries
    {text name key otherText otherName otherKey : String}
    (carries : (Scan.ofText text).Carries name key)
    (otherCarries : (Scan.ofText otherText).Carries otherName otherKey)
    (sameText :
      (Warning.ofRepetition (name, key)).text =
        (Warning.ofRepetition (otherName, otherKey)).text) :
    name = otherName ∧ key = otherKey :=
  Warning.ofRepetition_inj carries.bracket_not_mem otherCarries.bracket_not_mem sameText

theorem distinguished_repetitions (text : String) :
    Distinguished (Scan.ofText text).repetitions := by
  rintro ⟨name, key⟩ member ⟨otherName, otherKey⟩ otherMember sameText
  rcases eq_of_carries (Scan.carries_of_mem_repetitions member)
      (Scan.carries_of_mem_repetitions otherMember) sameText with
    ⟨rfl, rfl⟩
  rfl

/-- The words on a repetition were raised by a scan only if it was repeated there as well. -/
theorem mem_raised_scan_iff
    {text name key : String}
    (carries : (Scan.ofText text).Carries name key) (otherText : String) :
    (Warning.ofRepetition (name, key)).text ∈
        (Request.scan otherText).raised.map Warning.text ↔
      (name, key) ∈ (Scan.ofText otherText).repetitions := by
  rw [Request.raised, List.map_map, List.mem_map]
  constructor
  · rintro ⟨⟨otherName, otherKey⟩, repeated, sameText⟩
    rcases eq_of_carries carries (Scan.carries_of_mem_repetitions repeated) sameText.symm with
      ⟨rfl, rfl⟩
    exact repeated
  · intro repeated
    exact ⟨(name, key), repeated, rfl⟩

theorem isOk_tokenize (text : String) :
    (tokenize text).isOk = (Scan.ofText text).stall?.isNone := by
  rw [tokenize, Scan.result]
  cases (Scan.ofText text).stall? with
  | none => rfl
  | some stall => rfl

theorem answer_scan (warnings : Warnings) (text : String) :
    (warnings.answer (.scan text)).1 =
      .scanned (tokenize text).isOk (among (warnings.sift (Scan.ofText text).events).1) := by
  rw [isOk_tokenize]
  rfl

/-! ## Answers in terms of what was raised -/

theorem answer_ask_after (before : List Request) (warning : Warning) :
    ((empty.after before).answer (.ask warning)).1 =
      .known (decide (warning.text ∈ recorded Warning.text before)) := by
  have sameTexts :
      (empty.after before).contains warning =
        decide (warning.text ∈ recorded Warning.text before) := by
    rw [Bool.eq_iff_iff, contains_iff, mem_texts_after_iff, decide_eq_true_iff]
  rw [← sameTexts]
  rfl

theorem answer_warn_after (before : List Request) (warning : Warning) :
    ((empty.after before).answer (.warn warning)).1 =
      .warned (if warning.text ∈ recorded Warning.text before then [] else [warning]) := by
  have made := made_answer (empty.after before) (.warn warning)
  rw [fresh_congr (fun _ => mem_texts_after_iff), Request.raised, fresh, fresh, fresh] at made
  rw [← made]
  rfl

theorem answer_scan_after (before : List Request) (text : String) :
    ((empty.after before).answer (.scan text)).1 =
      .scanned (tokenize text).isOk
        (((Scan.ofText text).repetitions.eraseDups.map Warning.ofRepetition).filter
          fun warning => warning.text ∉ recorded Warning.text before) := by
  have made := made_answer (empty.after before) (.scan text)
  rw [fresh_congr (fun _ => mem_texts_after_iff), Request.raised,
    fresh_map_ofRepetition _ (distinguished_repetitions text)] at made
  rw [← made, answer_scan]
  rfl

/--
The answers of a session that begins with nothing remembered, wherever the
request stands in it.

The text of a remark is its component in brackets with the message behind it.  A
remark is known exactly if its text was raised since remarks were last forgotten,
by hand or by a scan, and it is made exactly if it is not known.  So no text is
made twice as long as nothing is forgotten.  A scan raises the repetitions among
its tokens, those of a tag that carries a key at least twice, and makes the ones
that are not known, in the order in which they first occur.  Different pairs of a
name and a key in scanned texts have different words, so that the remark on one
is not kept back by another.  What a scan reads, where and how it ends does not
depend on what is remembered.
-/
theorem answerAll_since_clear (before later : List Request) :
    let text := fun remark : Warning => "[" ++ remark.component ++ "] " ++ remark.message
    (∀ component message : String,
      (empty.answerAll (before ++ .ask { component, message } :: later))[before.length]? =
          some
            (.known (decide ("[" ++ component ++ "] " ++ message ∈ recorded text before))) ∧
      (empty.answerAll (before ++ .warn { component, message } :: later))[before.length]? =
          some
            (.warned
              (if "[" ++ component ++ "] " ++ message ∈ recorded text before then []
              else [{ component, message }]))) ∧
    (∀ middle : List Request,
      .clear ∉ middle →
        (((((empty.answerAll (before ++ (middle ++ later))).drop before.length).take
          middle.length).flatMap Answer.made).map text).Nodup) ∧
    (∀ markup : String,
      (empty.answerAll (before ++ .scan markup :: later))[before.length]? =
          some
            (.scanned (tokenize markup).isOk
              (((Scan.ofText markup).repetitions.eraseDups.map Warning.ofRepetition).filter
                fun remark => text remark ∉ recorded text before)) ∧
      ∀ name key : String,
        (name, key) ∈ (Scan.ofText markup).repetitions ↔
          ∃ attributes : List Attribute,
            .beginTag name attributes ∈ (Scan.ofText markup).tokens ∧
            2 ≤ (attributes.map Attribute.key).count key) ∧
    (∀ markup name key otherMarkup : String,
      (Scan.ofText markup).Carries name key →
        (∀ otherName otherKey : String,
          (Scan.ofText otherMarkup).Carries otherName otherKey →
          text (.ofRepetition (name, key)) = text (.ofRepetition (otherName, otherKey)) →
            name = otherName ∧ key = otherKey) ∧
        (text (.ofRepetition (name, key)) ∈ (Request.scan otherMarkup).raised.map text ↔
          (name, key) ∈ (Scan.ofText otherMarkup).repetitions)) ∧
    ∀ (warnings : Warnings) (markup : String),
      (warnings.answer (.scan markup)).1 =
          .scanned (tokenize markup).isOk
            (among (warnings.sift (Scan.ofText markup).events).1) ∧
      (warnings.sift (Scan.ofText markup).events).1.filter (!·.isRemark) =
          .blanksSkipped (Scan.ofText markup).start.offset ::
            ((Scan.ofText markup).lexemes.map
                (fun lexeme => .matched lexeme.rule lexeme.offset lexeme.token) ++
              [(Scan.ofText markup).lastEvent]) := by
  intro text
  -- The text that is written out here is the one by which a session goes.
  have sameText : text = Warning.text := rfl
  clear_value text
  subst sameText
  refine ⟨?_, ?_, ?_, ?_, ?_⟩
  · intro component message
    rw [getElem?_answerAll, getElem?_answerAll, answer_ask_after, answer_warn_after]
    exact ⟨rfl, rfl⟩
  · intro middle noClear
    rw [take_drop_answerAll]
    exact nodup_made before noClear
  · intro markup
    rw [getElem?_answerAll, answer_scan_after]
    exact ⟨rfl, fun name key => Scan.mem_repetitions_iff⟩
  · intro markup name key otherMarkup carries
    refine ⟨?_, mem_raised_scan_iff carries otherMarkup⟩
    intro otherName otherKey otherCarries sameText
    exact eq_of_carries carries otherCarries sameText
  · intro warnings markup
    refine ⟨answer_scan warnings markup, ?_⟩
    rw [← filter_events, sift, filter_siftFrom]
    rfl

/--
A remark is not known from another component, unless the brackets hide where the
component ends.  A repetition is remarked on again behind a request to forget.
-/
theorem answerAll_since_clear_three_scans :
    ((empty.answerAll
          [.warn { component := "Test", message := "m" },
            .ask { component := "Other", message := "m" }])[1]? =
        some (.known false) ∧
      (empty.answerAll
          [.warn { component := "a", message := "b] m" },
            .ask { component := "a] b", message := "m" }])[1]? =
        some (.known true)) ∧
    (empty.answerAll
        [.scan "<b k=1 k=2>", .clear, .scan "<a k=1 k=2>",
          .scan "<a k=1 k=2><b k=1 j=2 k=3 k=4><"])[3]? =
      some
        (.scanned false
          [{ component := "Tokenizer", message := "duplicate attribute 'k' on <b>" }]) ∧
    (.clear ∉ [Request.scan "<a k=1 k=2>", .scan "<a k=3 k=4>"] ∧
      (((empty.answerAll [.scan "<a k=1 k=2>", .scan "<a k=3 k=4>"]).flatMap
        Answer.made).map fun remark =>
          "[" ++ remark.component ++ "] " ++ remark.message).Nodup) ∧
    ((Scan.ofText "<a k=1 k=2>").Carries "a" "k" ∧
      (Scan.ofText "<b k' on c=1>").Carries "b" "k' on c" ∧
      "[Tokenizer] duplicate attribute 'k' on <a>" ≠
        "[Tokenizer] duplicate attribute 'k' on c' on <b>" ∧
      "[Tokenizer] duplicate attribute 'k' on <a>" ∉
        (Request.scan "<b k' on c=1>").raised.map fun remark =>
          "[" ++ remark.component ++ "] " ++ remark.message) := by
  have session :=
    answerAll_since_clear [.scan "<b k=1 k=2>", .clear, .scan "<a k=1 k=2>"] []
  have noClear : .clear ∉ [Request.scan "<a k=1 k=2>", .scan "<a k=3 k=4>"] := by decide
  have carries : (Scan.ofText "<a k=1 k=2>").Carries "a" "k" :=
    ⟨[{ key := "k", value := "1" }, { key := "k", value := "2" }], by decide +kernel, by decide⟩
  have otherCarries : (Scan.ofText "<b k' on c=1>").Carries "b" "k' on c" :=
    ⟨[{ key := "k' on c", value := "1" }], by decide +kernel, by decide⟩
  rcases session.2.2.2.1 "<a k=1 k=2>" "a" "k" "<b k' on c=1>" carries with
    ⟨distinguished, silencedOnlyByItself⟩
  refine ⟨⟨?_, ?_⟩, ?_, ⟨noClear, ?_⟩, carries, otherCarries, ?_, ?_⟩
  · have asked :=
      ((answerAll_since_clear [.warn { component := "Test", message := "m" }] []).1
        "Other" "m").1
    exact asked.trans (by decide)
  · have asked :=
      ((answerAll_since_clear [.warn { component := "a", message := "b] m" }] []).1
        "a] b" "m").1
    exact asked.trans (by decide)
  · refine (session.2.2.1 "<a k=1 k=2><b k=1 j=2 k=3 k=4><").1.trans ?_
    decide +kernel
  · exact (answerAll_since_clear [] []).2.1 _ noClear
  · intro sameText
    exact absurd (distinguished "b" "k' on c" otherCarries sameText).1 (by decide)
  · refine mt silencedOnlyByItself.mp ?_
    decide +kernel

end Warnings

end TagTree
