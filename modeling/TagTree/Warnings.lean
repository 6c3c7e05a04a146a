import TagTree.Token.Scan

/-!
# Warnings made once

A remark that was made already is not made again.  Two remarks count as the
same when their texts agree.  The text of a remark begins with the component
that makes it, so the same message of another component is a remark of its own.
`Warnings` holds the texts of the remarks made so far; a list of events passes
through it and loses the remarks that are not new.

A session is a sequence of requests to one such collection.
-/

namespace TagTree

/-- The texts of the remarks made so far, latest first. -/
structure Warnings where
  /-- The texts, latest first. -/
  texts : List String
deriving DecidableEq

namespace Warnings

/-- No remark was made. -/
def empty : Warnings where
  texts := []

/-- The remark was made already. -/
def contains (warnings : Warnings) (warning : Warning) : Bool :=
  warnings.texts.contains warning.text

/-- Notes that a remark was made. -/
def insert (warnings : Warnings) (warning : Warning) : Warnings where
  texts := warning.text :: warnings.texts

/--
Lets the events pass that are no remarks or new ones, and notes the new ones;
`passed` holds the events that have passed before, latest first.
-/
def siftFrom (passed : List Event) (warnings : Warnings) :
    List Event → List Event × Warnings
  | [] => (passed.reverse, warnings)
  | .warned warning :: others =>
    if warnings.contains warning then
      siftFrom passed warnings others
    else
      siftFrom (.warned warning :: passed) (warnings.insert warning) others
  | event :: others => siftFrom (event :: passed) warnings others

/-- Lets the events pass that are no remarks or new ones, and notes the new ones. -/
def sift (warnings : Warnings) (events : List Event) : List Event × Warnings :=
  siftFrom [] warnings events

/-- The remarks among some events. -/
def among (events : List Event) : List Warning :=
  events.filterMap fun
    | .warned warning => some warning
    | _ => none

/-- What a session can be asked to do. -/
inductive Request where
  /-- Make a remark, if it is new. -/
  | warn (warning : Warning)
  /-- Say whether a remark was made. -/
  | ask (warning : Warning)
  /-- Forget all remarks. -/
  | clear
  /-- Scan a text. -/
  | scan (text : String)
deriving DecidableEq

/-- What a session answers. -/
inductive Answer where
  /-- The remarks made: one, or none if it was not new. -/
  | warned (made : List Warning)
  /-- Whether a remark was made. -/
  | known (made : Bool)
  /-- All remarks are forgotten. -/
  | cleared
  /-- Whether the whole text was read, and the new remarks about it. -/
  | scanned (complete : Bool) (made : List Warning)
deriving DecidableEq

/-- Answers one request. -/
def answer (warnings : Warnings) : Request → Answer × Warnings
  | .warn warning =>
    let (events, after) := warnings.sift [.warned warning]
    (.warned (among events), after)
  | .ask warning => (.known (warnings.contains warning), warnings)
  | .clear => (.cleared, empty)
  | .scan text =>
    let scan := Scan.ofText text
    let (events, after) := warnings.sift scan.events
    (.scanned scan.stall?.isNone (among events), after)

/-- Answers the requests of a session one after the other. -/
def answerAll (warnings : Warnings) : List Request → List Answer
  | [] => []
  | request :: others =>
    let (reply, after) := warnings.answer request
    reply :: after.answerAll others

end Warnings

end TagTree
