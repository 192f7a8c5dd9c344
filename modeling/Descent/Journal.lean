import Descent.Log
import Descent.Reply

/-!
# Journals

An evaluation writes a journal: which rules were applied and what they replied, which functions of
the grammar were called, where a failure arose, what was logged, and what watchers remarked. The
reply of a rule never depends on the journal.

A journal is built by joining and read through `Journal.toList`. Joining takes constant time, and
the reading is fixed by `toList_append`.
-/

namespace Descent

/-- What a watcher remarks on. -/
inductive Remark where
  /-- A watched rule is about to be applied. -/
  | entered (label : Value) (position : Int)
  | matched (label : Value) (position : Int)
  | declined (label : Value)
  | failed (label : Value)
  /-- A watched test is applied to a token. -/
  | tested (token : Value)
  /-- A watched transform is applied to a product. -/
  | transformed (label product : Value)
  /-- A rule is built for a token. -/
  | built (token : Value)
  /-- A derivation passes a mark. -/
  | marked (label : Value)
  /-- A derivation is over, however it ended. -/
  | finished (label : Value)

/-- The kinds of functions that a grammar supplies. -/
inductive Callee where
  | test
  | transform
  | updater
  deriving DecidableEq, Repr

/-- What a failure came from. -/
inductive FailureOrigin where
  /-- A mandatory rule declined. -/
  | failpoint
  /-- The grammar escalated. -/
  | escalation
  /-- A repetition did not move on. -/
  | stall
  deriving DecidableEq, Repr

/-- One event of an evaluation. -/
inductive Entry where
  /-- A rule is applied to a state. -/
  | applied (state : State)
  /-- The rule applied last and not yet answered has replied. -/
  | replied (reply : Reply Value)
  /-- A function of the grammar is called. -/
  | called (callee : Callee)
  /-- A failure arises. -/
  | failing (origin : FailureOrigin)
  | remarked (remark : Remark)
  | logged (record : LogRecord)

/-- The events of an evaluation, in order. -/
inductive Journal where
  | empty
  | entry (entry : Entry)
  | append (first second : Journal)
  deriving Inhabited

namespace Journal

/-- The events in front of the given ones. -/
def onto : Journal → List Entry → List Entry
  | empty, rest => rest
  | entry event, rest => event :: rest
  | append first second, rest => first.onto (second.onto rest)

/-- The events in order. -/
def toList (journal : Journal) : List Entry := journal.onto []

instance : Append Journal := ⟨append⟩

/-- Reading in front of a list is reading, then joining. -/
theorem onto_eq (journal : Journal) (rest : List Entry) :
    journal.onto rest = journal.toList ++ rest := by
  induction journal generalizing rest with
  | empty => rfl
  | entry event => rfl
  | append first second firstReads secondReads =>
    simp only [toList, onto]
    rw [firstReads, secondReads rest, firstReads (second.onto []), secondReads []]
    simp

@[simp] theorem toList_empty : empty.toList = [] := rfl

@[simp] theorem toList_entry (event : Entry) : (entry event).toList = [event] := rfl

@[simp] theorem toList_append (first second : Journal) :
    (first ++ second).toList = first.toList ++ second.toList := by
  show first.onto (second.onto []) = _
  rw [onto_eq, onto_eq second]
  simp

/-- The journal of the given events. -/
def ofList : List Entry → Journal
  | [] => empty
  | event :: rest => entry event ++ ofList rest

@[simp] theorem toList_ofList (events : List Entry) : (ofList events).toList = events := by
  induction events with
  | nil => rfl
  | cons event rest readsRest => simp [ofList, readsRest]

/-- What the watchers remarked. -/
def remarks (journal : Journal) : List Remark :=
  journal.toList.filterMap fun
    | .remarked remark => some remark
    | _ => none

/-- What was logged. -/
def records (journal : Journal) : List LogRecord :=
  journal.toList.filterMap fun
    | .logged record => some record
    | _ => none

end Journal

end Descent
