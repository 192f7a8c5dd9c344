import Descent.Text

/-!
# Log records

What the library reports about its own work, as data: each record says what happened, and its
channel, level and wording are functions of that.
-/

namespace Descent

/-- The part of the library that reports. -/
inductive LogChannel where
  /-- Repetition of rules. -/
  | repetition
  /-- Classification of a run. -/
  | outcome
  /-- Clamping of nesting limits. -/
  | depthLimit
  /-- Loading of documents. -/
  | loader
  deriving DecidableEq, Repr

/-- How serious a record is. -/
inductive LogLevel where
  | debug
  | warning
  deriving DecidableEq, Repr

/-- Something worth reporting. -/
inductive LogRecord where
  /-- A repeated rule matched without moving on. -/
  | stalled (position : Int)
  | rootDeclined (position : Int)
  | rootEscalated (summary : Text)
  | rootMatchedPrefix (position : Int) (size : Nat)
  | rootMatchedAll (size : Nat)
  /-- A nesting limit was lowered to what the stack holds. -/
  | depthClamped (requested stackLimit clamped : Int)
  | documentStarted (size : Nat)
  /-- Evaluation ran out of stack before the nesting limit was reached. -/
  | stackExhausted (maxDepth : Int)
  deriving DecidableEq, Repr

namespace LogRecord

/-- Who reports it. -/
def channel : LogRecord → LogChannel
  | stalled _ => .repetition
  | rootDeclined _ | rootEscalated _ | rootMatchedPrefix _ _ | rootMatchedAll _ => .outcome
  | depthClamped _ _ _ => .depthLimit
  | documentStarted _ | stackExhausted _ => .loader

/-- How serious it is. -/
def level : LogRecord → LogLevel
  | stalled _ | depthClamped _ _ _ | stackExhausted _ => .warning
  | _ => .debug

/-- Its wording. -/
def message : LogRecord → Text
  | stalled position =>
    text "Repeated rule matched without progress at position " ++ Text.ofInt position ++
      text "; aborting repetition"
  | rootDeclined position => text "Root rule declined at position " ++ Text.ofInt position
  | rootEscalated summary => text "Root rule escalated: " ++ summary
  | rootMatchedPrefix position size =>
    text "Root rule matched up to position " ++ Text.ofInt position ++ text " of " ++
      Text.ofNat size
  | rootMatchedAll size => text "Root rule matched all " ++ Text.ofNat size ++ text " tokens"
  | depthClamped requested stackLimit clamped =>
    text "Requested depth " ++ Text.ofInt requested ++
      text " exceeds Python recursion limit (" ++ Text.ofInt stackLimit ++
      text "). Clamping to " ++ Text.ofInt clamped ++
      text " to prevent RecursionError. " ++
      text "Consider increasing sys.setrecursionlimit() if needed."
  | documentStarted size =>
    text "Parsing JSON document (" ++ Text.ofNat size ++ text " characters)"
  | stackExhausted maxDepth =>
    text "Recursion limit reached before nesting depth " ++ Text.ofInt maxDepth

end LogRecord

end Descent
