import Descent.Fault
import Descent.Log

/-!
# Nesting limits

Nested constructs cost stack frames, so a nesting limit holds only up to what the stack takes. A
limit beyond that is lowered, and the lowering is logged.
-/

namespace Descent.DepthLimit

/-- The nesting that documents are allowed by default. -/
def standard : Int := 100

/-- The stack frames that one level of nesting may cost. -/
def framesPerLevel : Int := 8

/-- The stack frames kept for everything else. -/
def reserveFrames : Int := 50

/-- The stack frames there are by default. -/
def stackLimit : Int := 1000

/-- The nesting that fits on the stack, one at least; quotients are rounded down. -/
def safeDepth (stackLimit framesPerLevel reserveFrames : Int) : Except Fault Int :=
  if framesPerLevel = 0 then .error .divisionByZero
  else .ok (max 1 ((stackLimit - reserveFrames).fdiv framesPerLevel))

/-- The requested nesting, lowered to what fits on the stack. -/
def clamp (requested stackLimit framesPerLevel reserveFrames : Int) :
    Except Fault (Int × List LogRecord) := do
  let safe ← safeDepth stackLimit framesPerLevel reserveFrames
  pure (if safe < requested then (safe, [.depthClamped requested stackLimit safe])
    else (requested, []))

end Descent.DepthLimit
