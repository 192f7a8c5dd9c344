import Descent.DepthLimit
import Descent.Proofs.Budget
import Descent.Proofs.Document.Value.Soundness

/-!
# Values nest no deeper than allowed

The document rule comes to an answer on every source, well formed or not. One lap more than there
are characters is enough for every repetition, because each lap consumes something, and one value
more than may be nested is enough for the references: the value that is one too many is never asked
for, since the container around it fails on its depth first. What references would do below that
level plays no part in the answer.
-/

namespace Descent

/-- A nesting limit can always be lowered to what the stack takes. -/
theorem DepthLimit.exists_clamp (requested stackLimit : Int) :
    ∃ depth records,
      clamp requested stackLimit framesPerLevel reserveFrames = .ok (depth, records) := by
  have safe : safeDepth stackLimit framesPerLevel reserveFrames =
      .ok (max 1 ((stackLimit - reserveFrames).fdiv framesPerLevel)) := rfl
  simp only [clamp, safe, bind, Except.bind, pure, Except.pure]
  split
  · exact ⟨_, _, rfl⟩
  · exact ⟨_, _, rfl⟩

namespace Document

/-- With one unfolding more than containers may be open and one lap more than there are characters,
the document rule matches, declines or fails. -/
theorem document_finishes (limits : Limits) (source : Text) :
    ((grammar limits).evaluate ⟨limits.maxDepth.toNat + 1, source.length + 1⟩
      (document (.reference ())) (initialState source)).reply ≠ .exhausted := by
  have reads : (Cursor.start source).Reads _ _ _ ((grammar limits).evaluate
      ⟨limits.maxDepth.toNat + 1, source.length + 1⟩ (document (.reference ()))
      (initialState source)).reply :=
    reads_document (Int.self_le_toNat _) rfl (Nat.lt_succ_self _)
  intro spent
  rw [spent] at reads
  cases reads

/-- For every requested nesting and every stack, with the nesting limit that comes of them: the
document rule comes to an answer on every source with values unfolded one level more than the limit
allows, and the run is the same within every larger budget, and with anything at all in place of
the values below that level. -/
theorem nesting_bounded (requested stackLimit : Int) (maxDigits : Nat) (source : Text) :
    ∃ depth records,
      DepthLimit.clamp requested stackLimit DepthLimit.framesPerLevel DepthLimit.reserveFrames =
        .ok (depth, records) ∧
      let bounded := (grammar ⟨depth, maxDigits⟩).evaluate ⟨depth.toNat + 1, source.length + 1⟩
        (document (.reference ())) (initialState source)
      bounded.reply ≠ .exhausted ∧
        (∀ unfoldings laps, (grammar ⟨depth, maxDigits⟩).evaluate
          ⟨depth.toNat + 1 + unfoldings, source.length + 1 + laps⟩ (document (.reference ()))
          (initialState source) = bounded) ∧
        ∀ laps deeper, (grammar ⟨depth, maxDigits⟩).evaluateOver (source.length + 1 + laps) deeper
          (depth.toNat + 1) (document (.reference ())) (initialState source) = bounded := by
  obtain ⟨depth, records, clamped⟩ := DepthLimit.exists_clamp requested stackLimit
  have finished := document_finishes ⟨depth, maxDigits⟩ source
  refine ⟨depth, records, clamped, finished, ?_, ?_⟩
  · intro unfoldings laps
    apply Grammar.evaluate_of_le _ finished
    exact ⟨Nat.le_add_right _ _, Nat.le_add_right _ _⟩
  · intro laps deeper
    have approximates := (grammar ⟨depth, maxDigits⟩).evaluateWithin_approximates
      (Nat.le_add_right (source.length + 1) laps) deeper (depth.toNat + 1)
      (document (.reference ())) (initialState source)
    exact approximates.eq finished

end Document

end Descent
