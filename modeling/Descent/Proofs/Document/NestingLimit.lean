import Descent.Proofs.Document.Height
import Descent.Proofs.Document.Value.Overrun
import Descent.Proofs.Document.ViablePrefix

/-!
# The nesting limit comes first

A document is reported as nested too deeply exactly if it nests deeper than the limit. On any source
at all, such a report stands behind the first bracket outside of strings that opens one container
more than the limit allows, and it depends on nothing that comes later: what has been read up to
there is a descent, and a descent fails in the same way whatever follows it.
-/

namespace Descent

/-! ## Where a report comes from -/

/-- What is made from the span of a state needs one. -/
theorem State.exists_span_of_made {α : Type} {state : State} {make : Option Span → α} {result : α}
    (made : (do pure (make (← state.span none))) = .ok result) :
    ∃ span, state.span none = .ok span ∧ result = make span := by
  cases spanned : state.span none with
  | error fault =>
      rw [spanned] at made
      cases made
  | ok span =>
      rw [spanned] at made
      cases made
      exact ⟨span, rfl, rfl⟩

/-- The span depends on the place only, where there is one. -/
theorem State.span_of_same {first second : State} {span : Option Span}
    (pos : second.pos = first.pos) (location : second.location = first.location)
    (spanned : first.span none = .ok span) : second.span none = .ok span := by
  unfold State.span at spanned ⊢
  rw [pos, location]
  cases located : first.location with
  | none =>
      rw [located] at spanned
      exact spanned
  | some place =>
      rw [located] at spanned
      simp only at spanned ⊢
      cases made : Span.make first.pos first.pos (place.line.atLeast 1)
          (place.column.atLeast 1) with
      | ok other =>
          rw [made] at spanned
          exact spanned
      | error fault =>
          rw [made] at spanned
          cases spanned

/-- What is made behind a check has passed it. -/
theorem of_requireWritable {α : Type} {writable : Bool} {made : Except Fault α} {result : α}
    (passed : (do requireWritable writable; made) = .ok result) : made = .ok result := by
  cases writable with
  | true => exact passed
  | false => cases passed

namespace Outcome

/-- A rejection is worded by the diagnostic that it was made with. -/
theorem exists_diagnostic_of_reject {kind : RejectionKind} {error : Option ParseError}
    {state : State} {made : Except Fault Diagnostic} {rejection : Rejection}
    {diagnostic : Diagnostic} (rejected : reject kind error state made = .rejected rejection)
    (carried : rejection.diagnostic = some diagnostic) : made = .ok diagnostic := by
  cases made with
  | error fault => cases rejected
  | ok other =>
      simp only [reject] at rejected
      split at rejected <;> cases rejected
      cases carried
      rfl

/-- Only an escalated outcome is reported with the code for the nesting. -/
theorem exists_escalated {kind : RejectionKind} {outcome : Outcome} {rejection : Rejection}
    {diagnostic : Diagnostic} (rejected : outcome.unwrap kind = .error (.rejected rejection))
    (carried : rejection.diagnostic = some diagnostic)
    (code : diagnostic.code = .nestingDepthExceeded) :
    ∃ error, outcome = escalated error ∧ error.toDiagnostic = .ok diagnostic := by
  cases outcome with
  | success product => cases rejected
  | invalid state =>
      have made := exists_diagnostic_of_reject (Except.error.inj rejected) carried
      obtain ⟨span, -, rfl⟩ := State.exists_span_of_made (of_requireWritable made)
      cases code
  | leftover product state =>
      have made := exists_diagnostic_of_reject (Except.error.inj rejected) carried
      obtain ⟨span, -, rfl⟩ := State.exists_span_of_made (of_requireWritable made)
      cases code
  | escalated error =>
      exact ⟨error, rfl, exists_diagnostic_of_reject (Except.error.inj rejected) carried⟩

end Outcome

namespace Document

/-- The diagnostic of a document that was rejected. -/
def Loaded.diagnostic? (loaded : Loaded) : Option Diagnostic :=
  match loaded.result with
  | .error (.rejected rejection) => rejection.diagnostic
  | _ => none

/-- Only a rejection has a diagnostic. -/
theorem Loaded.exists_rejection_of_diagnostic {loaded : Loaded} {diagnostic : Diagnostic}
    (reported : loaded.diagnostic? = some diagnostic) :
    ∃ rejection, loaded.result = .error (.rejected rejection) ∧
      rejection.diagnostic = some diagnostic := by
  unfold diagnostic? at reported
  split at reported
  · next rejection result => exact ⟨rejection, result, reported⟩
  · cases reported

namespace Loader

variable {loader : Loader} {source : Text} {diagnostic : Diagnostic}

/-- A failure of the document rule is reported. -/
theorem diagnostic?_of_failed {error : ParseError} (sized : loader.refusesSize source = false)
    (replied : loader.reply source = .failed error) (worded : error.toDiagnostic = .ok diagnostic) :
    (loader.parse source).diagnostic? = some diagnostic := by
  have named := placeIsWritable_of_failed replied
  have rejected : Outcome.reject .document (some error) error.state error.toDiagnostic =
      .rejected (.ofDiagnostic .document diagnostic (some error)) := by
    obtain ⟨span, spanned, rfl⟩ := State.exists_span_of_made worded
    rw [worded, Outcome.reject_of_span spanned rfl named]
  have judged : (loader.parse source).result =
      .error (.rejected (.ofDiagnostic .document diagnostic (some error))) := by
    rw [parse_result sized, replied, Outcome.classify, if_pos named]
    simp only [nodeOf, Outcome.unwrap, rejected, bind, Except.bind]
  rw [Loaded.diagnostic?, judged]
  rfl

/-- What gets any other report has not been refused for its size. -/
theorem sized_of_code_ne (reported : (loader.parse source).diagnostic? = some diagnostic)
    (other : diagnostic.code ≠ .sourceTooLarge) : loader.refusesSize source = false := by
  by_contra sized
  have refused : loader.refusesSize source = true := by simpa using sized
  rw [parse, parseWithin, if_pos refused, rejectWhole] at reported
  split at reported <;> cases reported
  exact other rfl

/-- What is reported as nested too deeply has not been refused for its size. -/
theorem sized_of_reported (reported : (loader.parse source).diagnostic? = some diagnostic)
    (code : diagnostic.code = .nestingDepthExceeded) : loader.refusesSize source = false :=
  sized_of_code_ne reported (by simp [code])

/-- What is reported as nested too deeply has failed at a container that is too deep. -/
theorem exceeds_of_reported
    (reported : (loader.parse source).diagnostic? = some diagnostic)
    (code : diagnostic.code = .nestingDepthExceeded) :
    ∃ consumed next error, (Cursor.start source).Passes consumed next ∧
      DocumentExceeds loader.limits consumed next error ∧ error.toDiagnostic = .ok diagnostic := by
  obtain ⟨rejection, rejected, carried⟩ := Loaded.exists_rejection_of_diagnostic reported
  have reads := loader.reads_reply source
  rw [parse_result (sized_of_reported reported code)] at rejected
  generalize loader.reply source = reply at reads rejected
  cases reads with
  | @matched consumed product next passes holds =>
      obtain ⟨error, escalated, -⟩ :=
        Outcome.exists_escalated (unwrap_of_nodeOf rejected) carried code
      split at escalated <;> cases escalated
  | declined =>
      obtain ⟨error, escalated, -⟩ :=
        Outcome.exists_escalated (unwrap_of_nodeOf rejected) carried code
      cases escalated
  | @failed consumed error next passes place stops =>
      have named : error.state.placeIsWritable = true := by rw [place, passes.placeIsWritable]
      rw [Outcome.classify, if_pos named] at rejected
      obtain ⟨_, escalated, worded⟩ :=
        Outcome.exists_escalated (unwrap_of_nodeOf rejected) carried code
      cases escalated
      obtain ⟨span, -, rfl⟩ := State.exists_span_of_made worded
      cases stops with
      | expectation other _ => cases other.symm.trans code
      | nesting _ leads => exact ⟨consumed, next, error, passes, leads, worded⟩
      | digits other => cases other.symm.trans code
  | raised => cases rejected

end Loader

/-! ## Reports at one place -/

/-- With no limit for the digits, the limit for the nesting can be named. -/
theorem Limits.depthIsWritable_of_unlimited {limits : Limits} (unlimited : limits.maxDigits = 0) :
    limits.depthIsWritable = true :=
  Text.isWritable_iff.mpr (.inr (.inl unlimited))

/-- What is reported at a cursor where too many containers are open. -/
theorem toDiagnostic_of_tooDeep {limits : Limits} {cursor : Cursor} {error : ParseError}
    (written : limits.depthIsWritable) (isDeep : TooDeepAt limits cursor error) :
    error.toDiagnostic = (do
      let span ← cursor.state.span none
      pure { Diagnostic.nestingDepthExceeded limits.maxDepth span (some cursor.state.pos) with
        hint := none }) := by
  cases isDeep with
  | unworded unwritten => exact absurd (unwritten.symm.trans written) Bool.false_ne_true
  | worded worded =>
      obtain ⟨-, span, -, rfl⟩ := ErrorAt.wording_eq_ok_iff.mp worded
      rfl

/-- Places with one text before them are reported alike, whatever comes behind. -/
theorem toDiagnostic_eq {limits : Limits} {source other consumed : Text} {first second : Cursor}
    {error failure : ParseError} (written : limits.depthIsWritable)
    (passes : (Cursor.start source).Passes consumed first)
    (furtherPasses : (Cursor.start other).Passes consumed second)
    (isDeep : TooDeepAt limits first error) (isDeepToo : TooDeepAt limits second failure) :
    failure.toDiagnostic = error.toDiagnostic := by
  have before : second.before = first.before := furtherPasses.before.trans passes.before.symm
  have place := furtherPasses.place.trans passes.place.symm
  obtain ⟨line, column⟩ := Prod.mk.inj place
  have pos : second.state.pos = first.state.pos :=
    congrArg (fun points => (List.length points : Int)) before
  have location : second.state.location = first.state.location := by
    show some (Location.mk (.int second.line) (.int second.column)) = some _
    rw [line, column]
  have span : second.state.span none = first.state.span none := by
    obtain ⟨_, spanned⟩ := State.exists_span first.pos_nonneg
    rw [spanned, State.span_of_same pos location spanned]
  rw [toDiagnostic_of_tooDeep written isDeep, toDiagnostic_of_tooDeep written isDeepToo, span, pos]

/-! ## The first bracket beyond the limit -/

/-- A bracket outside of strings that opens a container where a number of them is open already. -/
structure OpensBeyond (limit : Nat) (source : Text) (index : Nat) : Prop where
  opens : source[index]? = some (CodePoint.ofChar '[') ∨
    source[index]? = some (CodePoint.ofChar '\x7b')
  outside : Zone.outside.behind (source.take index) = .outside
  opened : openContainers (source.take (index + 1)) = limit + 1

/-- The first place from another one on that is not white space, or the end. -/
def visibleFrom (source : Text) (place : Nat) : Nat :=
  place + ((source.drop place).takeWhile CodePoint.isBlank).length

/-- Behind a text that climbs to the limit, a bracket opens the first container beyond it. -/
theorem opensBeyond_of_climbs {limit : Nat} {shallow : Text} {opener : Char}
    (climbs : Climbs limit limit shallow) (isOpener : opener = '[' ∨ opener = '\x7b')
    (rest : Text) :
    OpensBeyond limit (shallow ++ CodePoint.ofChar opener :: rest) shallow.length ∧
      ∀ earlier, OpensBeyond limit (shallow ++ CodePoint.ofChar opener :: rest) earlier →
        shallow.length ≤ earlier := by
  have single : openContainers [CodePoint.ofChar opener] = 1 := by
    rcases isOpener with rfl | rfl <;> rfl
  constructor
  · constructor
    · rcases isOpener with rfl | rfl <;> simp
    · rw [List.take_left]
      exact climbs.outside
    · rw [List.take_length_add_append, List.take_succ_cons, List.take_zero,
        openContainers_append climbs.outside, climbs.rises, single]
  · intro earlier beyond
    by_contra inside
    have opened := beyond.opened
    rw [List.take_append_of_le_length (by omega)] at opened
    have bounded := climbs.bounded (earlier + 1)
    omega

/-- Behind a text, white space is skipped up to what does not begin with any. -/
theorem visibleFrom_append (front : Text) (blanks : Blanks) {rest : Text}
    (stops : skipBlanks rest = rest) :
    visibleFrom (front ++ (blanks.val ++ rest)) front.length = (front ++ blanks.val).length := by
  have none : rest.takeWhile CodePoint.isBlank = [] := by
    have whole : rest.takeWhile CodePoint.isBlank ++ skipBlanks rest = rest :=
      List.takeWhile_append_dropWhile
    rw [stops] at whole
    exact List.append_cancel_right (whole.trans (List.nil_append _).symm)
  rw [visibleFrom, List.drop_left, List.takeWhile_append_of_pos blanks.property, none,
    List.append_nil, List.length_append]

/-! ## Loaders -/

namespace Loader

variable {loader : Loader} {source : Text} {diagnostic : Diagnostic}

/-- A source that begins with a descent fails behind it. -/
theorem exists_failure_of_descends (written : loader.limits.depthIsWritable) (before : Blanks)
    {front : Text} (descends : Descends loader.limits 0 front) (points : Text) :
    ∃ consumed next error, (Cursor.start (before.val ++ (front ++ points))).Passes consumed next ∧
      loader.reply (before.val ++ (front ++ points)) = .failed error ∧
      TooDeepAt loader.limits next error ∧ next.rest = skipBlanks points := by
  have overruns : Overruns loader.limits (Cursor.start (before.val ++ (front ++ points))) points
      (loader.reply (before.val ++ (front ++ points))) :=
    overruns_document (Int.self_le_toNat _) descends rfl rfl (Nat.lt_succ_self _)
  generalize loader.reply (before.val ++ (front ++ points)) = reply at overruns
  cases overruns with
  | matched _ impossible => exact impossible.elim
  | declined impossible => exact impossible.elim
  | failed passes _ holds => exact ⟨_, _, _, passes, rfl, holds⟩
  | raised _ holds => exact absurd (holds.1.unwritten.symm.trans written) Bool.false_ne_true

/-- A document that nests deeper than the limit is reported. -/
theorem exists_reported {form : Form} (unlimited : loader.limits.maxDigits = 0)
    (sized : loader.refusesSize form.text = false)
    (exceeds : loader.limits.maxDepth.toNat < form.phrase.nesting) :
    ∃ diagnostic, (loader.parse form.text).diagnostic? = some diagnostic ∧
      diagnostic.code = .nestingDepthExceeded := by
  obtain ⟨front, behind, spelled, descends⟩ :=
    form.phrase.exists_descends unlimited 0 (by omega) (by omega)
  have texts : form.text = form.before.val ++ (front ++ (behind ++ form.after.val)) := by
    rw [Form.text, spelled]
    simp
  have written := Limits.depthIsWritable_of_unlimited unlimited
  obtain ⟨consumed, next, error, -, replied, isDeep, -⟩ :=
    exists_failure_of_descends written form.before descends (behind ++ form.after.val)
  obtain ⟨span, spanned⟩ := State.exists_span next.pos_nonneg
  have reported := toDiagnostic_of_tooDeep written isDeep
  rw [spanned] at reported
  rw [← texts] at replied
  exact ⟨_, diagnostic?_of_failed sized replied reported, rfl⟩

/-- Where a container is too deep, its bracket is the first one beyond the limit, and white space
behind it has been skipped. -/
theorem exists_opensBeyond {limits : Limits} {consumed : Text} {next : Cursor} {error : ParseError}
    (passes : (Cursor.start source).Passes consumed next)
    (exceeds : DocumentExceeds limits consumed next error) :
    ∃ index, OpensBeyond limits.maxDepth.toNat source index ∧
      (∀ earlier, OpensBeyond limits.maxDepth.toNat source earlier → index ≤ earlier) ∧
      consumed.length = visibleFrom source (index + 1) := by
  obtain ⟨before, front, ⟨-, descends, stops⟩, rfl⟩ := exceeds
  obtain ⟨shallow, opener, blanks, isOpener, rfl, climbs⟩ :=
    descends.exists_bracket (Int.le_refl 0) (Int.natCast_nonneg _)
  rw [Int.sub_zero] at climbs
  have whole := ((climbs_blanks before).mono climbs.nonneg).append climbs (Int.le_refl _) (by omega)
  rw [Int.zero_add] at whole
  have texts : source = (before.val ++ shallow) ++ CodePoint.ofChar opener ::
      (blanks.val ++ next.rest) := by
    have rest : source = _ ++ next.rest := passes.rest
    simpa using rest
  have bracket := opensBeyond_of_climbs whole isOpener (blanks.val ++ next.rest)
  have skipped :=
    visibleFrom_append (before.val ++ shallow ++ [CodePoint.ofChar opener]) blanks stops
  rw [List.append_assoc _ [_], List.singleton_append, ← texts] at skipped
  rw [← texts] at bracket
  refine ⟨_, bracket.1, bracket.2, ?_⟩
  simpa [Nat.add_assoc] using skipped.symm

/-- Another text behind the container that is too deep gets the same report. -/
theorem diagnostic?_replaced {consumed other : Text} {next : Cursor} {error : ParseError}
    (written : loader.limits.depthIsWritable)
    (passes : (Cursor.start source).Passes consumed next)
    (exceeds : DocumentExceeds loader.limits consumed next error)
    (diagnosed : error.toDiagnostic = .ok diagnostic) (visible : skipBlanks other = other)
    (sized : loader.refusesSize (consumed ++ other) = false) :
    (loader.parse (consumed ++ other)).diagnostic? = some diagnostic := by
  obtain ⟨before, front, ⟨isDeep, descends, -⟩, rfl⟩ := exceeds
  obtain ⟨furtherConsumed, second, failure, furtherPasses, replied, isDeepToo, rest⟩ :=
    exists_failure_of_descends written before descends other
  rw [← List.append_assoc] at furtherPasses replied
  have same : furtherConsumed = before.val ++ front := by
    have texts : before.val ++ front ++ other = furtherConsumed ++ second.rest := furtherPasses.rest
    rw [rest, visible] at texts
    exact (List.append_cancel_right texts).symm
  subst same
  exact diagnostic?_of_failed sized replied
    ((toDiagnostic_eq written passes furtherPasses isDeep isDeepToo).trans diagnosed)

/-- With no limit for the digits, a document is reported as nested too deeply exactly if it is not
refused for its size and nests deeper than the limit. Such a report on any source stands at the
first place that is not white space behind the leftmost bracket outside of strings that opens one
container more than the limit allows, and whatever text replaces the source from there on, if it
does not begin with white space, the report is the same. -/
theorem nesting_limit_exact (loader : Loader) (source : Text)
    (unlimited : loader.limits.maxDigits = 0) :
    (∀ form : Form, form.text = source →
      ((∃ diagnostic, (loader.parse source).diagnostic? = some diagnostic ∧
        diagnostic.code = .nestingDepthExceeded) ↔
      loader.refusesSize source = false ∧
        loader.limits.maxDepth.toNat < form.phrase.nesting)) ∧
    ∀ diagnostic, (loader.parse source).diagnostic? = some diagnostic →
      diagnostic.code = .nestingDepthExceeded →
      ∃ index place, OpensBeyond loader.limits.maxDepth.toNat source index ∧
        (∀ earlier, OpensBeyond loader.limits.maxDepth.toNat source earlier → index ≤ earlier) ∧
        place = visibleFrom source (index + 1) ∧ diagnostic.position = some (place : Int) ∧
        ∀ other : Text, (∀ point, other.head? = some point → point.isBlank = false) →
          loader.refusesSize (source.take place ++ other) = false →
          (loader.parse (source.take place ++ other)).diagnostic? = some diagnostic := by
  have written := Limits.depthIsWritable_of_unlimited unlimited
  constructor
  · rintro form rfl
    constructor
    · rintro ⟨diagnostic, reported, code⟩
      have sized := sized_of_reported reported code
      refine ⟨sized, ?_⟩
      by_contra within
      have fits : loader.limits.Fits 0 form.phrase.nesting form.phrase.literals :=
        Limits.fits_iff.mpr ⟨by omega, fun _ _ _ positive => absurd positive (by omega)⟩
      rw [Loaded.diagnostic?, parse_form sized fits] at reported
      cases reported
    · rintro ⟨sized, exceeds⟩
      exact exists_reported unlimited sized exceeds
  · intro diagnostic reported code
    obtain ⟨consumed, next, error, passes, exceeds, diagnosed⟩ :=
      exceeds_of_reported reported code
    obtain ⟨index, opens, leftmost, place⟩ := exists_opensBeyond passes exceeds
    have texts : source = consumed ++ next.rest := passes.rest
    refine ⟨index, consumed.length, opens, leftmost, place, ?_, ?_⟩
    · obtain ⟨-, -, ⟨isDeep, -, -⟩, -⟩ := exceeds
      rw [toDiagnostic_of_tooDeep written isDeep] at diagnosed
      obtain ⟨span, -, rfl⟩ := State.exists_span_of_made diagnosed
      exact congrArg (fun points => some (List.length points : Int)) passes.before
    · intro other visible
      rw [texts, List.take_left]
      exact diagnostic?_replaced written passes exceeds diagnosed (skipBlanks_of_head visible)

end Loader

/-- An object in an array as deep as the limit allows: the bracket in the string is not counted, and
what stands in the object is not read. -/
theorem nesting_limit_exact_object :
    ∃ diagnostic, (Loader.parse ⟨0, ⟨1, 0⟩⟩ (text "[\"[\", \x7b 1")).diagnostic? =
        some diagnostic ∧
      diagnostic.code = .nestingDepthExceeded ∧ diagnostic.position = some 8 ∧
      (Loader.parse ⟨0, ⟨1, 0⟩⟩ (text "[\"[\", \x7b " ++ text "]]")).diagnostic? =
        some diagnostic := by
  have reported : (Loader.parse ⟨0, ⟨1, 0⟩⟩ (text "[\"[\", \x7b 1")).diagnostic?.map
      (fun diagnostic => (diagnostic.code, diagnostic.position)) =
        some (.nestingDepthExceeded, some 8) := by
    decide +kernel
  obtain ⟨diagnostic, found, place⟩ := Option.map_eq_some_iff.mp reported
  obtain ⟨code, position⟩ := Prod.mk.inj place
  obtain ⟨-, eighth, -, -, -, stands, replaced⟩ :=
    (Loader.nesting_limit_exact ⟨0, ⟨1, 0⟩⟩ (text "[\"[\", \x7b 1") rfl).2 diagnostic found code
  have eight : eighth = 8 := by
    have places := Option.some.inj (stands.symm.trans position)
    omega
  subst eight
  have visible : ∀ point, (text "]]").head? = some point → point.isBlank = false := by
    rintro point ⟨⟩
    rfl
  exact ⟨diagnostic, found, code, position, replaced (text "]]") visible rfl⟩

end Document

end Descent
