import Descent.Proofs.Document.Blank
import Descent.Proofs.Document.Number.Soundness
import Descent.Proofs.Document.String.Soundness

/-!
# Containers consume phrases

The languages of values, items and entries within the limits, and what a failure inside one of them
leaves behind. Containers are described for any rule of members: where the members belong to a
language, a container consumes an enclosed row of them, and where it fails on an expectation, what
it has consumed can be completed. Where it fails on the nesting limit, what it has consumed leads
into a container that is one too deep.

Members, colons and closing brackets may be mandatory or not. A part that may be missing makes the
container decline, which changes nothing about what it consumes.
-/

namespace Descent.Document

variable {ν : Type} {laps : Nat} {resolve : ν → Behaviour} {cursor : Cursor}

/-! ## Limits and languages -/

/-- Containers and numbers that are allowed where a number of containers is open already. -/
structure Limits.Fits (limits : Limits) (depth : Int) (nesting : Nat)
    (literals : List NumberLiteral) : Prop where
  nests : 0 < nesting → depth + nesting ≤ limits.maxDepth
  admits : ∀ literal ∈ literals, limits.Admits literal

namespace Limits.Fits

variable {limits : Limits} {depth : Int} {nesting more : Nat} {literals others : List NumberLiteral}

/-- What has neither containers nor numbers is always allowed. -/
theorem empty : limits.Fits depth 0 [] := ⟨by simp, by simp⟩

/-- Two neighbours are allowed together if each is. -/
theorem join (first : limits.Fits depth nesting literals) (second : limits.Fits depth more others) :
    limits.Fits depth (max nesting more) (literals ++ others) where
  nests := by
    intro positive
    have ofFirst := first.nests
    have ofSecond := second.nests
    omega
  admits := fun literal mem =>
    (List.mem_append.mp mem).elim (first.admits literal) (second.admits literal)

/-- Neighbours that are allowed together are allowed. -/
theorem parts (both : limits.Fits depth (max nesting more) (literals ++ others)) :
    limits.Fits depth nesting literals ∧ limits.Fits depth more others := by
  have nests := both.nests
  refine ⟨⟨by omega, ?_⟩, ⟨by omega, ?_⟩⟩
  · exact fun literal mem => both.admits literal (List.mem_append_left _ mem)
  · exact fun literal mem => both.admits literal (List.mem_append_right _ mem)

/-- A container around what is allowed one level deeper. -/
theorem enclose (within : depth + 1 ≤ limits.maxDepth)
    (inside : limits.Fits (depth + 1) nesting literals) :
    limits.Fits depth (nesting + 1) literals where
  nests := by
    have nests := inside.nests
    omega
  admits := inside.admits

/-- What is inside an allowed container. -/
theorem inside (around : limits.Fits depth (nesting + 1) literals) :
    depth + 1 ≤ limits.maxDepth ∧ limits.Fits (depth + 1) nesting literals := by
  have nests := around.nests
  exact ⟨by omega, by omega, around.admits⟩

end Limits.Fits

/-- The texts of values. -/
def ValueText (limits : Limits) (depth : Int) (points : Text) : Prop :=
  ∃ phrase : Phrase, limits.Fits depth phrase.nesting phrase.literals ∧ points = phrase.text

/-- The texts of items behind the first one. -/
def ItemsText (limits : Limits) (depth : Int) (points : Text) : Prop :=
  ∃ tail : ItemTail, limits.Fits depth tail.nesting tail.literals ∧ points = tail.text

/-- The texts of entries. -/
def EntryText (limits : Limits) (depth : Int) (points : Text) : Prop :=
  ∃ (key : List StringItem) (colon : Margin) (item : Phrase),
    limits.Fits depth item.nesting item.literals ∧
    points = StringItem.quoted key ++ colon.around ':' ++ item.text

/-- The texts of entries behind the first one. -/
def EntriesText (limits : Limits) (depth : Int) (points : Text) : Prop :=
  ∃ tail : EntryTail, limits.Fits depth tail.nesting tail.literals ∧ points = tail.text

/-- What may stand in front of a member of a container: nothing, or the members before it and a
comma. -/
inductive Front (member others : Text → Prop) : Text → Prop where
  | first : Front member others []
  | later {points more : Text} (isMember : member points) (areOthers : others more)
      (comma : Margin) : Front member others (points ++ (more ++ comma.around ','))

/-- A text that begins a value and ends behind the bracket of a container that is one too deep. All
the members before it are within the limits. -/
inductive Descends (limits : Limits) : (depth : Int) → Text → Prop where
  | array {depth : Int} (beyond : limits.maxDepth < depth + 1) (opening : Margin) :
      Descends limits depth (opening.around '[')
  | object {depth : Int} (beyond : limits.maxDepth < depth + 1) (opening : Margin) :
      Descends limits depth (opening.around '\x7b')
  | item {depth : Int} {front inner : Text} (within : depth + 1 ≤ limits.maxDepth)
      (opening : Margin)
      (isFront : Front (ValueText limits (depth + 1)) (ItemsText limits (depth + 1)) front)
      (descends : Descends limits (depth + 1) inner) :
      Descends limits depth (opening.around '[' ++ (front ++ inner))
  | entry {depth : Int} {front inner : Text} (within : depth + 1 ≤ limits.maxDepth)
      (opening : Margin)
      (isFront : Front (EntryText limits (depth + 1)) (EntriesText limits (depth + 1)) front)
      (key : List StringItem) (colon : Margin) (descends : Descends limits (depth + 1) inner) :
      Descends limits depth (opening.around '\x7b' ++
        (front ++ (StringItem.quoted key ++ colon.around ':' ++ inner)))

/-- The error that too many containers are open at a cursor, or what is left of it where the limit
cannot be written. -/
inductive TooDeepAt (limits : Limits) (cursor : Cursor) : ParseError → Prop where
  | worded {error : ParseError} (worded : tooDeep limits cursor.state = .ok error) :
      TooDeepAt limits cursor error
  | unworded (unwritten : limits.depthIsWritable = false) : TooDeepAt limits cursor cursor.unworded

/-- The failure of a container that is one too deep, behind its bracket and the white space after
it. -/
structure Exceeds (limits : Limits) (depth : Int) (consumed : Text) (next : Cursor)
    (error : ParseError) : Prop where
  isDeep : TooDeepAt limits next error
  descends : Descends limits depth consumed
  stops : skipBlanks next.rest = next.rest

/-- The failure of a container in the value of an entry. -/
def EntryExceeds (limits : Limits) (depth : Int) (consumed : Text) (next : Cursor)
    (error : ParseError) : Prop :=
  ∃ (key : List StringItem) (colon : Margin) (inner : Text),
    Exceeds limits depth inner next error ∧
    consumed = StringItem.quoted key ++ colon.around ':' ++ inner

/-- A failure behind a consumed text: an expectation that is not met leaves the beginning of a text
of the language, a limit for the nesting that is exceeded is described apart, and one for the digits
says so. -/
inductive Stops (language : Text → Prop) (deep : Text → Cursor → ParseError → Prop)
    (consumed : Text) (next : Cursor) (error : ParseError) : Prop where
  | expectation (code : error.code = .expectationFailed)
      (viable : ∃ missing, language (consumed ++ missing))
  | nesting (code : error.code = .nestingDepthExceeded) (leads : deep consumed next error)
  | digits (code : error.code = .numberTooLarge)

/-- A failure inside a part of a text is one inside the text, if the text can be completed once the
part is complete, and leads too deep where the part does. -/
theorem Stops.within {part whole : Text → Prop}
    {deepPart deepWhole : Text → Cursor → ParseError → Prop} {consumed points : Text}
    {next : Cursor} {error : ParseError} (stops : Stops part deepPart consumed next error)
    (completes : ∀ missing, part (consumed ++ missing) →
      ∃ more, whole (points ++ (missing ++ more)))
    (leads : deepPart consumed next error → deepWhole points next error) :
    Stops whole deepWhole points next error := by
  cases stops with
  | expectation code viable =>
      obtain ⟨missing, inPart⟩ := viable
      obtain ⟨more, inWhole⟩ := completes missing inPart
      exact .expectation code ⟨missing ++ more, inWhole⟩
  | nesting code isDeep => exact .nesting code (leads isDeep)
  | digits code => exact .digits code

/-! ## Keywords -/

/-- A word. -/
theorem reads_word {characters : String} {product : Value}
    (unbroken : ∀ point ∈ text characters,
      point ≠ CodePoint.carriageReturn ∧ point ≠ CodePoint.lineFeed) (cursor : Cursor) :
    cursor.Reads
      (fun consumed result next => consumed = text characters ∧ result = scalar product ∧
        next.depth = cursor.depth)
      (¬ text characters <+: cursor.rest) noFailure
      ((word characters product : Rule ν).evaluate laps resolve cursor.state).reply := by
  refine Cursor.Reads.constant ((reads_literalSequence unbroken cursor).weakenMatch ?_)
  rintro consumed _ next _ ⟨spelled, depth⟩
  exact ⟨spelled, rfl, depth⟩

/-- One of the three words. -/
theorem reads_keyword (cursor : Cursor) :
    cursor.Reads
      (fun consumed product next => ∃ keyword : Keyword, consumed = keyword.text ∧
        product = scalar keyword.value ∧ next.depth = cursor.depth)
      (∀ keyword : Keyword, ¬ keyword.text <+: cursor.rest) noFailure
      ((keyword : Rule ν).evaluate laps resolve cursor.state).reply := by
  refine Cursor.Reads.choice_cons
    ((reads_word ?_ cursor).weakenMatch (fun _ _ _ _ holds => ⟨.no, holds⟩)) fun noFalse => ?_
  · simp [text, CodePoint.carriageReturn, CodePoint.lineFeed, CodePoint.ofChar]
  refine Cursor.Reads.choice_cons
    ((reads_word ?_ cursor).weakenMatch (fun _ _ _ _ holds => ⟨.yes, holds⟩)) fun noTrue => ?_
  · simp [text, CodePoint.carriageReturn, CodePoint.lineFeed, CodePoint.ofChar]
  refine Cursor.Reads.choice_cons
    ((reads_word ?_ cursor).weakenMatch (fun _ _ _ _ holds => ⟨.null, holds⟩))
    fun noNull => .choice_nil ?_
  · simp [text, CodePoint.carriageReturn, CodePoint.lineFeed, CodePoint.ofChar]
  intro keyword
  cases keyword with
  | no => exact noFalse
  | yes => exact noTrue
  | null => exact noNull

/-! ## Steps of containers -/

/-- The error that too many containers are open, where the limit can be written. -/
theorem exists_tooDeep {limits : Limits} (written : limits.depthIsWritable) (cursor : Cursor) :
    ∃ error, tooDeep limits cursor.state = .ok error ∧ error.state = cursor.state ∧
      error.code = .nestingDepthExceeded := by
  obtain ⟨span, made⟩ := State.exists_span cursor.pos_nonneg
  refine ⟨.ofDiagnostic (.nestingDepthExceeded limits.maxDepth span (some cursor.state.pos))
    cursor.state, ?_, rfl, rfl⟩
  rw [tooDeep, ErrorAt.wording_of_span made, if_pos written]

/-- Where the limit cannot be written, there is no error. -/
theorem tooDeep_unwritten {limits : Limits} (unwritten : limits.depthIsWritable = false)
    (cursor : Cursor) : tooDeep limits cursor.state = .error .longNumeral := by
  obtain ⟨span, made⟩ := State.exists_span cursor.pos_nonneg
  rw [tooDeep, ErrorAt.wording_of_span made, unwritten, if_neg Bool.false_ne_true]

/-- An error without words is one whose limit cannot be written: the others have a message. -/
theorem TooDeepAt.unwritten {limits : Limits} {cursor : Cursor}
    (isDeep : TooDeepAt limits cursor cursor.unworded) : limits.depthIsWritable = false := by
  generalize failure : cursor.unworded = error at isDeep
  cases isDeep with
  | unworded unwritten => exact unwritten
  | worded worded =>
      refine Bool.eq_false_iff.mpr fun written => ?_
      obtain ⟨span, made⟩ := State.exists_span cursor.pos_nonneg
      rw [tooDeep, ErrorAt.wording_of_span made, if_pos written, Except.ok.injEq] at worded
      have message := congrArg ParseError.message (worded.trans failure.symm)
      simp [ParseError.ofDiagnostic, Diagnostic.nestingDepthExceeded, Cursor.unworded,
        text] at message

/-- Going on within the limit for the depth, or failing beyond it. -/
theorem reads_withinDepth {limits : Limits} {steps : Steps ν}
    {onMatch : Text → Value → Cursor → Prop} {onDecline : Prop}
    {onFail : Text → Cursor → ParseError → Prop}
    (beyond : limits.maxDepth < cursor.depth → ∀ error : ParseError,
      error.code = .nestingDepthExceeded → TooDeepAt limits cursor error → onFail [] cursor error)
    (within : cursor.depth ≤ limits.maxDepth →
      cursor.Reads onMatch onDecline onFail (steps.evaluate laps resolve cursor.state).reply) :
    cursor.Reads onMatch onDecline onFail
      ((withinDepth limits steps).evaluate laps resolve cursor.state).reply := by
  show cursor.Reads onMatch onDecline onFail ((if limits.maxDepth < cursor.depth then
    .apply (.escalate (tooDeep limits)) fun _ => steps else steps : Steps ν).evaluate laps resolve
      cursor.state).reply
  split
  · rename_i many
    cases written : limits.depthIsWritable with
    | true =>
        obtain ⟨error, worded, place, code⟩ := exists_tooDeep written cursor
        rw [reply_escalate worded]
        exact .failed (.refl cursor) place (beyond many error code (.worded worded))
    | false =>
        rw [reply_escalate_error (tooDeep_unwritten written cursor)]
        exact .raised (.refl cursor) (beyond many _ rfl (.unworded written))
  · rename_i few
    exact within (Int.not_lt.mp few)

/-- The members of a container: none, or a first one and the others behind it. -/
theorem reads_members {first additional : Rule ν} {close : List Value → Steps ν}
    {onFirst onMatch : Text → Value → Cursor → Prop} {onAbsent onDecline : Prop}
    {onFail : Text → Cursor → ParseError → Prop}
    (reads : cursor.Reads onFirst onAbsent onFail
      (first.evaluate laps resolve cursor.state).reply)
    (isSome : ∀ consumed product next, onFirst consumed product next → product ≠ .none)
    (absent : onAbsent →
      cursor.Reads onMatch onDecline onFail ((close []).evaluate laps resolve cursor.state).reply)
    (present : ∀ consumed product next, cursor.Passes consumed next →
      onFirst consumed product next →
      next.Reads (fun more => onMatch (consumed ++ more)) onDecline
        (fun more => onFail (consumed ++ more))
        ((Steps.apply (.zeroOrMore additional) fun
          | .tuple rest => close (product :: rest)
          | _ => .fault .typeMismatch).evaluate laps resolve next.state).reply) :
    cursor.Reads onMatch onDecline onFail
      ((members first additional close).evaluate laps resolve cursor.state).reply := by
  have found : cursor.Reads
      (fun consumed product next => onFirst consumed product next ∨
        (consumed = [] ∧ product = .none ∧ next = cursor ∧ onAbsent))
      False onFail ((Rule.optional first .none).evaluate laps resolve cursor.state).reply :=
    Cursor.Reads.optional (reads.weakenMatch fun _ _ _ _ isFirst => .inl isFirst)
      fun missing => .inr ⟨rfl, rfl, rfl, missing⟩
  refine found.neverDeclines.apply ?_
  rintro consumed product next passes (isFirst | ⟨rfl, rfl, rfl, missing⟩)
  · have some := isSome consumed product next isFirst
    have rest := present consumed product next passes isFirst
    cases product with
    | none => exact absurd rfl some
    | bool => exact rest
    | int => exact rest
    | float => exact rest
    | str => exact rest
    | tuple => exact rest
    | list => exact rest
    | mapping => exact rest
    | record => exact rest
  · exact absent missing

/-! ## Containers -/

/-- A behaviour that consumes texts of a language at a depth. -/
def ReadsText (laps : Nat) (language : Text → Prop) (deep : Text → Cursor → ParseError → Prop)
    (depth : Int) (onDecline : Prop) (body : Behaviour) : Prop :=
  ∀ cursor : Cursor, cursor.depth = depth → cursor.rest.length < laps →
    cursor.Reads
      (fun consumed product next => language consumed ∧ product ≠ .none ∧ next.depth = depth)
      onDecline (Stops language deep) (body cursor.state).reply

namespace ReadsText

variable {language : Text → Prop} {deep : Text → Cursor → ParseError → Prop} {depth : Int}
  {onDecline : Prop}

/-- A behaviour that may decline more often. -/
theorem weaken {onDecline' : Prop} {body : Behaviour}
    (reads : ReadsText laps language deep depth onDecline body)
    (weaker : onDecline → onDecline') : ReadsText laps language deep depth onDecline' body :=
  fun cursor isDeep enough =>
    (reads cursor isDeep enough).weakenDecline weaker

/-- A mandatory part of a text. -/
theorem mandatory {rule : Rule ν}
    (reads : ReadsText laps language deep depth onDecline (rule.evaluate laps resolve))
    (possible : ∃ points, language points) (expectation : Text) :
    ReadsText laps language deep depth False
      ((Rule.failpoint rule (.expecting expectation)).evaluate laps resolve) := by
  intro cursor isDeep enough
  refine (reads cursor isDeep enough).failpoint ?_
  intro _ error code
  exact .expectation code possible

/-- A step that applies a rule and ends with its product. -/
theorem apply {rule : Rule ν}
    (reads : ReadsText laps language deep depth onDecline (rule.evaluate laps resolve)) :
    ReadsText laps language deep depth onDecline
      ((Steps.apply rule .finish).evaluate laps resolve) := by
  intro cursor isDeep enough
  refine Cursor.Reads.apply (reads cursor isDeep enough) ?_
  rintro consumed product next _ holds
  exact .finish (by simpa using holds)

end ReadsText

/-- A behaviour that consumes a structural character, between two depths. -/
def ReadsMark (laps : Nat) (character : Char) (depth after : Int) (onDecline : Prop)
    (body : Behaviour) : Prop :=
  ∀ cursor : Cursor, cursor.depth = depth → cursor.rest.length < laps →
    cursor.Reads
      (fun consumed _ next => (∃ margin : Margin, consumed = margin.around character) ∧
        next.depth = after)
      onDecline (Stops (· = Margin.none.around character) noFailure) (body cursor.state).reply

/-- A behaviour that may decline more often. -/
theorem ReadsMark.weaken {character : Char} {depth after : Int} {onDecline onDecline' : Prop}
    {body : Behaviour} (reads : ReadsMark laps character depth after onDecline body)
    (weaker : onDecline → onDecline') : ReadsMark laps character depth after onDecline' body :=
  fun cursor deep enough =>
    (reads cursor deep enough).weakenDecline weaker

theorem readsMark_separator {character : Char}
    (visible : (CodePoint.ofChar character).isBlank = false) (depth : Int) :
    ReadsMark laps character depth depth True
      ((separator character : Rule ν).evaluate laps resolve) := by
  rintro cursor rfl enough
  refine (reads_separator visible enough).neverFails.mayDecline.weakenMatch ?_
  rintro consumed _ next _ ⟨crosses, deep⟩
  exact ⟨crosses.margin, deep⟩

theorem readsMark_closing {character : Char}
    (visible : (CodePoint.ofChar character).isBlank = false) (depth : Int) :
    ReadsMark laps character (depth + 1) depth True
      ((bracket character (-1) : Rule ν).evaluate laps resolve) := by
  intro cursor deep enough
  refine (reads_bracket visible enough).neverFails.mayDecline.weakenMatch ?_
  rintro consumed _ next _ ⟨crosses, nextDepth⟩
  exact ⟨crosses.margin, by omega⟩

/-- A mandatory structural character. -/
theorem ReadsMark.mandatory {rule : Rule ν} {character : Char} {depth after : Int}
    {onDecline : Prop}
    (reads : ReadsMark laps character depth after onDecline (rule.evaluate laps resolve))
    (expectation : Text) :
    ReadsMark laps character depth after False
      ((Rule.failpoint rule (.expecting expectation)).evaluate laps resolve) := by
  intro cursor deep enough
  refine (reads cursor deep enough).failpoint ?_
  intro _ error code
  exact .expectation code ⟨_, rfl⟩

/-- The failure of a member behind the first one. -/
def Later (others : Text → Prop) (deep : Text → Cursor → ParseError → Prop) (consumed : Text)
    (next : Cursor) (error : ParseError) : Prop :=
  ∃ (more : Text) (comma : Margin) (inner : Text), others more ∧ deep inner next error ∧
    consumed = more ++ (comma.around ',' ++ inner)

/-- One lap through the members of a container behind the first one. -/
theorem lap_commas {member others : Text → Prop} {deep : Text → Cursor → ParseError → Prop}
    {depth : Int} {onDecline : Prop} {steps : Steps ν}
    (reads : ReadsText laps member deep depth onDecline (steps.evaluate laps resolve))
    (none : others [])
    (further : ∀ (comma : Margin) {points more : Text}, member points → others more →
      others (comma.around ',' ++ (points ++ more))) :
    Lap ((Rule.derivation (.apply (separator ',') fun _ => steps) []).evaluate laps resolve)
      (fun cursor => cursor.depth = depth ∧ cursor.rest.length < laps)
      (fun _ consumed _ next => (∃ (comma : Margin) (points : Text), member points ∧
        consumed = comma.around ',' ++ points) ∧ next.depth = depth)
      (fun _ => True) (fun _ => Stops others (Later others deep))
      (fun _ consumed _ next => others consumed ∧ next.depth = depth) where
  reads := by
    rintro cursor ⟨deep, enough⟩
    refine Cursor.Reads.derivation
      (Cursor.Reads.apply (reads_separator (by decide) enough).neverFails.mayDecline ?_)
    rintro _ _ first passes ⟨crosses, firstDepth⟩
    obtain ⟨comma, rfl⟩ := crosses.margin
    have shorter := passes.length
    refine (reads first (firstDepth.trans deep) (by omega)).mono ?_ (fun _ => trivial) ?_
    · rintro points _ second _ ⟨isMember, -, secondDepth⟩
      exact ⟨⟨comma, points, isMember, rfl⟩, secondDepth⟩
    · intro consumed next error stops
      refine stops.within (fun missing isMember => ⟨[], ?_⟩) fun isDeep => ?_
      · simpa using further comma isMember none
      · exact ⟨[], comma, consumed, none, isDeep, rfl⟩
  consumes := by
    rintro cursor _ _ next ⟨⟨comma, points, -, rfl⟩, -⟩
    simp [Margin.around]
  reaches := by
    rintro cursor consumed _ next ⟨-, enough⟩ passes ⟨-, deep⟩
    have shorter := passes.length
    exact ⟨deep, by omega⟩
  stops := fun reached _ => ⟨none, reached.1⟩
  continues := by
    rintro cursor _ _ next more _ last _ ⟨⟨comma, points, isMember, rfl⟩, -⟩ - ⟨areOthers, deep⟩
    rw [List.append_assoc]
    exact ⟨further comma isMember areOthers, deep⟩
  fails := by
    rintro cursor _ _ next more last error ⟨⟨comma, points, isMember, rfl⟩, -⟩ stops
    refine stops.within (fun missing areOthers => ⟨[], ?_⟩) ?_
    · simpa using further comma isMember areOthers
    · rintro ⟨before, lastComma, inner, areOthers, isDeep, rfl⟩
      exact ⟨_, lastComma, inner, further comma isMember areOthers, isDeep, by simp⟩

/-- How the texts of a container are made of those of its members, and that it leads too deep where
a member does. -/
structure Encloses (opener closer : Char) (member others whole : Text → Prop)
    (deepMember deepWhole : Text → Cursor → ParseError → Prop) : Prop where
  none : others []
  further : ∀ (comma : Margin) {points more : Text}, member points → others more →
    others (comma.around ',' ++ (points ++ more))
  empty : ∀ opening closing : Margin, whole (opening.around opener ++ closing.around closer)
  full : ∀ (opening closing : Margin) {points more : Text}, member points → others more →
    whole (opening.around opener ++ (points ++ (more ++ closing.around closer)))
  leads : ∀ (opening : Margin) {front inner : Text} {next : Cursor} {error : ParseError},
    Front member others front → deepMember inner next error →
    deepWhole (opening.around opener ++ (front ++ inner)) next error

/-- A container: brackets around members with commas between them. -/
theorem reads_container {limits : Limits} {opener closer : Char} {kind : RecordKind}
    {first closing : Rule ν} {steps : Steps ν} {member others whole : Text → Prop}
    {deepMember deepWhole : Text → Cursor → ParseError → Prop} {onDecline : Prop}
    (visible : (CodePoint.ofChar opener).isBlank = false)
    (beyond : limits.maxDepth < cursor.depth + 1 → ∀ (opening : Margin) (next : Cursor)
      (error : ParseError), TooDeepAt limits next error →
      skipBlanks next.rest = next.rest → deepWhole (opening.around opener) next error)
    (encloses : cursor.depth + 1 ≤ limits.maxDepth →
      Encloses opener closer member others whole deepMember deepWhole)
    (readsFirst : cursor.depth + 1 ≤ limits.maxDepth →
      ReadsText laps member deepMember (cursor.depth + 1) True (first.evaluate laps resolve))
    (readsOthers : cursor.depth + 1 ≤ limits.maxDepth →
      ReadsText laps member deepMember (cursor.depth + 1) onDecline (steps.evaluate laps resolve))
    (readsClosing : ReadsMark laps closer (cursor.depth + 1) cursor.depth onDecline
      (closing.evaluate laps resolve))
    (enough : cursor.rest.length < laps) :
    cursor.Reads
      (fun consumed product next => whole consumed ∧ product ≠ .none ∧ next.depth = cursor.depth)
      True (Stops whole deepWhole)
      ((Rule.derivation (.apply (bracket opener 1) fun _ =>
        withinDepth limits (members first
          (.derivation (.apply (separator ',') fun _ => steps) []) fun items =>
            .apply closing fun _ => .finish (.record kind [.tuple items]))) []).evaluate laps
              resolve cursor.state).reply := by
  refine Cursor.Reads.derivation
    (Cursor.Reads.apply (reads_bracket visible enough).neverFails.mayDecline ?_)
  rintro _ _ inner passes ⟨crosses, innerDepth⟩
  obtain ⟨⟨opening, rfl⟩, tail, -, innerRest⟩ := crosses
  have innerShorter := passes.length
  refine reads_withinDepth (fun many error code worded => .nesting code ?_) fun within => ?_
  · rw [List.append_nil]
    refine beyond (innerDepth ▸ many) opening inner error worded ?_
    rw [innerRest, skipBlanks_skipBlanks]
  rw [innerDepth] at within
  have encloses := encloses within
  refine reads_members ((readsFirst within inner innerDepth (by omega)).weakenFail ?_)
    (fun _ _ _ holds => holds.2.1) ?_ ?_
  · intro consumed next error stops
    refine stops.within (fun missing isMember => ⟨Margin.none.around closer, ?_⟩) fun isDeep => ?_
    · simpa using encloses.full opening .none isMember encloses.none
    · simpa using encloses.leads opening .first isDeep
  · intro _
    refine Cursor.Reads.apply
      ((readsClosing inner innerDepth (by omega)).mayDecline.weakenFail ?_) ?_
    · intro consumed next error stops
      refine stops.within (fun missing spelled => ⟨[], ?_⟩) False.elim
      simpa [← spelled] using encloses.empty opening .none
    · rintro _ _ last _ ⟨⟨closing, rfl⟩, lastDepth⟩
      refine .finish ⟨?_, by simp, lastDepth⟩
      simpa using encloses.empty opening closing
  · rintro points _ second secondPasses ⟨isMember, -, secondDepth⟩
    have secondShorter := secondPasses.length
    have lap := lap_commas (readsOthers within) encloses.none encloses.further
    refine Cursor.Reads.apply
      ((lap.zeroOrMore ⟨secondDepth, by omega⟩ (by omega)).neverDeclines.weakenFail ?_) ?_
    · intro consumed next error stops
      refine stops.within (fun missing areOthers => ⟨Margin.none.around closer, ?_⟩) ?_
      · simpa using encloses.full opening .none isMember areOthers
      · rintro ⟨more, comma, deeper, areOthers, isDeep, rfl⟩
        simpa using encloses.leads opening (.later isMember areOthers comma) isDeep
    · rintro more _ third thirdPasses ⟨products, rfl, areOthers, thirdDepth⟩
      have thirdShorter := thirdPasses.length
      refine Cursor.Reads.apply
        ((readsClosing third thirdDepth (by omega)).mayDecline.weakenFail ?_) ?_
      · intro consumed next error stops
        refine stops.within (fun missing spelled => ⟨[], ?_⟩) False.elim
        simpa [← spelled] using encloses.full opening .none isMember areOthers
      · rintro _ _ last _ ⟨⟨closing, rfl⟩, lastDepth⟩
        refine .finish ⟨?_, by simp, lastDepth⟩
        simpa using encloses.full opening closing isMember areOthers

end Descent.Document
