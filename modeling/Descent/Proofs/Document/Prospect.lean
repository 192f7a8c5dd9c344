import Descent.Proofs.Document.Blank
import Descent.Proofs.Document.String.Escape

/-!
# What may still come

A text that begins a document leaves parts of it open, and the next character decides how to go on
with them. `follow` keeps the open parts as a stack and moves over a text by one character at a
time. That every accepted text can be followed is a matter of the rules, and is not said here.

`Awaits` compares what a text leaves open with a stack, as far as the character ahead can tell. A
number may be over or go on, and only the character behind it says which. A place is `Stuck` if the
text cannot be followed over the first character ahead, or over the first one behind characters
that an attempt to go on may pass: white space, a minus, or the letters that a word begins with.
-/

namespace Descent.Document

/-- The two kinds of containers. -/
inductive Container where
  | array
  | object

/-- The bracket in front of the members. -/
def Container.opener : Container → Char
  | array => '['
  | object => '\x7b'

/-- The bracket behind the members. -/
def Container.closer : Container → Char
  | array => ']'
  | object => '\x7d'

theorem Container.isBlank_opener (container : Container) :
    (CodePoint.ofChar container.opener).isBlank = false := by
  cases container <;> decide

theorem Container.isBlank_closer (container : Container) :
    (CodePoint.ofChar container.closer).isBlank = false := by
  cases container <;> decide

/-- A part of a document that is open. -/
inductive Pending where
  /-- One character of a class. -/
  | one (accepts : CodePoint → Bool)
  /-- One character of a class, or none. -/
  | perhaps (accepts : CodePoint → Bool)
  /-- Any number of characters of a class. -/
  | many (accepts : CodePoint → Bool)
  | value
  /-- The digits before the point. -/
  | integral
  | fraction
  | exponent
  /-- What is left of a string behind its first quote. -/
  | contents
  /-- What follows a backslash. -/
  | escaped
  /-- The members of a container, and its closing bracket. -/
  | members (container : Container)
  /-- The members behind one that is complete, and the closing bracket. -/
  | others (container : Container)

namespace Pending

/-! ## Following a text -/

/-- White space. -/
def blanks : Pending := many CodePoint.isBlank

/-- A character. -/
def mark (point : CodePoint) : Pending := one (· == point)

/-- The characters of a text in a row. -/
def marks (points : Text) : List Pending := points.map mark

/-- A hexadecimal digit. -/
def hexDigit : Pending := one fun point => point.hexValue?.isSome

/-- The sign of an exponent, which may be missing. -/
def sign : Pending :=
  perhaps fun point => point == CodePoint.ofChar '+' || point == CodePoint.ofChar '-'

/-- Digits, of which there has to be one. -/
def digits : List Pending := [one CodePoint.isDigit, many CodePoint.isDigit]

/-- An entry of an object behind the first quote of its key. -/
def entry : List Pending :=
  [contents, blanks, mark (CodePoint.ofChar ':'), blanks, value]

/-- A member of a container behind a comma. -/
def member : Container → List Pending
  | .array => [value]
  | .object => mark (CodePoint.ofChar '"') :: entry

/-- What is left of the digits before the point behind the first one. -/
def afterDigit? (point : CodePoint) : Option (List Pending) :=
  if point = CodePoint.ofChar '0' then some []
  else if point.isDigit then some [many CodePoint.isDigit]
  else none

/-- What is left of a number behind its first character. -/
def afterNumberStart? (point : CodePoint) : Option (List Pending) :=
  if point = CodePoint.ofChar '-' then some [integral, fraction, exponent]
  else (afterDigit? point).map (· ++ [fraction, exponent])

/-- What is left of a word behind its first letter. -/
def afterLetter? (point : CodePoint) : Option (List Pending) :=
  [Keyword.no, Keyword.yes, Keyword.null].findSome? fun keyword =>
    if keyword.text.head? = some point then some (marks keyword.text.tail) else none

/-- What is left of a value behind its first character. -/
def afterStart? (point : CodePoint) : Option (List Pending) :=
  (afterNumberStart? point).or <| (afterLetter? point).or <|
    if point = CodePoint.ofChar '"' then some [contents]
    else if point = CodePoint.ofChar '[' then some [blanks, members .array]
    else if point = CodePoint.ofChar '\x7b' then some [blanks, members .object]
    else none

/-- What is left of a member of a container behind its first character. -/
def afterMemberStart? (point : CodePoint) : Container → Option (List Pending)
  | .array => afterStart? point
  | .object => if point = CodePoint.ofChar '"' then some entry else none

/-- What is left of a part behind a character that it begins with. -/
def step : Pending → CodePoint → Option (List Pending)
  | one accepts, point | perhaps accepts, point => if accepts point then some [] else none
  | many accepts, point => if accepts point then some [many accepts] else none
  | value, point => afterStart? point
  | integral, point => afterDigit? point
  | fraction, point => if point = CodePoint.ofChar '.' then some digits else none
  | exponent, point =>
    if Number.isExponentMark point then some (sign :: digits) else none
  | contents, point =>
    if point = CodePoint.ofChar '"' then some []
    else if point = CodePoint.ofChar '\\' then some [escaped, contents]
    else if point.isPlain then some [contents]
    else none
  | escaped, point =>
    if point = CodePoint.ofChar 'u' then some (List.replicate 4 hexDigit)
    else if escapeLetters.contains point then some []
    else none
  | members container, point =>
    if point = CodePoint.ofChar container.closer then some []
    else (afterMemberStart? point container).map (· ++ [blanks, others container])
  | others container, point =>
    if point = CodePoint.ofChar ',' then
      some (blanks :: (member container ++ [blanks, others container]))
    else if point = CodePoint.ofChar container.closer then some []
    else none

/-- Whether nothing has to come for the part to be complete. -/
def mayEnd : Pending → Bool
  | perhaps _ | many _ | fraction | exponent => true
  | _ => false

end Pending

/-- What is open behind a character. Parts that may end are left out where the character does not
begin them. -/
def advance : List Pending → CodePoint → Option (List Pending)
  | [], _ => none
  | part :: rest, point =>
    match part.step point with
    | some parts => some (parts ++ rest)
    | none => if part.mayEnd then advance rest point else none

/-- What is open behind a text. -/
def follow (stack : List Pending) (points : Text) : Option (List Pending) :=
  points.foldlM advance stack

/-- What is open in front of a document. -/
def atStart : List Pending := [.blanks, .value, .blanks]

/-! ## Steps -/

section

variable {part : Pending} {parts stack rest : List Pending} {point : CodePoint}
  {accepts : CodePoint → Bool}

/-- A part that the character begins is gone on with. -/
theorem advance_of_step (steps : part.step point = some parts) :
    advance (part :: rest) point = some (parts ++ rest) := by
  rw [advance, steps]

/-- A part that may end does not stand in the way. -/
theorem advance_of_mayEnd (ends : part.mayEnd) (lacks : part.step point = none) :
    advance (part :: rest) point = advance rest point := by
  rw [advance, lacks]
  exact if_pos ends

/-- A part that has to come does. -/
theorem advance_of_lacks (goesOn : part.mayEnd = false) (lacks : part.step point = none) :
    advance (part :: rest) point = none := by
  rw [advance, lacks]
  exact if_neg (by simp [goesOn])

/-- A character of the class is what was open … -/
theorem step_one (accepted : accepts point) : (Pending.one accepts).step point = some [] :=
  if_pos accepted

/-- … and no other character is. -/
theorem step_one_of_not (refused : accepts point = false) :
    (Pending.one accepts).step point = none :=
  if_neg (by simp [refused])

/-- A character of the class leaves room for more of them … -/
theorem step_many (accepted : accepts point) :
    (Pending.many accepts).step point = some [.many accepts] :=
  if_pos accepted

/-- … and another one does not belong to them. -/
theorem step_many_of_not (refused : accepts point = false) :
    (Pending.many accepts).step point = none :=
  if_neg (by simp [refused])

/-- The character itself. -/
theorem step_mark : (Pending.mark point).step point = some [] := step_one (beq_self_eq_true point)

/-- Another character. -/
theorem step_mark_of_ne {other : CodePoint} (differs : other ≠ point) :
    (Pending.mark point).step other = none :=
  step_one_of_not (beq_eq_false_iff_ne.mpr differs)

/-- A plain character of a string leaves its contents open. -/
theorem step_contents (isPlain : point.isPlain) :
    Pending.contents.step point = some [.contents] := by
  refine (if_neg ?_).trans ((if_neg ?_).trans (if_pos isPlain))
  · rintro rfl
    exact absurd isPlain (by decide)
  · rintro rfl
    exact absurd isPlain (by decide)

/-- Of the other characters only a quote and a backslash go on with a string. -/
theorem step_contents_of_not (noQuote : point ≠ CodePoint.ofChar '"')
    (noBackslash : point ≠ CodePoint.ofChar '\\') (notPlain : point.isPlain = false) :
    Pending.contents.step point = none :=
  (if_neg noQuote).trans ((if_neg noBackslash).trans (if_neg (by simp [notPlain])))

section Containers

variable {container : Container}

/-- A value may begin with a bracket, and then members are open. -/
theorem advance_opener :
    advance (.value :: rest) (CodePoint.ofChar container.opener) =
      some (.blanks :: .members container :: rest) := by
  cases container <;> rfl

/-- Behind a comma another member is open. -/
theorem advance_comma :
    advance (.others container :: rest) (CodePoint.ofChar ',') =
      some (.blanks :: (Pending.member container ++ .blanks :: .others container :: rest)) := by
  cases container <;> rfl

/-- A container may be closed in front of its first member … -/
theorem step_members_closer :
    (Pending.members container).step (CodePoint.ofChar container.closer) = some [] := if_pos rfl

/-- … and behind any of them. -/
theorem step_others_closer :
    (Pending.others container).step (CodePoint.ofChar container.closer) = some [] := by
  cases container <;> rfl

end Containers

/-- Behind the bracket of an array a value comes, unless the other bracket does. -/
theorem advance_members_array {point : CodePoint} (noCloser : point ≠ CodePoint.ofChar ']') :
    advance (.members .array :: rest) point =
      advance (.value :: .blanks :: .others .array :: rest) point := by
  have same : (Pending.members .array).step point =
      (Pending.value.step point).map (· ++ [.blanks, .others .array]) := if_neg noCloser
  cases begins : Pending.value.step point with
  | none =>
      rw [begins] at same
      rw [advance_of_lacks rfl begins, advance_of_lacks rfl same]
  | some parts =>
      rw [begins] at same
      rw [advance_of_step begins, advance_of_step same, List.append_assoc]
      rfl

/-- Where no white space is ahead, it is not missed. -/
theorem advance_blanks (visible : point.isBlank = false) :
    advance (.blanks :: rest) point = advance rest point :=
  advance_of_mayEnd rfl (step_many_of_not visible)

/-- A text is followed from its first character on. -/
theorem follow_cons (points : Text) :
    follow stack (point :: points) = (advance stack point).bind (follow · points) := rfl

/-- Two texts in a row are followed one after the other. -/
theorem follow_append (first second : Text) :
    follow stack (first ++ second) = (follow stack first).bind (follow · second) :=
  List.foldlM_append

theorem follow_singleton : follow stack [point] = advance stack point := by
  rw [follow_cons]
  exact Option.bind_fun_some _

/-- Any number of characters leave room for more of them. -/
theorem follow_many {points : Text} (accepted : ∀ point ∈ points, accepts point) :
    follow (.many accepts :: rest) points = some (.many accepts :: rest) := by
  induction points with
  | nil => rfl
  | cons point points inductionHypothesis =>
      obtain ⟨first, others⟩ := List.forall_mem_cons.mp accepted
      rw [follow_cons, advance_of_step (step_many first)]
      exact inductionHypothesis others

/-- White space leaves room for more of it. -/
theorem follow_blanks {points : Text} (areBlank : ∀ point ∈ points, point.isBlank) :
    follow (.blanks :: rest) points = some (.blanks :: rest) :=
  follow_many areBlank

/-- Characters in a row use up as many parts. -/
theorem follow_ones {points : Text} (accepted : ∀ point ∈ points, accepts point) (missing : Nat) :
    follow (List.replicate (points.length + missing) (Pending.one accepts) ++ rest) points =
      some (List.replicate missing (Pending.one accepts) ++ rest) := by
  induction points with
  | nil => rw [List.length_nil, Nat.zero_add]; rfl
  | cons point points inductionHypothesis =>
      obtain ⟨first, others⟩ := List.forall_mem_cons.mp accepted
      rw [List.length_cons, Nat.add_right_comm, List.replicate_succ, List.cons_append, follow_cons,
        advance_of_step (step_one first)]
      exact inductionHypothesis others

/-- A structural character inside its white space. -/
theorem follow_around {character : Char} (visible : (CodePoint.ofChar character).isBlank = false)
    (steps : advance stack (CodePoint.ofChar character) = some (.blanks :: rest))
    (margin : Margin) :
    follow (.blanks :: stack) (margin.around character) = some (.blanks :: rest) := by
  rw [Margin.around, follow_append, follow_blanks margin.before.property, Option.bind_some,
    follow_cons, advance_blanks visible, steps, Option.bind_some,
    follow_blanks margin.after.property]

end

/-! ## What is open at a place -/

section Places

variable {before ahead consumed behind : Text} {stack after rest : List Pending} {part : Pending}

/-- The text before a place can be followed, and the character ahead leads on from what is open
there as it does from a stack. -/
def Awaits (before ahead : Text) (stack : List Pending) : Prop :=
  ∃ opened, follow atStart before = some opened ∧
    ∀ point, ahead.head? = some point → advance opened point = advance stack point

/-- The text before a place can be followed, and where the character ahead leads on from a stack, it
does so from what is open there. -/
def Offers (before ahead : Text) (stack : List Pending) : Prop :=
  ∃ opened, follow atStart before = some opened ∧
    ∀ point next, ahead.head? = some point → advance stack point = some next →
      advance opened point = some next

/-- What is awaited is offered. -/
theorem Awaits.offers (awaits : Awaits before ahead stack) : Offers before ahead stack := by
  obtain ⟨opened, follows, same⟩ := awaits
  exact ⟨opened, follows, fun point next head steps => (same point head).trans steps⟩

/-- The same as far as the character ahead can tell. -/
theorem Awaits.congr (awaits : Awaits before ahead stack)
    (same : ∀ point, ahead.head? = some point → advance stack point = advance after point) :
    Awaits before ahead after := by
  obtain ⟨opened, follows, agrees⟩ := awaits
  exact ⟨opened, follows, fun point head => (agrees point head).trans (same point head)⟩

/-- Fewer ways to go on. -/
theorem Offers.restrict (offers : Offers before ahead stack)
    (fewer : ∀ point next, ahead.head? = some point → advance after point = some next →
      advance stack point = some next) : Offers before ahead after := by
  obtain ⟨opened, follows, leads⟩ := offers
  exact ⟨opened, follows, fun point next head steps =>
    leads point next head (fewer point next head steps)⟩

/-- A character that leads on, told apart from the others. -/
theorem Offers.of_mark {point : CodePoint} (offers : Offers before ahead stack)
    (steps : advance stack point = some after) : Offers before ahead (.mark point :: after) := by
  refine offers.restrict fun other next _ further => ?_
  by_cases same : other = point
  · subst same
    rw [← further, advance_of_step step_mark, steps]
    rfl
  · rw [advance_of_lacks rfl (step_mark_of_ne same)] at further
    cases further

/-- Moving over a text that is not empty. -/
theorem Offers.pass (offers : Offers before ahead stack) (whole : ahead = consumed ++ behind)
    (present : consumed ≠ []) (follows : follow stack consumed = some after) :
    Awaits (before ++ consumed) behind after := by
  obtain ⟨opened, reached, leads⟩ := offers
  obtain ⟨point, points, rfl⟩ := List.exists_cons_of_ne_nil present
  refine ⟨after, ?_, fun _ _ => rfl⟩
  rw [follow_cons] at follows
  obtain ⟨next, steps, further⟩ := Option.bind_eq_some_iff.mp follows
  rw [follow_append, reached, Option.bind_some, follow_cons,
    leads point next (by rw [whole]; rfl) steps, Option.bind_some, further]

/-- Moving over a text. -/
theorem Awaits.pass (awaits : Awaits before ahead stack) (whole : ahead = consumed ++ behind)
    (follows : follow stack consumed = some after) : Awaits (before ++ consumed) behind after := by
  cases consumed with
  | nil =>
      cases follows
      rw [List.append_nil, show behind = ahead from whole.symm]
      exact awaits
  | cons point points => exact awaits.offers.pass whole (List.cons_ne_nil _ _) follows

/-- A part that does not go on may end. -/
theorem Awaits.skip (awaits : Awaits before ahead (part :: rest)) (ends : part.mayEnd)
    (lacks : ∀ point, ahead.head? = some point → part.step point = none) :
    Awaits before ahead rest :=
  awaits.congr fun point head => advance_of_mayEnd ends (lacks point head)

/-- Characters of a class, as far as they go. -/
theorem Awaits.run {accepts : CodePoint → Bool}
    (awaits : Awaits before ahead (.many accepts :: rest))
    (whole : ahead = ahead.takeWhile accepts ++ behind) :
    Awaits (before ++ ahead.takeWhile accepts) behind rest := by
  have passed := awaits.pass whole (follow_many (List.all_eq_true.mp List.all_takeWhile))
  refine passed.skip rfl fun point head => step_many_of_not ?_
  have dropped : behind = ahead.dropWhile accepts :=
    List.append_cancel_left (whole.symm.trans List.takeWhile_append_dropWhile.symm)
  have stopped := List.head?_dropWhile_not accepts ahead
  rw [← dropped, head] at stopped
  exact stopped

/-! ## White space -/

/-- Where nothing is skipped, the character ahead is no white space. -/
theorem isBlank_of_head {point : CodePoint} (bare : skipBlanks ahead = ahead)
    (head : ahead.head? = some point) : point.isBlank = false := by
  have stopped := List.head?_dropWhile_not CodePoint.isBlank ahead
  rw [show ahead.dropWhile CodePoint.isBlank = ahead from bare, head] at stopped
  exact stopped

/-- White space that is not there is not missed … -/
theorem Awaits.of_blanks (awaits : Awaits before ahead (.blanks :: rest))
    (bare : skipBlanks ahead = ahead) : Awaits before ahead rest :=
  awaits.congr fun _ head => advance_blanks (isBlank_of_head bare head)

/-- … and is not in the way. -/
theorem Offers.blanks (offers : Offers before ahead rest) (bare : skipBlanks ahead = ahead) :
    Offers before ahead (.blanks :: rest) :=
  offers.restrict fun _ _ head steps =>
    (advance_blanks (isBlank_of_head bare head)).symm.trans steps

/-! ## Places without a way on -/

/-- Characters that may be passed before it shows that there is no way on. -/
def Skippable (points : Text) : Prop :=
  (∀ point ∈ points, point.isBlank) ∨ points = text "-" ∨
    ∃ keyword : Keyword, points <+: keyword.text

/-- Behind characters that may be passed there is the end of the text, or a character over which
the text cannot be followed. -/
def Stuck (before ahead : Text) : Prop :=
  ∃ skipped behind, ahead = skipped ++ behind ∧ Skippable skipped ∧
    ∀ wrong, behind.head? = some wrong → follow atStart (before ++ (skipped ++ [wrong])) = none

/-- What cannot be followed from a stack cannot be followed where the stack is awaited. -/
theorem Awaits.follow_eq_none (awaits : Awaits before ahead stack) (begins : consumed <+: ahead)
    (present : consumed ≠ []) (fails : follow stack consumed = none) :
    follow atStart (before ++ consumed) = none := by
  obtain ⟨opened, reached, same⟩ := awaits
  obtain ⟨point, points, rfl⟩ := List.exists_cons_of_ne_nil present
  obtain ⟨behind, rfl⟩ := begins
  rw [follow_cons] at fails
  rw [follow_append, reached, Option.bind_some, follow_cons, same point rfl, fails]

/-- There is no way on behind what may be passed. -/
theorem Awaits.stuck_behind {skipped : Text} (awaits : Awaits before ahead stack)
    (whole : ahead = skipped ++ behind) (skips : Skippable skipped)
    (fails : ∀ wrong, behind.head? = some wrong → follow stack (skipped ++ [wrong]) = none) :
    Stuck before ahead := by
  refine ⟨skipped, behind, whole, skips, fun wrong head => ?_⟩
  obtain ⟨others, rfl⟩ := List.head?_eq_some_iff.mp head
  exact awaits.follow_eq_none ⟨others, by simp [whole]⟩ (by simp) (fails wrong head)

/-- Nothing is passed. -/
theorem skippable_nil : Skippable [] := .inl (List.forall_mem_nil _)

/-- The character ahead leads nowhere. -/
theorem Awaits.stuck (awaits : Awaits before ahead stack)
    (fails : ∀ wrong, ahead.head? = some wrong → advance stack wrong = none) :
    Stuck before ahead :=
  awaits.stuck_behind (List.nil_append ahead).symm skippable_nil fun wrong head =>
    follow_singleton.trans (fails wrong head)

/-- The character ahead behind white space leads nowhere. -/
theorem Awaits.stuck_blanks (awaits : Awaits before ahead (.blanks :: rest))
    (fails : ∀ wrong, (skipBlanks ahead).head? = some wrong → advance rest wrong = none) :
    Stuck before ahead := by
  have areBlank : ∀ point ∈ ahead.takeWhile CodePoint.isBlank, point.isBlank :=
    List.all_eq_true.mp List.all_takeWhile
  refine awaits.stuck_behind List.takeWhile_append_dropWhile.symm (.inl areBlank) ?_
  intro wrong head
  have visible := isBlank_of_head (skipBlanks_skipBlanks ahead) head
  rw [follow_append, follow_blanks areBlank, Option.bind_some, follow_singleton,
    advance_blanks visible]
  exact fails wrong head

end Places

section Cursors

variable {ν : Type} {laps : Nat} {resolve : ν → Behaviour} {cursor next : Cursor}
  {stack after rest : List Pending}

/-! ## Moving a cursor -/

/-- What is open at a cursor, as far as the character ahead can tell. -/
abbrev Cursor.Awaits (cursor : Cursor) (stack : List Pending) : Prop :=
  Document.Awaits cursor.before cursor.rest stack

/-- How one may go on at a cursor. -/
abbrev Cursor.Offers (cursor : Cursor) (stack : List Pending) : Prop :=
  Document.Offers cursor.before cursor.rest stack

/-- A product that is there, and a cursor at a depth where a stack is open. -/
abbrev Reaches (stack : List Pending) (depth : Int) : Text → Value → Cursor → Prop :=
  fun _ product next => product ≠ .none ∧ next.Awaits stack ∧ next.depth = depth

/-- An expectation that is not met leaves no way on. -/
abbrev Misses : Text → Cursor → ParseError → Prop := fun _ place error =>
  error.code = .expectationFailed → Stuck place.before place.rest

/-- Moving a cursor over a text … -/
theorem Awaits.move {consumed : Text} (awaits : cursor.Awaits stack)
    (passes : cursor.Passes consumed next) (follows : follow stack consumed = some after) :
    next.Awaits after := by
  rw [Cursor.Awaits, passes.before]
  exact awaits.pass passes.rest follows

/-- … or over one that is not empty, if less is known. -/
theorem Offers.move {consumed : Text} (offers : cursor.Offers stack)
    (passes : cursor.Passes consumed next) (present : consumed ≠ [])
    (follows : follow stack consumed = some after) : next.Awaits after := by
  rw [Cursor.Awaits, passes.before]
  exact offers.pass passes.rest present follows

/-- Moving over a structural character, behind which white space is open. -/
theorem Offers.cross {character : Char} {consumed : Text}
    (offers : cursor.Offers (.blanks :: stack))
    (passes : cursor.Passes consumed next) (crosses : cursor.Crosses character consumed next)
    (visible : (CodePoint.ofChar character).isBlank = false)
    (steps : advance stack (CodePoint.ofChar character) = some (.blanks :: after)) :
    next.Awaits (.blanks :: after) ∧ skipBlanks next.rest = next.rest := by
  obtain ⟨⟨margin, rfl⟩, tail, -, behind⟩ := crosses
  refine ⟨offers.move passes ?_ (follow_around visible steps margin), ?_⟩
  · simp [Margin.around]
  · rw [behind, skipBlanks_skipBlanks]

/-- A character that may come. -/
theorem reads_char_awaits {character : Char}
    (visible : (CodePoint.ofChar character).isBlank = false) (offers : cursor.Offers stack)
    (steps : advance stack (CodePoint.ofChar character) = some after) :
    cursor.Reads (fun _ _ next => next.Awaits after ∧ next.depth = cursor.depth)
      (cursor.rest.head? ≠ some (CodePoint.ofChar character)) noFailure
      ((char character : Rule ν).evaluate laps resolve cursor.state).reply := by
  obtain ⟨noReturn, noFeed⟩ := ne_break_of_visible visible
  refine ((takesOne_char noReturn noFeed cursor).weakenMatch ?_).weakenDecline ?_
  · rintro _ _ next passes ⟨point, same, rfl, -, depth⟩
    rw [eq_of_beq same] at passes
    exact ⟨offers.move passes (List.cons_ne_nil _ _) (follow_singleton.trans steps), depth⟩
  · intro lacks ahead
    simpa using lacks _ ahead

end Cursors

end Descent.Document
