import Descent.Proofs.Guarded
import Descent.Proofs.Materials
import Descent.Proofs.Relocation

/-!
# Rules only move forward

A rule leaves the tokens of its state alone and never moves back. It ends no further on than the end
of the sequence, or where it began if that was already beyond the end. An error stands in the same
range, provided that the factory that worded it puts it at the state it was given. Nothing is
assumed about the place where the rule begins: it may lie before the sequence or past its end.

The induction also keeps track of faults. A fault is that of a test, a transform or an updater, and
the journal shows the call, or it is one of those that a reader excuses: what a rule itself may meet
on its way from the start. A reader who excuses every fault is told nothing about them.
-/

namespace Descent

variable {ν : Type}

/-! ## States that are reached -/

/-- A state that a rule may come to: over the same tokens, no further back, and no further on than
the end unless the rule began there. -/
structure State.Reaches (state next : State) : Prop where
  tokens : next.tokens = state.tokens
  maxDigits : next.maxDigits = state.maxDigits
  forward : state.pos ≤ next.pos
  within : next.pos ≤ max state.pos state.tokens.size

/-- A text or a list that another one ends with. -/
inductive Value.IsEnding : Value → Value → Prop where
  | str {ending whole : Text} (suffix : ending <:+ whole) : IsEnding (.str ending) (.str whole)
  | list {ending whole : List Value} (suffix : ending <:+ whole) :
      IsEnding (.list ending) (.list whole)

/-- What is left from an offset on ends the sequence. -/
theorem Tokens.isEnding_dropTo {tokens : Tokens} {offset : Nat} (within : offset ≤ tokens.size) :
    (tokens.dropTo offset).toValue.IsEnding tokens.toValue := by
  have ends {α : Type} (values : Array α) :
      (values.extract offset values.size).toList <:+ values.toList := by
    have whole : (values.extract offset values.size).toList = values.toList.drop offset := by
      rw [Array.toList_extract, List.extract_eq_take_drop, List.take_of_length_le (by simp)]
    exact whole ▸ List.drop_suffix offset values.toList
  cases tokens with
  | text points =>
      rw [dropTo_text within]
      exact .str (ends points)
  | items values =>
      rw [dropTo_items within]
      exact .list (ends values)

namespace State.Reaches

variable {state middle next : State}

/-- Every state reaches itself. -/
theorem refl (state : State) : state.Reaches state :=
  ⟨rfl, rfl, Int.le_refl _, Int.le_max_left _ _⟩

/-- What is reached from a state that is reached is reached. -/
theorem trans (first : state.Reaches middle) (second : middle.Reaches next) :
    state.Reaches next where
  tokens := second.tokens.trans first.tokens
  maxDigits := second.maxDigits.trans first.maxDigits
  forward := Int.le_trans first.forward second.forward
  within := by
    have ofFirst := first.within
    have ofSecond := second.within
    rw [first.tokens] at ofSecond
    omega

/-- The context plays no part in it. -/
theorem withContext (reaches : state.Reaches next) (context : Value) :
    state.Reaches (next.withContext context) :=
  ⟨reaches.tokens, reaches.maxDigits, reaches.forward, reaches.within⟩

/-- Places that are reached can be named if the start can. -/
theorem writes (reaches : state.Reaches next) (nonneg : 0 ≤ state.pos)
    (named : state.writes state.pos) : next.writes next.pos := by
  have forward := reaches.forward
  have within := reaches.within
  by_cases stays : next.pos ≤ state.pos
  · rw [State.writes, reaches.tokens, reaches.maxDigits, Int.le_antisymm stays forward]
    exact named
  · rw [← reaches.tokens] at within
    exact writes_of_within (by omega) (by omega)

/-- A place inside the sequence leads to places inside the sequence. -/
theorem pos_le_size (reaches : state.Reaches next) (inside : state.pos ≤ state.tokens.size) :
    next.pos ≤ state.tokens.size := by
  have within := reaches.within
  omega

/-- What is left behind a rule ends what was left before it. -/
theorem isEnding_remainder (reaches : state.Reaches next) (nonneg : 0 ≤ state.pos)
    (inside : state.pos ≤ state.tokens.size) : next.remainder.IsEnding state.remainder := by
  obtain ⟨offset, offsetEq⟩ := Int.eq_ofNat_of_zero_le nonneg
  obtain ⟨index, indexEq⟩ := Int.le.dest reaches.forward
  have nextInside := reaches.pos_le_size inside
  have place : next.pos = ((offset + index : Nat) : Int) := by omega
  have within : offset + index ≤ state.tokens.size := by omega
  have left : index ≤ (state.tokens.dropTo offset).size := by
    rw [Tokens.size_dropTo (by omega)]
    omega
  rw [remainder, remainder, reaches.tokens, place, offsetEq, ← Tokens.dropTo_dropTo within]
  exact Tokens.isEnding_dropTo left

end State.Reaches

/-- Taking the next token. -/
theorem State.reaches_forward {state : State} (inside : state.atEnd = false) :
    state.Reaches (state.forward 1) := by
  obtain ⟨onward, -⟩ := State.onward_forward inside
  exact ⟨onward.tokens, onward.maxDigits, onward.forward, onward.within⟩

/-! ## Calls that fault -/

namespace Run

variable {α β : Type}

/-- A function of the grammar has faulted: a rule called it and replied with a fault, and nothing
but remarks of the function stands in between. -/
def CallFaulted (run : Run α) : Prop :=
  ∃ (callee : Callee) (remarks : List Remark) (fault : Fault),
    .called callee :: (remarks.map .remarked ++ [.replied (.raised fault)]) <:+:
      run.journal.toList

/-- The last thing that was noted is a call and what the function remarked. -/
def EndsInCall (run : Run α) : Prop :=
  ∃ (callee : Callee) (remarks : List Remark),
    .called callee :: remarks.map .remarked <:+ run.journal.toList

/-- A fault of the run is that of a call, whether or not the rule that made the call has replied. -/
def Blames (run : Run α) : Prop := run.CallFaulted ∨ run.EndsInCall

/-- Events in front do not matter. -/
theorem Blames.after {run : Run α} (blames : run.Blames) (events : Journal) :
    (run.after events).Blames := by
  have behind : run.journal.toList <:+ (run.after events).journal.toList := by
    simp [Run.after]
  rcases blames with ⟨callee, remarks, fault, inside⟩ | ⟨callee, remarks, last⟩
  · exact .inl ⟨callee, remarks, fault, inside.trans behind.isInfix⟩
  · exact .inr ⟨callee, remarks, last.trans behind⟩

/-- Remarks behind a call still belong to it. -/
theorem Blames.andRemark {run : Run α} (blames : run.Blames) (more : List Remark) :
    (run.andNote (.ofList (more.map .remarked))).Blames := by
  rcases blames with ⟨callee, remarks, fault, inside⟩ | ⟨callee, remarks, earlier, last⟩
  · refine .inl ⟨callee, remarks, fault, inside.trans ?_⟩
    simpa [Run.andNote] using (List.prefix_append _ _).isInfix
  · refine .inr ⟨callee, remarks ++ more, earlier, ?_⟩
    simp [Run.andNote, ← last]

/-- Once the rule has replied with the fault, the call has faulted. -/
theorem Blames.observe {run : Run Value} (blames : run.Blames) {fault : Fault}
    (raised : run.reply = .raised fault) (state : State) :
    (Behaviour.observe state run).CallFaulted := by
  rcases blames with ⟨callee, remarks, other, inside⟩ | ⟨callee, remarks, earlier, last⟩
  · refine ⟨callee, remarks, other, inside.trans ?_⟩
    simpa [Behaviour.observe, Run.after, Run.andNote] using
      List.infix_append [.applied state] run.journal.toList [.replied run.reply]
  · refine ⟨callee, remarks, fault, .applied state :: earlier, [], ?_⟩
    simp [Behaviour.observe, Run.after, Run.andNote, ← last, raised]

end Run

/-! ## Runs that proceed -/

/-- The state at which a reply stands: behind a match, or that of the error of a failure. -/
def Reply.state? {α : Type} : Reply α → Option State
  | .matched _ state => some state
  | .failed error => some error.state
  | .declined | .raised _ | .exhausted => none

/-- How a run from a state may end. The matches and failures stand at states that are reached, and a
fault is that of a call or an excused one. -/
inductive Run.Proceeds {α : Type} (excused : Fault → Prop) (state : State) (run : Run α) :
    Prop where
  | matched (product : α) (next : State) (reply : run.reply = .matched product next)
      (reaches : state.Reaches next)
  | declined (reply : run.reply = .declined)
  | failed (error : ParseError) (reply : run.reply = .failed error)
      (reaches : state.Reaches error.state)
  | raised (fault : Fault) (reply : run.reply = .raised fault) (blames : run.Blames ∨ excused fault)
  | exhausted (reply : run.reply = .exhausted)

namespace Run.Proceeds

variable {α β : Type} {excused : Fault → Prop} {state next : State} {run : Run α}

/-- A match in place. -/
theorem here (product : α) : (Run.matched product state).Proceeds excused state :=
  .matched product state rfl (.refl state)

/-- A run from a state that was reached. -/
theorem follow (proceeds : run.Proceeds excused next) (reached : state.Reaches next) :
    run.Proceeds excused state := by
  cases proceeds with
  | matched product last reply reaches => exact .matched product last reply (reached.trans reaches)
  | declined reply => exact .declined reply
  | failed error reply reaches => exact .failed error reply (reached.trans reaches)
  | raised fault reply blames => exact .raised fault reply blames
  | exhausted reply => exact .exhausted reply

/-- Events around a run change nothing, as long as they leave a blamed call visible. -/
theorem within {noted : Run α} (proceeds : run.Proceeds excused state)
    (sameReply : noted.reply = run.reply)
    (kept : ∀ fault, run.reply = .raised fault → run.Blames → noted.Blames) :
    noted.Proceeds excused state := by
  cases proceeds with
  | matched product last reply reaches =>
      exact .matched product last (sameReply.trans reply) reaches
  | declined reply => exact .declined (sameReply.trans reply)
  | failed error reply reaches => exact .failed error (sameReply.trans reply) reaches
  | raised fault reply blames =>
      exact .raised fault (sameReply.trans reply) (blames.imp_left (kept fault reply))
  | exhausted reply => exact .exhausted (sameReply.trans reply)

/-- Events before a run do not matter … -/
theorem after (proceeds : run.Proceeds excused state) (events : Journal) :
    (run.after events).Proceeds excused state :=
  proceeds.within rfl fun _ _ blames => blames.after events

/-- … and remarks behind it do not either. -/
theorem andRemark (proceeds : run.Proceeds excused state) (remarks : List Remark) :
    (run.andNote (.ofList (remarks.map .remarked))).Proceeds excused state :=
  proceeds.within rfl fun _ _ blames => blames.andRemark remarks

/-- Nor does it matter whether a run is observed. -/
theorem observe {run : Run Value} (proceeds : run.Proceeds excused state) :
    (Behaviour.observe state run).Proceeds excused state :=
  proceeds.within rfl fun _ raised blames => .inl (blames.observe raised state)

/-- Going on from a run. -/
theorem branch {onMatch : α → State → Run β} {onDecline : Unit → Run β}
    (proceeds : run.Proceeds excused state)
    (afterMatch : ∀ product next, run.reply = .matched product next → state.Reaches next →
      (onMatch product next).Proceeds excused state)
    (afterDecline : (onDecline ()).Proceeds excused state) :
    (run.branch onMatch onDecline).Proceeds excused state := by
  cases proceeds with
  | matched product next reply reaches =>
      rw [branch_of_matched reply]
      exact (afterMatch product next reply reaches).after run.journal
  | declined reply =>
      rw [branch_of_declined reply]
      exact afterDecline.after run.journal
  | failed error reply reaches =>
      rw [branch_of_failed reply]
      exact .failed error rfl reaches
  | raised fault reply blames =>
      rw [branch_of_raised reply]
      exact .raised fault rfl blames
  | exhausted reply =>
      rw [branch_of_exhausted reply]
      exact .exhausted rfl

/-- Going on after a match. -/
theorem andThen {onMatch : α → State → Run β} (proceeds : run.Proceeds excused state)
    (afterMatch : ∀ product next, state.Reaches next →
      (onMatch product next).Proceeds excused next) :
    (run.andThen onMatch).Proceeds excused state :=
  proceeds.branch (fun product next _ reaches => (afterMatch product next reaches).follow reaches)
    (.declined rfl)

/-- Going on after a decline. -/
theorem orElse {onDecline : Unit → Run α} (proceeds : run.Proceeds excused state)
    (afterDecline : (onDecline ()).Proceeds excused state) :
    (run.orElse onDecline).Proceeds excused state :=
  proceeds.branch (fun product next _ reaches => .matched product next rfl reaches) afterDecline

/-- Changing the product. -/
theorem map (change : α → β) (proceeds : run.Proceeds excused state) :
    (run.map change).Proceeds excused state :=
  proceeds.andThen fun product _ _ => .here (change product)

/-- A call of a function of the grammar. -/
theorem call (callee : Callee) (call : Call α) :
    (call.run callee state).Proceeds excused state := by
  cases outcome : call.outcome with
  | ok result => exact .matched result state (by simp [Call.run, outcome]) (.refl state)
  | error fault =>
      have last : (call.run callee state).EndsInCall := ⟨callee, call.remarks, by simp [Call.run]⟩
      exact .raised fault (by simp [Call.run, outcome]) (.inl (.inr last))

/-- A failure at the state, if what stands in the way of its error is excused. -/
theorem fail {origin : FailureOrigin} {error : ErrorAt}
    (located : ∀ failure, error state = .ok failure → failure.state = state)
    (worded : ∀ fault, error state = .error fault → excused fault) :
    (Behaviour.fail origin error state : Run α).Proceeds excused state := by
  unfold Behaviour.fail
  cases wording : error state with
  | ok failure => exact .failed failure rfl (located failure wording ▸ .refl state)
  | error fault => exact .raised fault rfl (.inr (worded fault wording))

/-- The state of a match or a failure is reached. -/
theorem reaches (proceeds : run.Proceeds excused state) (stands : next ∈ run.reply.state?) :
    state.Reaches next := by
  cases proceeds with
  | matched product last reply reaches =>
      rw [reply] at stands
      cases stands
      exact reaches
  | declined reply =>
      rw [reply] at stands
      cases stands
  | failed error reply reaches =>
      rw [reply] at stands
      cases stands
      exact reaches
  | raised fault reply blames =>
      rw [reply] at stands
      cases stands
  | exhausted reply =>
      rw [reply] at stands
      cases stands

end Run.Proceeds

/-- A call does not move. -/
theorem Call.state_of_run {α : Type} {callee : Callee} {state next : State} {call : Call α}
    {result : α} (reply : (call.run callee state).reply = .matched result next) : next = state := by
  cases outcome : call.outcome with
  | ok result =>
      simp only [Call.run, outcome] at reply
      cases reply
      rfl
  | error fault =>
      simp only [Call.run, outcome] at reply
      cases reply

/-! ## Error factories -/

namespace ErrorAt

/-- A factory whose errors stand at the state that it is given. -/
def Located (factory : ErrorAt) : Prop :=
  ∀ state error, factory state = .ok error → error.state = state

/-- A missing expectation is reported where it is missed … -/
theorem located_expecting (expectation : Text) : (expecting expectation).Located := by
  intro state error worded
  obtain ⟨span, rfl⟩ := expecting_eq_ok worded
  rfl

/-- … and a lap without progress where it was made. -/
theorem located_stallError : Located Behaviour.stallError :=
  fun _ _ worded => (Behaviour.stallError_eq_ok worded).1

end ErrorAt

/-! ## Behaviours -/

namespace Behaviour

variable {excused : Fault → Prop} {start : State} {body : Behaviour} {subrules : List Behaviour}

/-- A behaviour that proceeds from every state that is reached from the start. -/
def Proceeds (excused : Fault → Prop) (start : State) (body : Behaviour) : Prop :=
  ∀ ⦃state : State⦄, start.Reaches state → (body state).Proceeds excused state

/-- What keeps the next token from being read, at the states that are reached, is excused. -/
def CurrentExcused (excused : Fault → Prop) (start : State) : Prop :=
  ∀ ⦃state fault⦄, start.Reaches state → state.atEnd = false → state.current = .error fault →
    excused fault

/-- What keeps an error from being worded, at the states that are reached, is excused. -/
def WordingExcused (excused : Fault → Prop) (start : State) (error : ErrorAt) : Prop :=
  ∀ ⦃state fault⦄, start.Reaches state → error state = .error fault → excused fault

/-- One token. -/
theorem proceeds_term (current : CurrentExcused excused start) (test : Value → Call Bool) :
    Proceeds excused start (term test) := by
  intro state reached
  unfold term
  split
  · exact .declined rfl
  · next unended =>
      have inside : state.atEnd = false := Bool.eq_false_iff.mpr unended
      split
      · next fault missing => exact .raised fault rfl (.inr (current reached inside missing))
      · next token _ =>
          refine (Run.Proceeds.call .test (test token)).branch ?_ (.declined rfl)
          intro passes here reply _
          cases Call.state_of_run reply
          split
          · exact .matched token _ rfl (State.reaches_forward inside)
          · exact .declined rfl

/-- A transform changes the product alone. -/
theorem Proceeds.semantics (proceeds : Proceeds excused start body)
    (transform : Value → Call Value) : Proceeds excused start (semantics body transform) :=
  fun _ reached => (proceeds reached).andThen fun product _ _ =>
    .call .transform (transform product)

/-- What is excluded is only looked at. -/
theorem Proceeds.exclude (proceeds : Proceeds excused start body)
    (each : ∀ subtrahend ∈ subrules, Proceeds excused start subtrahend) :
    Proceeds excused start (exclude body subrules) := by
  induction subrules with
  | nil => exact proceeds
  | cons subtrahend rest inductionHypothesis =>
      intro state reached
      rw [Behaviour.exclude]
      apply (each subtrahend List.mem_cons_self reached).branch
      · intro product next _ _
        exact .declined rfl
      · exact inductionHypothesis
          (fun other member => each other (List.mem_cons_of_mem subtrahend member)) reached

/-- The parts of a sequence go forward one after the other. -/
theorem proceeds_parts (each : ∀ subrule ∈ subrules, Proceeds excused start subrule)
    {state : State} (reached : start.Reaches state) :
    (parts subrules state).Proceeds excused state := by
  induction subrules generalizing state with
  | nil => exact .here []
  | cons subrule rest inductionHypothesis =>
      apply (each subrule List.mem_cons_self reached).andThen
      intro product next reaches
      exact (inductionHypothesis
        (fun other member => each other (List.mem_cons_of_mem subrule member))
        (reached.trans reaches)).map _

/-- An alternative that matches goes forward. -/
theorem proceeds_choice (each : ∀ subrule ∈ subrules, Proceeds excused start subrule) :
    Proceeds excused start (choice subrules) := by
  induction subrules with
  | nil => exact fun _ _ => .declined rfl
  | cons subrule rest inductionHypothesis =>
      intro state reached
      exact (each subrule List.mem_cons_self reached).orElse
        (inductionHypothesis
          (fun other member => each other (List.mem_cons_of_mem subrule member)) reached)

/-- A repetition that does not move on. -/
theorem proceeds_stall {α : Type} (worded : WordingExcused excused start stallError) {state : State}
    (reached : start.Reaches state) : (stall state : Run α).Proceeds excused state :=
  (Run.Proceeds.fail (ErrorAt.located_stallError state) fun _ => worded reached).after _

/-- So does every lap of a repetition, and one without progress is excused. -/
theorem Proceeds.collect (proceeds : Proceeds excused start body)
    (worded : WordingExcused excused start stallError) (limit : Nat) {state : State}
    (reached : start.Reaches state) : (collect body limit state).Proceeds excused state := by
  induction limit generalizing state with
  | zero => exact .here []
  | succ limit inductionHypothesis =>
      apply (proceeds reached).branch
      · intro product next _ reaches
        split
        · exact proceeds_stall worded reached
        · exact ((inductionHypothesis (reached.trans reaches)).map _).follow reaches
      · exact .here []

/-- Laps, and a verdict on their products. -/
theorem Proceeds.repetition (proceeds : Proceeds excused start body)
    (worded : WordingExcused excused start stallError) (limit : Nat)
    {verdict : List Value → State → Run Value}
    (judged : ∀ products state, (verdict products state).Proceeds excused state) :
    Proceeds excused start fun state => (Behaviour.collect body limit state).andThen verdict :=
  fun _ reached => (proceeds.collect worded limit reached).andThen fun products next _ =>
    judged products next

/-- A repetition, from its laps. -/
theorem Proceeds.zeroOrMore (proceeds : Proceeds excused start body)
    (worded : WordingExcused excused start stallError) (laps : Nat) :
    Proceeds excused start (zeroOrMore laps body) := by
  apply proceeds.repetition worded laps
  intro products state
  split
  · exact .here _
  · exact .exhausted rfl

/-- So with laps of which there has to be one. -/
theorem Proceeds.oneOrMore (proceeds : Proceeds excused start body)
    (worded : WordingExcused excused start stallError) (laps : Nat) :
    Proceeds excused start (oneOrMore laps body) := by
  apply proceeds.repetition worded laps
  intro products state
  split
  · split
    · exact .declined rfl
    · exact .here _
  · exact .exhausted rfl

/-- So with a fixed number of laps. -/
theorem Proceeds.exactly (proceeds : Proceeds excused start body)
    (worded : WordingExcused excused start stallError) (count : Int) :
    Proceeds excused start (exactly count body) := by
  apply proceeds.repetition worded count.toNat
  intro products state
  split
  · exact .declined rfl
  · exact .here _

/-- A mandatory part fails where it is missed. -/
theorem Proceeds.failpoint (proceeds : Proceeds excused start body) {error : ErrorAt}
    (located : error.Located) (worded : WordingExcused excused start error) :
    Proceeds excused start (failpoint body error) :=
  fun state reached => (proceeds reached).orElse (.fail (located state) fun _ => worded reached)

/-- Updates leave the place as it is. -/
theorem proceeds_update (product : Value) (updaters : List Updater) (state : State) :
    (update product updaters state).Proceeds excused state := by
  induction updaters generalizing state with
  | nil => exact .here product
  | cons updater rest inductionHypothesis =>
      apply (Run.Proceeds.call .updater _).andThen
      intro context here _
      exact (inductionHypothesis (here.withContext context)).follow
        ((State.Reaches.refl here).withContext context)

/-- So they do behind a match. -/
theorem Proceeds.updating (proceeds : Proceeds excused start body) (updaters : List Updater) :
    Proceeds excused start (updating body updaters) :=
  fun _ reached => (proceeds reached).andThen fun product next _ =>
    proceeds_update product updaters next

/-- Watching a rule does not change what it does. -/
theorem Proceeds.watched (proceeds : Proceeds excused start body) (label : Value) :
    Proceeds excused start (watched label body) :=
  fun _ reached => ((proceeds reached).after _).andRemark _

end Behaviour

/-! ## Rules and grammars -/

/-- Materials of which rules that proceed are made: what may go wrong in the rules themselves, on
the way from the start, is excused. -/
structure Materials.Proceed (excused : Fault → Prop) (start : State) (materials : Materials ν) :
    Prop where
  located : ∀ error, materials.Errors error → error.Located
  current : Behaviour.CurrentExcused excused start
  stalled : Behaviour.WordingExcused excused start Behaviour.stallError
  worded : ∀ error, materials.Errors error → Behaviour.WordingExcused excused start error
  faults : materials.Faults → ∀ fault, excused fault

/-- A reader who excuses every fault asks only where the errors stand. -/
theorem Materials.Proceed.excused {start : State} {materials : Materials ν}
    (located : ∀ error, materials.Errors error → error.Located) :
    materials.Proceed (fun _ => True) start where
  located := located
  current _ _ _ _ _ := trivial
  stalled _ _ _ _ := trivial
  worded _ _ _ _ _ _ := trivial
  faults _ _ := trivial

section Rules

variable {excused : Fault → Prop} {start : State} {materials : Materials ν} {laps : Nat}
  {resolve : ν → Behaviour}

mutual

/-- A rule proceeds if it is made of materials that do. -/
theorem Rule.proceeds (proceed : materials.Proceed excused start)
    (named : ∀ name, materials.Names name → Behaviour.Proceeds excused start (resolve name)) :
    ∀ rule : Rule ν, rule.MadeOf materials →
      Behaviour.Proceeds excused start (rule.evaluate laps resolve)
  | .term test, _ => fun _ reached => (Behaviour.proceeds_term proceed.current test reached).observe
  | .empty, _ => fun _ _ => (Run.Proceeds.here Value.none).observe
  | .semantics subrule transform, made => fun _ reached =>
    ((Rule.proceeds proceed named subrule made).semantics transform reached).observe
  | .exclude subrule subtrahends, made => fun _ reached =>
    ((Rule.proceeds proceed named subrule made.1).exclude
      (Rule.allProceed proceed named subtrahends made.2) reached).observe
  | .sequence subrules, made => fun _ reached =>
    ((Behaviour.proceeds_parts (Rule.allProceed proceed named subrules made) reached).map _).observe
  | .choice subrules, made => fun _ reached =>
    (Behaviour.proceeds_choice (Rule.allProceed proceed named subrules made) reached).observe
  | .optional subrule default, made => fun _ reached =>
    ((Rule.proceeds proceed named subrule made reached).orElse (.here default)).observe
  | .zeroOrMore subrule, made => fun _ reached =>
    ((Rule.proceeds proceed named subrule made).zeroOrMore proceed.stalled laps reached).observe
  | .oneOrMore subrule, made => fun _ reached =>
    ((Rule.proceeds proceed named subrule made).oneOrMore proceed.stalled laps reached).observe
  | .exactly count subrule, made => fun _ reached =>
    ((Rule.proceeds proceed named subrule made).exactly proceed.stalled count reached).observe
  | .reference name, made => fun _ reached => (named name made reached).observe
  | .bind subrule continuation, made => fun _ reached =>
    ((Rule.proceeds proceed named subrule made.1 reached).andThen fun product _ reaches =>
      Rule.proceeds proceed named (continuation product) (made.2 product)
        (reached.trans reaches)).observe
  | .derivation steps closing, made => fun _ reached =>
    ((Steps.proceeds proceed named steps made reached).andRemark closing).observe
  | .failpoint subrule error, made => fun _ reached =>
    ((Rule.proceeds proceed named subrule made.1).failpoint (proceed.located error made.2)
      (proceed.worded error made.2) reached).observe
  | .escalate error, made => fun state reached =>
    (Run.Proceeds.fail (proceed.located error made state) fun _ =>
      proceed.worded error made reached).observe
  | .updating subrule updaters, made => fun _ reached =>
    ((Rule.proceeds proceed named subrule made).updating updaters reached).observe
  | .watched label subrule, made => fun _ reached =>
    ((Rule.proceeds proceed named subrule made).watched label reached).observe
  | .fault fault, made => fun _ _ =>
    Run.Proceeds.observe (.raised fault rfl (.inr (proceed.faults made fault)))

/-- Rules proceed if they are made of materials that do. -/
theorem Rule.allProceed (proceed : materials.Proceed excused start)
    (named : ∀ name, materials.Names name → Behaviour.Proceeds excused start (resolve name)) :
    ∀ rules : List (Rule ν), Rule.AllMadeOf materials rules →
      ∀ behaviour ∈ Rule.evaluateAll laps resolve rules, Behaviour.Proceeds excused start behaviour
  | [], _, _, member => absurd member List.not_mem_nil
  | first :: rest, made, behaviour, member => by
    rcases List.mem_cons.mp member with rfl | later
    · exact Rule.proceeds proceed named first made.1
    · exact Rule.allProceed proceed named rest made.2 behaviour later

/-- A derivation proceeds if it is made of materials that do. -/
theorem Steps.proceeds (proceed : materials.Proceed excused start)
    (named : ∀ name, materials.Names name → Behaviour.Proceeds excused start (resolve name)) :
    ∀ steps : Steps ν, steps.MadeOf materials →
      Behaviour.Proceeds excused start (steps.evaluate laps resolve)
  | .finish product, _ => fun _ _ => .here product
  | .apply rule next, made => fun _ reached =>
    (Rule.proceeds proceed named rule made.1 reached).andThen fun product _ reaches =>
      Steps.proceeds proceed named (next product) (made.2 product) (reached.trans reaches)
  | .getState next, made => fun state reached =>
    Steps.proceeds proceed named (next state) (made state) reached
  | .remark _ next, made => fun _ reached =>
    (Steps.proceeds proceed named next made reached).after _
  | .fault fault, made => fun _ _ =>
    .raised fault rfl (.inr (proceed.faults made fault))

end

/-- Rules of a grammar proceed, however deep its names are unfolded. A reader who does not excuse it
has to see that the names that are referred to are defined. -/
theorem Grammar.proceeds_evaluateWithin {grammar : Grammar ν}
    (proceed : materials.Proceed excused start)
    (made : ∀ name rule, grammar name = some rule → rule.MadeOf materials)
    (defined : ∀ name, materials.Names name → grammar name = none → excused .undefinedRule)
    (laps unfoldings : Nat) {root : Rule ν} (rootMade : root.MadeOf materials) :
    Behaviour.Proceeds excused start (grammar.evaluateWithin laps unfoldings root) := by
  induction unfoldings generalizing root with
  | zero =>
      apply Rule.proceeds proceed _ root rootMade
      intro name _ state _
      exact .exhausted rfl
  | succ unfoldings inductionHypothesis =>
      apply Rule.proceeds proceed _ root rootMade
      intro name used state reached
      cases found : grammar name with
      | none => exact .raised .undefinedRule rfl (.inr (defined name used found))
      | some rule => exact inductionHypothesis (made name rule found) reached

end Rules

/-- Any names and faults, and errors that stand where they arise. -/
def Materials.located : Materials ν where
  Names _ := True
  Errors := ErrorAt.Located
  Faults := True

/-- The errors of the rule stand where they arise. -/
abbrev Rule.Located (rule : Rule ν) : Prop := rule.MadeOf .located

/-- Wherever a rule begins, its match or its failure stands over the same tokens, no further back,
and no further on than the end of the sequence or the beginning of the rule. From a place inside the
sequence, what is left then ends what was left before. -/
theorem Grammar.evaluate_reaches {grammar : Grammar ν}
    (located : ∀ name rule, grammar name = some rule → rule.Located) (budget : Budget)
    {root : Rule ν} (rootLocated : root.Located) (state : State) :
    ∀ next ∈ (grammar.evaluate budget root state).reply.state?,
      state.Reaches next ∧
        (0 ≤ state.pos → state.pos ≤ state.tokens.size →
          next.remainder.IsEnding state.remainder) := by
  intro next stands
  have proceed : (Materials.located : Materials ν).Proceed (fun _ => True) state :=
    .excused fun _ located => located
  have proceeds : (grammar.evaluate budget root state).Proceeds (fun _ => True) state :=
    proceeds_evaluateWithin proceed located (fun _ _ _ => trivial) budget.laps budget.unfoldings
      rootLocated (.refl state)
  have reaches := proceeds.reaches stands
  exact ⟨reaches, reaches.isEnding_remainder⟩

/-- A sequence that begins before its tokens, where places are counted from the end: it reads the
last two tokens, comes to the first one and fails there. -/
theorem evaluate_reaches_before_start :
    let root : Rule Empty := .sequence
      [.literal (.str (text "b")), .literal (.str (text "c")),
        .failpoint (.literal (.str (text "x"))) (.expecting (text "x"))]
    let grammar : Grammar Empty := fun _ => none
    let state : State := { tokens := .ofText (text "abc"), pos := -2 }
    let reply := (grammar.evaluate ⟨0, 0⟩ root state).reply
    root.Located ∧ ∃ error, reply = .failed error ∧ error.state.pos = 0 ∧
      state.Reaches error.state := by
  intro root grammar state reply
  have located : root.Located :=
    ⟨trivial, trivial, ⟨trivial, ErrorAt.located_expecting (text "x")⟩, trivial⟩
  have reaches := grammar.evaluate_reaches (fun _ _ => nofun) ⟨0, 0⟩ located state
  exact ⟨located, _, rfl, rfl, (reaches _ rfl).1⟩

end Descent
