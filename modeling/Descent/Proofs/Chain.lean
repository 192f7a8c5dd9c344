import Descent.Proofs.Budget
import Descent.Proofs.Sequencing

/-!
# Chains of matches

A repetition applies its rule where the match before has ended, for as long as the rule matches and
has moved on. `Chain` is this row of matches, and `Ends` is what comes of the lap behind it. Every
lap continues the chain or ends it, so what a repetition replies is read off the end of its chain,
and its events are those of its laps.
-/

namespace Descent

/-- Whether not moving on from the state can be reported: the place can be named, and a span can be
made, as the state has no location or does not stand before the start of the input. -/
def State.Reportable (state : State) : Prop :=
  state.writes state.pos ∧ (0 ≤ state.pos ∨ state.location = none)

/-- What stands in the way of a report: that no span starts before the input, or that the place
cannot even be named. -/
def State.silence (state : State) : Fault :=
  Fault.naming (.badSpan (.startNegative state.pos)) (state.writes state.pos)

/-- Not moving on is a failure, or a fault where its error cannot be made. -/
theorem Behaviour.reply_stall {α : Type} (state : State) :
    (stall state : Run α).reply = match stallError state with
      | .ok error => .failed error
      | .error fault => .raised fault := by
  simp only [stall, Run.after, fail]
  cases stallError state <;> rfl

/-- A row of matches, each of which has moved on and starts where the one before has ended. -/
inductive Chain (replies : State → Reply Value → Prop) : State → List Value → State → Prop where
  | nil (state : State) : Chain replies state [] state
  | cons {start next last : State} {product : Value} {products : List Value}
      (matched : replies start (.matched product next))
      (moved : next.samePosition start = false) (others : Chain replies next products last) :
      Chain replies start (product :: products) last

/-- How a repetition ends in front of a state: with a reply of its own where the rule declines, and
otherwise with that of the rule, or as one that does not move on. -/
inductive Ends (replies : State → Reply Value → Prop) (last : State) (done : Reply Value) :
    Reply Value → Prop where
  | declined (declines : replies last .declined) : Ends replies last done done
  | failed {error : ParseError} (fails : replies last (.failed error)) :
      Ends replies last done (.failed error)
  | raised {fault : Fault} (raises : replies last (.raised fault)) :
      Ends replies last done (.raised fault)
  | stalled {product : Value} {next : State} (matched : replies last (.matched product next))
      (inPlace : next.samePosition last) :
      Ends replies last done (Behaviour.stall last : Run Value).reply

variable {replies replies' : State → Reply Value → Prop} {start last next : State}
  {products : List Value} {done reply : Reply Value}

theorem Chain.mono (chain : Chain replies start products last)
    (weaker : ∀ state product next, replies state (.matched product next) →
      replies' state (.matched product next)) : Chain replies' start products last := by
  induction chain with
  | nil state => exact .nil state
  | cons matched moved _ inductionHypothesis =>
      exact .cons (weaker _ _ _ matched) moved inductionHypothesis

theorem Ends.mono (ends : Ends replies last done reply)
    (weaker : ∀ answer, answer ≠ .exhausted → replies last answer → replies' last answer) :
    Ends replies' last done reply := by
  cases ends with
  | declined declines => exact .declined (weaker _ nofun declines)
  | failed fails => exact .failed (weaker _ nofun fails)
  | raised raises => exact .raised (weaker _ nofun raises)
  | stalled matched inPlace => exact .stalled (weaker _ nofun matched) inPlace

/-- Every end is an answer. -/
theorem Ends.ne_exhausted (ends : Ends replies last done reply) (answer : done ≠ .exhausted) :
    reply ≠ .exhausted := by
  cases ends with
  | declined => exact answer
  | failed => nofun
  | raised => nofun
  | stalled =>
      rw [Behaviour.reply_stall]
      split <;> nofun

namespace Behaviour

variable {body : Behaviour} {limit : Nat}

/-- What a behaviour replies. -/
abbrev Replies (body : Behaviour) (state : State) (reply : Reply Value) : Prop :=
  (body state).reply = reply

/-- Nothing happens after it. -/
theorem stall_andThen {α β : Type} (state : State) (next : α → State → Run β) :
    ((stall state : Run α).andThen next).Same (stall state) := by
  simp only [stall, Run.after, fail]
  cases stallError state <;> exact .refl _

/-- The first lap of a repetition that moves on, seen from its verdict. -/
theorem reply_collect_cons {product : Value}
    (matched : body.Replies start (.matched product next))
    (moved : next.samePosition start = false) (verdict : List Value → State → Run Value) :
    ((collect body (limit + 1) start).andThen verdict).reply =
      ((collect body limit next).andThen fun products => verdict (product :: products)).reply := by
  rw [collect, Run.branch_of_matched matched, moved]
  exact (Run.after_andThen _ _ _).reply.trans (Run.map_andThen _ _ _).reply

/-- A repetition with as many laps as its chain has matches takes all of them. -/
theorem reply_of_chain (chain : Chain body.Replies start products last)
    (verdict : List Value → State → Run Value) :
    ((collect body products.length start).andThen verdict).reply =
      (verdict products last).reply := by
  induction chain generalizing verdict with
  | nil state => exact (Run.matched_andThen [] state verdict).reply
  | cons matched moved _ inductionHypothesis =>
      exact (reply_collect_cons matched moved verdict).trans (inductionHypothesis _)

/-- The lap at the end of a chain. -/
theorem reply_collect_ends (verdict : List Value → State → Run Value)
    (ends : Ends body.Replies last (verdict [] last).reply reply) :
    ((collect body (limit + 1) last).andThen verdict).reply = reply := by
  rw [collect]
  cases ends with
  | declined declines =>
      rw [Run.branch_of_declined declines]
      exact (Run.after_andThen _ _ _).reply.trans (Run.matched_andThen [] last verdict).reply
  | failed fails =>
      rw [Run.branch_of_failed fails]
      rfl
  | raised raises =>
      rw [Run.branch_of_raised raises]
      rfl
  | stalled matched inPlace =>
      rw [Run.branch_of_matched matched, if_pos inPlace]
      exact (Run.after_andThen _ _ _).reply.trans (stall_andThen last verdict).reply

/-- A repetition with more laps comes to the end of its chain. -/
theorem reply_of_ends (chain : Chain body.Replies start products last)
    (fewer : products.length < limit) (verdict : List Value → State → Run Value)
    (ends : Ends body.Replies last (verdict products last).reply reply) :
    ((collect body limit start).andThen verdict).reply = reply := by
  obtain ⟨further, rfl⟩ : ∃ further, limit = further + 1 := ⟨limit - 1, by omega⟩
  induction chain generalizing verdict further with
  | nil state => exact reply_collect_ends verdict ends
  | cons matched moved _ inductionHypothesis =>
      rw [List.length_cons] at fewer
      obtain ⟨fewer', rfl⟩ : ∃ laps, further = laps + 1 := ⟨further - 1, by omega⟩
      exact (reply_collect_cons matched moved verdict).trans
        (inductionHypothesis _ ends fewer' (by omega))

variable {state : State}

/-- The error says that there is no progress at the state. -/
theorem stallError_eq_ok {error : ParseError} (worded : stallError state = .ok error) :
    error.state = state ∧ error.code = .noProgress := by
  obtain ⟨-, span, -, rfl⟩ := ErrorAt.wording_eq_ok_iff.mp worded
  exact ⟨rfl, rfl⟩

/-- The error can be made where not moving on can be reported. -/
theorem exists_stallError_iff : (∃ error, stallError state = .ok error) ↔ state.Reportable := by
  simp only [stallError, ErrorAt.wording_eq_ok_iff, State.Reportable]
  constructor
  · rintro ⟨_, written, span, made, -⟩
    refine ⟨written, ?_⟩
    by_contra outside
    obtain ⟨before, located⟩ := not_or.mp outside
    obtain ⟨location, located⟩ := Option.ne_none_iff_exists'.mp located
    rw [State.span_of_neg (Int.not_le.mp before) located] at made
    cases made
  · rintro ⟨written, nonneg | unlocated⟩
    · obtain ⟨span, made⟩ := State.exists_span nonneg
      exact ⟨_, written, span, made, rfl⟩
    · exact ⟨_, written, none, by simp only [State.span, unlocated], rfl⟩

/-- Where it cannot be made, no span starts there, or the place cannot be named. -/
theorem stallError_of_not_reportable (silent : ¬ state.Reportable) :
    stallError state = .error state.silence := by
  cases worded : stallError state with
  | ok error => exact absurd (exists_stallError_iff.mp ⟨error, worded⟩) silent
  | error fault =>
      rcases ErrorAt.wording_eq_error_iff.mp worded with unspanned | ⟨unwritten, rfl, -⟩
      · cases located : state.location with
        | none =>
            simp only [State.span, located] at unspanned
            cases unspanned
        | some location =>
            have before : state.pos < 0 := by
              by_contra within
              obtain ⟨span, made⟩ := State.exists_span (Int.not_lt.mp within)
              cases made.symm.trans unspanned
            have refused := unspanned.symm.trans (State.span_of_neg before located)
            rw [Except.error.inj refused, State.silence]
      · rw [State.silence, unwritten]
        rfl

/-! ## Applications -/

/-- The events of a repetition: those of its rule at some states of the chain, of which there are no
more than a bound, and those of not moving on from the last of them, if it comes to that. -/
structure Applies (body : Behaviour) (start : State) (bound : Nat) (visited : List State)
    (events : List Entry) : Prop where
  few : visited.length ≤ bound
  chained : ∀ state ∈ visited, ∃ products, products.length < bound ∧
    Chain body.Replies start products state
  events : ∃ closing,
    events = visited.flatMap (fun state => (body state).journal.toList) ++ closing ∧
    (closing = [] ∨ ∃ state, visited.getLast? = some state ∧
      closing = (stall state : Run Value).journal.toList)

/-- A lap that moves on. -/
theorem Applies.cons {product : Value} {visited : List State} {events : List Entry}
    (matched : body.Replies start (.matched product next))
    (moved : next.samePosition start = false) (others : Applies body next limit visited events) :
    Applies body start (limit + 1) (start :: visited)
      ((body start).journal.toList ++ events) where
  few := by simpa using others.few
  chained := by
    refine List.forall_mem_cons.mpr ⟨⟨[], Nat.succ_pos limit, .nil start⟩, fun state mem => ?_⟩
    obtain ⟨products, fewer, chain⟩ := others.chained state mem
    exact ⟨product :: products, by simpa using fewer, .cons matched moved chain⟩
  events := by
    obtain ⟨closing, noted, closed⟩ := others.events
    refine ⟨closing, by simp [noted], closed.imp_right ?_⟩
    rintro ⟨state, isLast, stalled⟩
    exact ⟨state, by simp [List.getLast?_cons, isLast], stalled⟩

/-- What a number of matches makes of its laps. -/
def counted (count : Int) (products : List Value) (next : State) : Run Value :=
  if (products.length : Int) < count then .declined else .matched (.tuple products) next

/-- The elements of two tuples. -/
def joined : Value → Value → Value
  | .tuple first, .tuple second => .tuple (first ++ second)
  | first, _ => first

end Behaviour

end Descent
