import Descent.Outcome
import Descent.Proofs.Consumption
import Descent.Proofs.Invariant

/-!
# What a run logs

Two things are logged in a run: a repetition that does not move on, and what came of the root rule.
The first is a warning, given before the repetition fails. A failure is never intercepted, however
deep the repetition lies in rules that would try something else, so the warning is the only one of
its run and the run fails for that reason. Conversely, the code of the failure is the repetition's
own as long as no factory of the grammar uses it.

So the records of a run are a function of its outcome, and of how many tokens there are.
-/

namespace Descent

variable {α β ν : Type}

/-! ## Records of a journal -/

/-- What is logged, if the event is that something is. -/
def Entry.record? : Entry → Option LogRecord
  | .logged record => some record
  | _ => none

namespace Journal

/-- The records of a journal are those of its entries. -/
theorem records_eq (journal : Journal) : journal.records = journal.toList.filterMap Entry.record? :=
  rfl

@[simp] theorem records_entry (event : Entry) : (entry event).records = event.record?.toList := by
  cases event <;> rfl

@[simp] theorem records_append (first second : Journal) :
    (first ++ second).records = first.records ++ second.records := by
  rw [records_eq, toList_append, List.filterMap_append]
  rfl

@[simp] theorem records_remarked (remarks : List Remark) :
    (ofList (remarks.map .remarked)).records = [] := by
  rw [records_eq, toList_ofList, List.filterMap_map, List.filterMap_eq_nil_iff]
  intro remark _
  rfl

end Journal

/-! ## Runs that log -/

/-- What a run logs, unless it faults: nothing, or that a repetition did not move on. It fails then,
where the repetition stood, and with the code that no other failure has. -/
inductive Run.Logs (run : Run α) : Prop where
  | quiet (unstalled : ∀ error, run.reply = .failed error → error.code ≠ .noProgress)
      (none : run.journal.records = [])
  | stalled (error : ParseError) (reply : run.reply = .failed error)
      (code : error.code = .noProgress) (only : run.journal.records = [.stalled error.state.pos])
  | raised (fault : Fault) (reply : run.reply = .raised fault)

namespace Run.Logs

variable {run longer : Run α}

/-- Events around a run of which none is logged. -/
theorem within (logs : run.Logs) (sameReply : longer.reply = run.reply)
    (sameRecords : longer.journal.records = run.journal.records) : longer.Logs := by
  cases logs with
  | quiet unstalled none =>
      refine .quiet ?_ (sameRecords.trans none)
      rw [sameReply]
      exact unstalled
  | stalled error reply code only =>
      exact .stalled error (sameReply.trans reply) code (sameRecords.trans only)
  | raised fault reply => exact .raised fault (sameReply.trans reply)

/-- Going on from a run. After a warning there is nothing to go on from. -/
theorem branch (logs : run.Logs) {onMatch : α → State → Run β} {onDecline : Unit → Run β}
    (afterMatch : ∀ product next, run.reply = .matched product next → (onMatch product next).Logs)
    (afterDecline : run.reply = .declined → (onDecline ()).Logs) :
    (run.branch onMatch onDecline).Logs := by
  cases logs with
  | quiet unstalled none =>
      cases reply : run.reply with
      | matched product next =>
          rw [branch_of_matched reply]
          exact (afterMatch product next reply).within rfl (by simp [Run.after, none])
      | declined =>
          rw [branch_of_declined reply]
          exact (afterDecline reply).within rfl (by simp [Run.after, none])
      | failed error =>
          rw [branch_of_failed reply]
          refine .quiet ?_ none
          rintro _ ⟨⟩
          exact unstalled error reply
      | raised fault =>
          rw [branch_of_raised reply]
          exact .raised fault rfl
      | exhausted =>
          rw [branch_of_exhausted reply]
          refine .quiet ?_ none
          rintro _ ⟨⟩
  | stalled error reply code only =>
      rw [branch_of_failed reply]
      exact .stalled error rfl code only
  | raised fault reply =>
      rw [branch_of_raised reply]
      exact .raised fault rfl

end Run.Logs

/-! ## Failures -/

/-- A factory whose errors do not have the code of a repetition that does not move on. -/
def ErrorAt.Unstalled (factory : ErrorAt) : Prop :=
  ∀ state error, factory state = .ok error → error.code ≠ .noProgress

/-- A missing expectation is no lap without progress. -/
theorem ErrorAt.unstalled_expecting (expectation : Text) : (expecting expectation).Unstalled := by
  intro state error worded
  obtain ⟨span, rfl⟩ := expecting_eq_ok worded
  exact nofun

namespace Behaviour

/-- A failure that a factory of the grammar words is not logged. -/
theorem logs_fail {factory : ErrorAt} (unstalled : factory.Unstalled) (origin : FailureOrigin)
    (state : State) : (fail origin factory state : Run α).Logs := by
  unfold fail
  split
  · next error worded =>
      refine .quiet ?_ rfl
      rintro _ ⟨⟩
      exact unstalled state error worded
  · next fault _ => exact .raised fault rfl

/-- A repetition that does not move on is logged where it stands. -/
theorem logs_stall (state : State) : (stall state : Run α).Logs := by
  unfold stall fail
  split
  · next error worded =>
      obtain ⟨rfl, code⟩ := stallError_eq_ok worded
      exact .stalled error rfl code rfl
  · next fault _ => exact .raised fault rfl

end Behaviour

/-- A call of a function of the grammar is not logged. -/
theorem Call.logs_run (callee : Callee) (state : State) (call : Call α) :
    (call.run callee state).Logs := by
  refine .quiet ?_ (by simp [Call.run, Entry.record?])
  intro error replied
  cases outcome : call.outcome <;> simp [Call.run, outcome] at replied

/-- Every combinator hands on what is logged together with the failure that it announces. -/
theorem logs_kept {errors : ErrorAt → Prop} (unstalled : ∀ error, errors error → error.Unstalled) :
    RunProperty.KeptBy (fun _ _ run => run.Logs) errors where
  matched _ _ := .quiet nofun rfl
  forward _ _ _ := .quiet nofun rfl
  declined _ := .quiet nofun rfl
  raised fault _ := .raised fault rfl
  exhausted _ := .quiet nofun rfl
  call callee state call := call.logs_run callee state
  fail origin error worded state := Behaviour.logs_fail (unstalled error worded) origin state
  stall state := Behaviour.logs_stall state
  branch first afterMatch afterDecline := first.branch afterMatch afterDecline
  follow _ _ second := second
  context moved := moved
  observe first :=
    first.within rfl (by simp [Behaviour.observe, Run.after, Run.andNote, Entry.record?])
  remarkBefore remark first := first.within rfl (by simp [Run.after, Entry.record?])
  remarkAfter remarks first := first.within rfl (by simp [Run.andNote])

/-! ## Records of an outcome -/

namespace Outcome

/-- The record that says how a run over the tokens ended. -/
def announcement (tokens : Tokens) : Outcome → LogRecord
  | success _ => .rootMatchedAll tokens.size
  | invalid state => .rootDeclined state.pos
  | leftover _ state => .rootMatchedPrefix state.pos tokens.size
  | escalated error => .rootEscalated error.format

/-- The warning of a run in which a repetition did not move on. -/
def warning? : Outcome → Option LogRecord
  | escalated error =>
    if error.code = .noProgress then some (.stalled error.state.pos) else none
  | success _ | invalid _ | leftover _ _ => none

variable {tokens : Tokens} {initial : State} {reply : Reply Value} {outcome : Outcome}

/-- Every outcome is announced on the channel for outcomes … -/
theorem channel_announcement (outcome : Outcome) :
    (outcome.announcement tokens).channel = .outcome := by
  cases outcome <;> rfl

/-- … and at the level for debugging. -/
theorem level_announcement (outcome : Outcome) : (outcome.announcement tokens).level = .debug := by
  cases outcome <;> rfl

/-- A warning is given exactly if the code of the error asks for it, and names the place of the
error. -/
theorem warning?_eq_some_iff {record : LogRecord} :
    outcome.warning? = some record ↔
      ∃ error, outcome = .escalated error ∧ error.code = .noProgress ∧
        record = .stalled error.state.pos := by
  cases outcome with
  | escalated error =>
      rw [warning?, Option.ite_none_right_eq_some, Option.some.injEq]
      constructor
      · rintro ⟨code, rfl⟩
        exact ⟨error, rfl, code, rfl⟩
      · rintro ⟨_, ⟨⟩, code, rfl⟩
        exact ⟨code, rfl⟩
  | success _ | invalid _ | leftover _ _ =>
      constructor
      · exact nofun
      · rintro ⟨_, ⟨⟩, -⟩

/-- A warning is given by a repetition. -/
theorem channel_warning {record : LogRecord} (warned : outcome.warning? = some record) :
    record.channel = .repetition ∧ record.level = .warning := by
  obtain ⟨error, -, -, rfl⟩ := warning?_eq_some_iff.mp warned
  exact ⟨rfl, rfl⟩

/-- The outcome of a reply is announced, if a match is over the tokens of the beginning. -/
theorem record?_of_classify (classified : classify initial reply = .ok outcome)
    (kept : ∀ product final, reply = .matched product final → final.tokens = initial.tokens) :
    record? initial reply = some (outcome.announcement initial.tokens) := by
  cases reply with
  | matched product final =>
      have tokens := kept product final rfl
      cases classified
      rw [record?]
      split <;> rw [announcement, tokens]
  | declined =>
      cases classified
      rfl
  | failed error =>
      simp only [classify] at classified
      split at classified
      · next named =>
          cases classified
          exact if_pos named
      · cases classified
  | raised fault | exhausted => cases classified

/-- A run that logs, and has an outcome, logs the warning of the outcome. -/
theorem records_of_classify {run : Run Value} (logs : run.Logs)
    (classified : classify initial run.reply = .ok outcome) :
    run.journal.records = outcome.warning?.toList := by
  cases logs with
  | quiet unstalled none =>
      have unwarned : outcome.warning? = Option.none := by
        rw [Option.eq_none_iff_forall_ne_some]
        intro record warned
        obtain ⟨error, rfl, code, -⟩ := warning?_eq_some_iff.mp warned
        exact unstalled error (reply_of_classify classified) code
      rw [none, unwarned, Option.toList_none]
  | stalled error reply code only =>
      rw [reply, classify] at classified
      split at classified
      · cases classified
        rw [only, warning?, if_pos code, Option.toList_some]
      · cases classified
  | raised fault reply =>
      rw [reply] at classified
      cases classified

end Outcome

/-- The records of a report are those of its run, and what is logged about the reply. -/
theorem Report.records_of (behaviour : Behaviour) (initial : State) :
    (Report.of behaviour initial).journal.records =
      (behaviour initial).journal.records ++
        (Outcome.record? initial (behaviour initial).reply).toList := by
  rw [Report.of, Journal.records_append]
  cases Outcome.record? initial (behaviour initial).reply <;> rfl

/-! ## Rules and grammars -/

/-- Any names and faults, and errors that are worded by what is expected. -/
def Materials.expecting : Materials ν where
  Names _ := True
  Errors error := ∃ expectation, error = .expecting expectation
  Faults := True

/-- Expectations are reported where they are missed … -/
theorem Materials.located_expecting :
    ∀ error, (expecting : Materials ν).Errors error → error.Located := by
  rintro _ ⟨expectation, rfl⟩
  exact ErrorAt.located_expecting expectation

/-- … and none of them is a lap without progress. -/
theorem Materials.unstalled_expecting :
    ∀ error, (expecting : Materials ν).Errors error → error.Unstalled := by
  rintro _ ⟨expectation, rfl⟩
  exact ErrorAt.unstalled_expecting expectation

namespace Grammar

variable {grammar : Grammar ν} {root : Rule ν} {state : State} {outcome : Outcome}

/-- The records of a run are those of its outcome. -/
theorem records_of_outcome
    (worded : ∀ name rule, grammar name = some rule → rule.MadeOf .expecting)
    (rootWorded : root.MadeOf .expecting) (budget : Budget)
    (reported : (Report.of (grammar.evaluate budget root) state).outcome = .ok outcome) :
    (Report.of (grammar.evaluate budget root) state).journal.records =
      outcome.warning?.toList ++ [outcome.announcement state.tokens] := by
  have logs : (grammar.evaluate budget root state).Logs :=
    (logs_kept Materials.unstalled_expecting).grammar worded budget rootWorded state
  have proceed : (Materials.expecting : Materials ν).Proceed (fun _ => True) state :=
    .excused Materials.located_expecting
  have proceeds : (grammar.evaluate budget root state).Proceeds (fun _ => True) state :=
    proceeds_evaluateWithin proceed worded (fun _ _ _ => trivial) budget.laps budget.unfoldings
      rootWorded (.refl state)
  have overTokens : ∀ product final, (grammar.evaluate budget root state).reply =
      .matched product final → final.tokens = state.tokens := by
    intro product final matched
    have stands : final ∈ (grammar.evaluate budget root state).reply.state? := by
      rw [matched]
      rfl
    exact (proceeds.reaches stands).tokens
  rw [Report.records_of, Outcome.records_of_classify logs reported,
    Outcome.record?_of_classify reported overTokens, Option.toList_some]

/-- A run of a rule whose errors say what is expected, if it has an outcome. One record announces
the outcome, and it is the last. The others are warnings of repetitions: there is one exactly if the
run failed because a repetition did not move on, it names the place of the error, and there are no
more. -/
theorem records_report
    (worded : ∀ name rule, grammar name = some rule → rule.MadeOf .expecting)
    (rootWorded : root.MadeOf .expecting) (budget : Budget)
    (reported : (Report.of (grammar.evaluate budget root) state).outcome = .ok outcome) :
    let records := (Report.of (grammar.evaluate budget root) state).journal.records
    let announcements := records.filter fun record =>
      record.channel = .outcome ∧ record.level = .debug
    let warnings := records.filter fun record =>
      record.channel = .repetition ∧ record.level = .warning
    (announcements = [outcome.announcement state.tokens] ∧
        records.getLast? = some (outcome.announcement state.tokens)) ∧
      (warnings.length ≤ 1 ∧
        ∀ warning, warning ∈ warnings ↔
          ∃ error, outcome = .escalated error ∧ error.code = .noProgress ∧
            warning = .stalled error.state.pos) ∧
      records = warnings ++ announcements := by
  intro records announcements warnings
  have recordsEq : records = outcome.warning?.toList ++ [outcome.announcement state.tokens] :=
    records_of_outcome worded rootWorded budget reported
  have announcementsEq : announcements = [outcome.announcement state.tokens] := by
    have undebugged : ∀ record, outcome.warning? = some record → record.level ≠ .debug := by
      intro record warned
      rw [(Outcome.channel_warning warned).2]
      exact nofun
    simpa [announcements, recordsEq, Outcome.channel_announcement, Outcome.level_announcement]
      using fun record warned _ => undebugged record warned
  have warningsEq : warnings = outcome.warning?.toList := by
    simpa [warnings, recordsEq, Outcome.channel_announcement]
      using fun record => Outcome.channel_warning
  refine ⟨⟨announcementsEq, ?_⟩, ⟨?_, ?_⟩, ?_⟩
  · rw [recordsEq, List.getLast?_concat]
  · rw [warningsEq]
    exact Option.length_toList_le
  · intro warning
    rw [warningsEq, Option.mem_toList, Outcome.warning?_eq_some_iff]
  · rw [warningsEq, announcementsEq, recordsEq]

/-- A repetition behind a letter, in a rule that would try something else: behind the second letter
it does not move on, which is said once and ends the run. -/
theorem records_report_stalled :
    let blanks : Rule Unit := .zeroOrMore (.optional (.literal (.str (text "b"))) .none)
    let root : Rule Unit := .choice
      [.sequence [.literal (.str (text "a")), .reference ()], .oneOrMore .anything]
    let grammar : Grammar Unit := fun _ => some blanks
    let report := Report.of (grammar.evaluate ⟨1, 4⟩ root) (.forText (.ofText (text "abc")))
    ∃ error, report.outcome = .ok (.escalated error) ∧ error.code = .noProgress ∧
      report.journal.records = [.stalled 2, .rootEscalated error.format] := by
  intro blanks root grammar report
  have worded : ∀ name rule, grammar name = some rule → rule.MadeOf .expecting := by
    rintro _ _ ⟨⟩
    trivial
  have rootWorded : root.MadeOf .expecting := ⟨⟨trivial, trivial, trivial⟩, trivial, trivial⟩
  obtain ⟨error, reported, code, place⟩ : ∃ error, report.outcome = .ok (.escalated error) ∧
      error.code = .noProgress ∧ error.state.pos = 2 := ⟨_, rfl, rfl, rfl⟩
  obtain ⟨⟨announced, -⟩, ⟨few, warned⟩, together⟩ :=
    records_report worded rootWorded ⟨1, 4⟩ reported
  have stalled := (warned (.stalled 2)).mpr ⟨error, rfl, code, by rw [place]⟩
  obtain ⟨warning, only⟩ :=
    List.length_eq_one_iff.mp (Nat.le_antisymm few (List.length_pos_of_mem stalled))
  rw [only, List.mem_singleton] at stalled
  refine ⟨error, reported, code, ?_⟩
  rw [together, only, announced, ← stalled]
  rfl

end Grammar

end Descent
