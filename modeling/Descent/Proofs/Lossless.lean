import Descent.Value.Flatten
import Descent.Proofs.Consumption

/-!
# Products keep what was consumed

A rule is syntactic if it neither changes products nor chooses by them. Its product is a tree over
the tokens that it took: the leaves of the tree, from left to right, are those tokens, none of them
lost, doubled or out of order. Alternatives that were given up leave nothing behind, since they only
count by their declines, and neither do subtrahends.

Tokens that are themselves trees would be taken apart with the product, so they are left out.
-/

namespace Descent

/-! ## Tokens and places -/

/-- A value that is a leaf of a product, and not absent or a tree itself. -/
def Value.IsLeaf : Value → Prop
  | .none | .tuple _ | .list _ => False
  | .bool _ | .int _ | .float _ | .str _ | .mapping _ | .record _ _ => True

/-- A leaf is all that is left of it. -/
theorem Value.IsLeaf.flatten {value : Value} (leaf : value.IsLeaf) : value.flatten = [value] := by
  cases value with
  | none | tuple items | list items => exact absurd leaf id
  | bool | int | float | str | mapping | record => rfl

namespace Tokens

/-- There are as many tokens as the size says … -/
theorem length_toList (tokens : Tokens) : tokens.toList.length = tokens.size := by
  cases tokens <;> simp [toList, size]

/-- … and each stands where it is looked up. -/
theorem getElem?_toList (tokens : Tokens) (index : Nat) :
    tokens.toList[index]? = tokens.get? index := by
  cases tokens <;> simp [toList, get?]

/-- The characters of a text are leaves. -/
theorem isLeaf_ofText (points : Text) : ∀ token ∈ (ofText points).toList, token.IsLeaf := by
  intro token member
  simp only [ofText, toList, List.mem_map] at member
  obtain ⟨point, -, rfl⟩ := member
  trivial

/-- A slice between two places of the sequence. -/
theorem toList_slice {tokens : Tokens} {start stop : Nat} (ordered : start ≤ stop)
    (within : stop ≤ tokens.size) :
    (tokens.slice start stop).toList = (tokens.toList.drop start).take (stop - start) := by
  have startWithin : start ≤ tokens.size := Nat.le_trans ordered within
  cases tokens with
  | text points =>
      rw [size] at within startWithin
      rw [slice, clampIndex_natCast startWithin, clampIndex_natCast within]
      simp only [toList, Array.toList_extract, List.extract_eq_take_drop, List.map_take,
        List.map_drop]
  | items values =>
      rw [size] at within startWithin
      rw [slice, clampIndex_natCast startWithin, clampIndex_natCast within]
      simp only [toList, Array.toList_extract, List.extract_eq_take_drop]

end Tokens

/-- From a state, exactly the tokens `taken` lead to another one. -/
structure State.Consumes (state : State) (taken : List Value) (next : State) : Prop where
  tokens : next.tokens = state.tokens
  pos : next.pos = state.pos + taken.length
  ahead : state.tokens.toList.drop state.pos.toNat =
    taken ++ state.tokens.toList.drop next.pos.toNat

/-- A state at or behind the start of tokens that are leaves. -/
structure State.OverLeaves (state : State) : Prop where
  nonneg : 0 ≤ state.pos
  leaves : ∀ token ∈ state.tokens.toList, token.IsLeaf

namespace State.Consumes

variable {state middle next : State} {first second taken : List Value}

/-- Nothing is consumed by staying. -/
theorem refl (state : State) : state.Consumes [] state :=
  ⟨rfl, (Int.add_zero _).symm, rfl⟩

/-- What two moves in a row consume is consumed by both. -/
theorem trans (earlier : state.Consumes first middle) (later : middle.Consumes second next) :
    state.Consumes (first ++ second) next where
  tokens := later.tokens.trans earlier.tokens
  pos := by
    rw [later.pos, earlier.pos, List.length_append, Int.natCast_add, Int.add_assoc]
  ahead := by
    have ahead := later.ahead
    rw [earlier.tokens] at ahead
    rw [earlier.ahead, ahead, List.append_assoc]

/-- The context plays no part in what is consumed. -/
theorem withContext (consumes : state.Consumes taken next) (context : Value) :
    state.Consumes taken (next.withContext context) :=
  ⟨consumes.tokens, consumes.pos, consumes.ahead⟩

/-- The tokens stay the same. -/
theorem overLeaves (consumes : state.Consumes taken next) (leafy : state.OverLeaves) :
    next.OverLeaves where
  nonneg := by
    rw [consumes.pos]
    exact Int.add_nonneg leafy.nonneg (Int.natCast_nonneg _)
  leaves := consumes.tokens ▸ leafy.leaves

/-- What was taken is the slice between the two places. -/
theorem toList_slice (consumes : state.Consumes taken next) (nonneg : 0 ≤ state.pos)
    (inside : state.pos ≤ state.tokens.size) :
    (state.tokens.slice state.pos next.pos).toList = taken := by
  obtain ⟨start, startEq⟩ := Int.eq_ofNat_of_zero_le nonneg
  have stopEq : next.pos = ((start + taken.length : Nat) : Int) := by
    rw [consumes.pos, startEq, Int.natCast_add]
  have ahead := consumes.ahead
  have within : start + taken.length ≤ state.tokens.size := by
    have lengths := congrArg List.length ahead
    simp only [List.length_drop, List.length_append, Tokens.length_toList] at lengths
    omega
  rw [startEq, Int.toNat_natCast] at ahead
  rw [startEq, stopEq, Tokens.toList_slice (Nat.le_add_right _ _) within, ahead,
    Nat.add_sub_cancel_left, List.take_left]

end State.Consumes

/-- Taking the next token. -/
theorem State.consumes_forward {state : State} {token : Value} (nonneg : 0 ≤ state.pos)
    (inside : state.atEnd = false) (current : state.current = .ok token) :
    state.Consumes [token] (state.forward 1) := by
  obtain ⟨index, indexEq⟩ := Int.eq_ofNat_of_zero_le nonneg
  have within : index < state.tokens.size := by
    simp only [atEnd, decide_eq_false_iff_not] at inside
    omega
  have stop : (state.forward 1).pos = ((index + 1 : Nat) : Int) := by
    simp only [forward]
    omega
  have found : state.tokens.toList[index]? = some token := by
    have notBefore : ¬ (index : Int) < 0 := Int.not_lt.mpr (Int.natCast_nonneg index)
    simp only [State.current, inside, Bool.false_eq_true, Tokens.fetch, indexEq, if_neg notBefore,
      if_false, Int.toNat_natCast] at current
    rw [Tokens.getElem?_toList]
    cases held : state.tokens.get? index with
    | none => simp only [held, reduceCtorEq] at current
    | some other =>
        simp only [held, Except.ok.injEq] at current
        rw [current]
  refine ⟨rfl, ?_, ?_⟩
  · rw [stop, indexEq]
    rfl
  · obtain ⟨bound, elem⟩ := List.getElem?_eq_some_iff.mp found
    rw [stop, indexEq, Int.toNat_natCast, Int.toNat_natCast, List.drop_eq_getElem_cons bound, elem]
    rfl

/-! ## Runs and behaviours -/

namespace Run

variable {α β : Type}

/-- A run that, if it matches, has taken exactly the leaves of its product. -/
def Lossless (leaves : α → List Value) (state : State) (run : Run α) : Prop :=
  ∀ product next, run.reply = .matched product next → state.Consumes (leaves product) next

variable {leaves : α → List Value} {leaves' : β → List Value} {state next : State} {run : Run α}

/-- A run that does not match. -/
theorem lossless_of_ne (unmatched : ∀ product next, run.reply ≠ .matched product next) :
    run.Lossless leaves state :=
  fun product next reply => absurd reply (unmatched product next)

/-- A match in place without leaves. -/
theorem lossless_here {product : α} (leafless : leaves product = []) :
    (Run.matched product state).Lossless leaves state := by
  rintro _ _ ⟨⟩
  exact leafless ▸ .refl state

/-- Going on from a run. -/
theorem Lossless.branch {onMatch : α → State → Run β} {onDecline : Unit → Run β}
    (lossless : run.Lossless leaves state)
    (afterMatch : ∀ product next, state.Consumes (leaves product) next →
      (onMatch product next).Lossless leaves' state)
    (afterDecline : (onDecline ()).Lossless leaves' state) :
    (run.branch onMatch onDecline).Lossless leaves' state := by
  intro product last replied
  rcases matched_of_branch replied with ⟨first, next, reply, onward⟩ | ⟨-, onward⟩
  · exact afterMatch first next (lossless first next reply) product last onward
  · exact afterDecline product last onward

/-- Going on after a match. -/
theorem Lossless.andThen {onMatch : α → State → Run β} (lossless : run.Lossless leaves state)
    (afterMatch : ∀ product next, state.Consumes (leaves product) next →
      (onMatch product next).Lossless leaves' state) :
    (run.andThen onMatch).Lossless leaves' state :=
  lossless.branch afterMatch (lossless_of_ne nofun)

/-- Going on after a decline. -/
theorem Lossless.orElse {onDecline : Unit → Run α} (lossless : run.Lossless leaves state)
    (afterDecline : (onDecline ()).Lossless leaves state) :
    (run.orElse onDecline).Lossless leaves state := by
  refine lossless.branch ?_ afterDecline
  rintro product next consumes _ _ ⟨⟩
  exact consumes

/-- A product in front of those that follow it. -/
theorem Lossless.cons {run : Run (List Value)} {product : Value}
    (lossless : run.Lossless Value.flattenAll next)
    (consumes : state.Consumes product.flatten next) :
    (run.map (product :: ·)).Lossless Value.flattenAll state := by
  intro products last replied
  obtain ⟨others, reply, rfl⟩ := matched_of_map replied
  exact consumes.trans (lossless others last reply)

end Run

namespace Behaviour

variable {body : Behaviour} {subrules : List Behaviour}

/-- A behaviour whose products have exactly the tokens that were taken for their leaves. -/
def Lossless (body : Behaviour) : Prop :=
  ∀ ⦃state : State⦄, state.OverLeaves → (body state).Lossless Value.flatten state

/-- A token that passes the test is the product. -/
theorem lossless_term (test : Value → Call Bool) : Lossless (term test) := by
  intro state leafy
  unfold term
  split
  · exact Run.lossless_of_ne nofun
  · next unended =>
      have inside : state.atEnd = false := Bool.eq_false_iff.mpr unended
      split
      · exact Run.lossless_of_ne nofun
      · next token current =>
          intro product next replied
          rcases Run.matched_of_branch replied with ⟨passes, here, called, taken⟩ | ⟨-, declined⟩
          · cases Call.state_of_run called
            split at taken
            · cases taken
              have consumes := State.consumes_forward leafy.nonneg inside current
              have leaf := leafy.leaves token ?_
              · rw [leaf.flatten]
                exact consumes
              · have member : token ∈ state.tokens.toList.drop state.pos.toNat := by
                  rw [consumes.ahead]
                  exact List.mem_cons_self
                exact List.mem_of_mem_drop member
            · cases taken
          · cases declined

/-- What is excluded is only looked at. -/
theorem Lossless.exclude (lossless : Lossless body) (subtrahends : List Behaviour) :
    Lossless (exclude body subtrahends) := by
  induction subtrahends with
  | nil => exact lossless
  | cons subtrahend rest inductionHypothesis =>
      intro state leafy product next replied
      rw [Behaviour.exclude] at replied
      rcases Run.matched_of_branch replied with ⟨_, _, -, declined⟩ | ⟨-, matched⟩
      · cases declined
      · exact inductionHypothesis leafy product next matched

/-- The parts of a sequence keep what each of them consumes. -/
theorem lossless_parts (each : ∀ subrule ∈ subrules, Lossless subrule) {state : State}
    (leafy : state.OverLeaves) : (parts subrules state).Lossless Value.flattenAll state := by
  induction subrules generalizing state with
  | nil => exact Run.lossless_here rfl
  | cons subrule rest inductionHypothesis =>
      apply (each subrule List.mem_cons_self leafy).andThen
      intro product next consumes
      have others := inductionHypothesis
        (fun other member => each other (List.mem_cons_of_mem subrule member))
        (consumes.overLeaves leafy)
      exact others.cons consumes

/-- A sequence, from its parts. -/
theorem lossless_sequence (each : ∀ subrule ∈ subrules, Lossless subrule) :
    Lossless (sequence subrules) := by
  intro state leafy product next replied
  obtain ⟨products, reply, rfl⟩ := Run.matched_of_map replied
  exact lossless_parts each leafy products next reply

/-- A choice keeps what the alternative that matches consumes. -/
theorem lossless_choice (each : ∀ subrule ∈ subrules, Lossless subrule) :
    Lossless (choice subrules) := by
  induction subrules with
  | nil => exact fun _ _ => Run.lossless_of_ne nofun
  | cons subrule rest inductionHypothesis =>
      intro state leafy
      exact (each subrule List.mem_cons_self leafy).orElse
        (inductionHypothesis
          (fun other member => each other (List.mem_cons_of_mem subrule member)) leafy)

/-- A default that holds no leaf stands for nothing consumed. -/
theorem Lossless.optional (lossless : Lossless body) {default : Value}
    (leafless : default.flatten = []) : Lossless (optional body default) :=
  fun _ leafy => (lossless leafy).orElse (Run.lossless_here leafless)

/-- The laps of a repetition keep what each of them consumes. -/
theorem Lossless.collect (lossless : Lossless body) (limit : Nat) {state : State}
    (leafy : state.OverLeaves) : (collect body limit state).Lossless Value.flattenAll state := by
  induction limit generalizing state with
  | zero => exact Run.lossless_here rfl
  | succ limit inductionHypothesis =>
      refine (lossless leafy).branch ?_ (Run.lossless_here rfl)
      intro product next consumes
      split
      · exact Run.lossless_of_ne (stall_ne_matched state)
      · exact (inductionHypothesis (consumes.overLeaves leafy)).cons consumes

/-- Laps, and a verdict that makes the tuple of their products if it matches. -/
theorem Lossless.repetition (lossless : Lossless body) (limit : Nat)
    {verdict : List Value → State → Run Value}
    (judged : ∀ products state product next, (verdict products state).reply =
      .matched product next → product = .tuple products ∧ next = state) :
    Lossless fun state => (Behaviour.collect body limit state).andThen verdict := by
  intro state leafy
  apply (lossless.collect limit leafy).andThen
  intro products next consumes product last replied
  obtain ⟨rfl, rfl⟩ := judged products next product last replied
  exact consumes

/-- A repetition, from its laps. -/
theorem Lossless.zeroOrMore (lossless : Lossless body) (laps : Nat) :
    Lossless (zeroOrMore laps body) := by
  apply lossless.repetition laps
  intro products state product next replied
  split at replied
  · cases replied
    exact ⟨rfl, rfl⟩
  · cases replied

/-- So with laps of which there has to be one. -/
theorem Lossless.oneOrMore (lossless : Lossless body) (laps : Nat) :
    Lossless (oneOrMore laps body) := by
  apply lossless.repetition laps
  intro products state product next replied
  split at replied
  · split at replied
    · cases replied
    · cases replied
      exact ⟨rfl, rfl⟩
  · cases replied

/-- So with a fixed number of laps. -/
theorem Lossless.exactly (lossless : Lossless body) (count : Int) :
    Lossless (exactly count body) := by
  apply lossless.repetition count.toNat
  intro products state product next replied
  split at replied
  · cases replied
  · cases replied
    exact ⟨rfl, rfl⟩

/-- A mandatory part keeps what the part consumes. -/
theorem Lossless.failpoint (lossless : Lossless body) (error : ErrorAt) :
    Lossless (failpoint body error) :=
  fun state leafy => (lossless leafy).orElse (Run.lossless_of_ne (fail_ne_matched _ error state))

/-- Updaters keep the product, and change nothing of the state but the context. -/
theorem eq_of_update {product result : Value} {updaters : List Updater} {state next : State}
    (replied : (update product updaters state).reply = .matched result next) :
    result = product ∧ ∃ context, next = state.withContext context := by
  induction updaters generalizing state with
  | nil =>
      cases replied
      exact ⟨rfl, next.context, rfl⟩
  | cons updater rest inductionHypothesis =>
      rcases Run.matched_of_branch replied with ⟨context, here, called, onward⟩ | ⟨-, declined⟩
      · cases Call.state_of_run called
        obtain ⟨same, last, rfl⟩ := inductionHypothesis onward
        exact ⟨same, last, rfl⟩
      · cases declined

/-- Updates change the context alone. -/
theorem Lossless.updating (lossless : Lossless body) (updaters : List Updater) :
    Lossless (updating body updaters) := by
  intro state leafy
  apply (lossless leafy).andThen
  intro product next consumes result last replied
  obtain ⟨rfl, context, rfl⟩ := eq_of_update replied
  exact consumes.withContext context

end Behaviour

/-! ## Rules and grammars -/

variable {ν : Type}

mutual

/-- The rule does not change products and does not choose by them. What takes the place of an absent
part has no leaves; subtrahends, errors and updaters do not matter. -/
def Rule.Syntactic : Rule ν → Prop
  | .term _ | .empty | .reference _ | .escalate _ | .fault _ => True
  | .exclude subrule _ | .zeroOrMore subrule | .oneOrMore subrule | .exactly _ subrule
  | .failpoint subrule _ | .updating subrule _ | .watched _ subrule => subrule.Syntactic
  | .optional subrule default => subrule.Syntactic ∧ default.flatten = []
  | .sequence subrules | .choice subrules => Rule.AllSyntactic subrules
  | .semantics _ _ | .bind _ _ | .derivation _ _ => False

/-- None of the rules changes products or chooses by them. -/
def Rule.AllSyntactic : List (Rule ν) → Prop
  | [] => True
  | rule :: rest => rule.Syntactic ∧ Rule.AllSyntactic rest

end

section Rules

variable {laps : Nat} {resolve : ν → Behaviour}

mutual

/-- A syntactic rule is lossless if its names are. -/
theorem Rule.lossless (named : ∀ name, (resolve name).Lossless) :
    ∀ rule : Rule ν, rule.Syntactic → Behaviour.Lossless (rule.evaluate laps resolve)
  | .term test, _ => Behaviour.lossless_term test
  | .empty, _ => fun _ _ => Run.lossless_here rfl
  | .exclude subrule subtrahends, syntactic =>
    (Rule.lossless named subrule syntactic).exclude (Rule.evaluateAll laps resolve subtrahends)
  | .sequence subrules, syntactic =>
    Behaviour.lossless_sequence (Rule.allLossless named subrules syntactic)
  | .choice subrules, syntactic =>
    Behaviour.lossless_choice (Rule.allLossless named subrules syntactic)
  | .optional subrule _, syntactic =>
    (Rule.lossless named subrule syntactic.1).optional syntactic.2
  | .zeroOrMore subrule, syntactic => (Rule.lossless named subrule syntactic).zeroOrMore laps
  | .oneOrMore subrule, syntactic => (Rule.lossless named subrule syntactic).oneOrMore laps
  | .exactly count subrule, syntactic => (Rule.lossless named subrule syntactic).exactly count
  | .reference name, _ => named name
  | .failpoint subrule error, syntactic => (Rule.lossless named subrule syntactic).failpoint error
  | .escalate error, _ => fun state _ =>
    Run.lossless_of_ne (Behaviour.fail_ne_matched .escalation error state)
  | .updating subrule updaters, syntactic =>
    (Rule.lossless named subrule syntactic).updating updaters
  | .watched _ subrule, syntactic => Rule.lossless named subrule syntactic
  | .fault _, _ => fun _ _ => Run.lossless_of_ne nofun

/-- Syntactic rules are lossless if their names are. -/
theorem Rule.allLossless (named : ∀ name, (resolve name).Lossless) :
    ∀ rules : List (Rule ν), Rule.AllSyntactic rules →
      ∀ behaviour ∈ Rule.evaluateAll laps resolve rules, behaviour.Lossless
  | [], _, _, member => absurd member List.not_mem_nil
  | first :: rest, syntactic, behaviour, member => by
    rcases List.mem_cons.mp member with rfl | later
    · exact Rule.lossless named first syntactic.1
    · exact Rule.allLossless named rest syntactic.2 behaviour later

end

end Rules

namespace Grammar

variable {grammar : Grammar ν} {root : Rule ν}

/-- Syntactic rules of a grammar are lossless, however deep its names are unfolded. -/
theorem lossless_evaluateWithin
    (syntactic : ∀ name rule, grammar name = some rule → rule.Syntactic) (laps unfoldings : Nat)
    (rootSyntactic : root.Syntactic) :
    Behaviour.Lossless (grammar.evaluateWithin laps unfoldings root) := by
  induction unfoldings generalizing root with
  | zero =>
      apply Rule.lossless _ root rootSyntactic
      intro name state _
      exact Run.lossless_of_ne nofun
  | succ unfoldings inductionHypothesis =>
      apply Rule.lossless _ root rootSyntactic
      intro name state leafy
      cases found : grammar name with
      | none => exact Run.lossless_of_ne nofun
      | some rule => exact inductionHypothesis (syntactic name rule found) leafy

/-- The leaves of the product of a syntactic rule are the tokens between the place where the rule
began and the place where it ended. -/
theorem flatten_evaluate (syntactic : ∀ name rule, grammar name = some rule → rule.Syntactic)
    (rootSyntactic : root.Syntactic) (budget : Budget) {state next : State} {product : Value}
    (leaves : ∀ token ∈ state.tokens.toList, token.IsLeaf) (nonneg : 0 ≤ state.pos)
    (inside : state.pos ≤ state.tokens.size)
    (reply : (grammar.evaluate budget root state).reply = .matched product next) :
    product.flatten = (state.tokens.slice state.pos next.pos).toList := by
  have lossless := lossless_evaluateWithin syntactic budget.laps budget.unfoldings rootSyntactic
  have consumes := lossless ⟨nonneg, leaves⟩ product next reply
  exact (consumes.toList_slice nonneg inside).symm

end Grammar

/-- A group in brackets, the beginning of which is given up by one alternative and read again by
another. -/
theorem flatten_evaluate_groups :
    let groups : Rule Unit := .choice
      [.sequence [.literal (.str (text "(")), .zeroOrMore (.literal (.str (text "x"))),
        .literal (.str (text "]"))],
      .sequence [.literal (.str (text "(")), .optional (.literal (.str (text "-"))) .none,
        .trackColumn (.reference ()),
        .failpoint (.literal (.str (text ")"))) (.expecting (text "a bracket"))],
      .exclude .anything [.literal (.str (text ")"))]]
    let grammar : Grammar Unit := fun _ => some groups
    let state : State := ⟨.ofText (text "y(x)z"), 1, .record .position [.int 1, .int 2], 0⟩
    ∃ product next, (grammar.evaluate ⟨1, 2⟩ groups state).reply = .matched product next ∧
      next.pos = 4 ∧ product.flatten = (text "(x)").map Value.ofCodePoint := by
  intro groups grammar state
  have syntactic : groups.Syntactic :=
    ⟨⟨trivial, trivial, trivial, trivial⟩,
      ⟨trivial, ⟨trivial, rfl⟩, trivial, trivial, trivial⟩, trivial, trivial⟩
  have defined : ∀ name rule, grammar name = some rule → rule.Syntactic := by
    rintro name rule ⟨⟩
    exact syntactic
  have leaves : ∀ token ∈ state.tokens.toList, token.IsLeaf := Tokens.isLeaf_ofText _
  have nonneg : 0 ≤ state.pos := by decide
  have inside : state.pos ≤ state.tokens.size := by decide
  exact ⟨_, _, rfl, rfl,
    grammar.flatten_evaluate defined syntactic ⟨1, 2⟩ leaves nonneg inside rfl⟩

end Descent
