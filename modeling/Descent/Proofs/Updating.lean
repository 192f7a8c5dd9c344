import Descent.Proofs.Sequencing
import Descent.Rule.Derived

/-!
# Laws of context updates

Updates that are put around a rule one after the other may be put around it at once, whatever the
rule replies and whichever of the updaters faults. The product of the rule and its place are never
touched.

An update of a field replaces the value that the field holds and nothing else of the context. So
what is put into a field is read back, two changes of a field are one, and updates of two fields may
be made in either order.
-/

namespace Descent

/-! ## Entries of mappings -/

/-- Only a text equals a text. -/
theorem Value.same_str_iff {value : Value} {points : Text} :
    value.same (.str points) = true ↔ value = .str points := by
  cases value <;> simp [same]

/-- A text equals itself. -/
theorem Value.same_str_self (points : Text) : (str points).same (.str points) = true :=
  same_str_iff.mpr rfl

/-- No key is equal to two texts. -/
theorem Value.not_same_str {value : Value} {first second : Text} (differs : first ≠ second)
    (same : value.same (.str first) = true) : ¬ value.same (.str second) = true := by
  rw [same_str_iff.mp same, same_str_iff, str.injEq]
  exact differs

namespace Entries

variable {name other : Text} {entries : List (Value × Value)}

/-- What was inserted is found under its key … -/
theorem find?_insert_self {key : Value} (equal : key.same key) (value : Value)
    (entries : List (Value × Value)) : find? key (insert key value entries) = some value := by
  induction entries with
  | nil => simp [insert, find?, equal]
  | cons entry rest inductionHypothesis =>
      by_cases here : entry.1.same key = true <;> simp [insert, find?, here, inductionHypothesis]

/-- … and what is found under another key stays the same. -/
theorem find?_insert_of_ne (differs : name ≠ other) (value : Value)
    (entries : List (Value × Value)) :
    find? (.str other) (insert (.str name) value entries) = find? (.str other) entries := by
  induction entries with
  | nil => simp [insert, find?, Value.same, differs]
  | cons entry rest inductionHypothesis =>
      by_cases here : entry.1.same (.str name) = true
      · simp [insert, find?, here, Value.not_same_str differs here]
      · simp [insert, find?, here, inductionHypothesis]

/-- Of two values inserted under one key the second stays. -/
theorem insert_insert {key : Value} (equal : key.same key) (first second : Value)
    (entries : List (Value × Value)) :
    insert key second (insert key first entries) = insert key second entries := by
  induction entries with
  | nil => simp [insert, equal]
  | cons entry rest inductionHypothesis =>
      by_cases here : entry.1.same key = true <;> simp [insert, here, inductionHypothesis]

/-- Entries that are there keep their places, so it does not matter which is replaced first. -/
theorem insert_comm (differs : name ≠ other) (found : (find? (.str name) entries).isSome)
    (foundOther : (find? (.str other) entries).isSome) (value valueOther : Value) :
    insert (.str other) valueOther (insert (.str name) value entries) =
      insert (.str name) value (insert (.str other) valueOther entries) := by
  induction entries with
  | nil => cases found
  | cons entry rest inductionHypothesis =>
      by_cases here : entry.1.same (.str name) = true
      · simp [insert, here, Value.not_same_str differs here]
      · by_cases there : entry.1.same (.str other) = true
        · simp [insert, here, there]
        · rw [find?, if_neg here] at found
          rw [find?, if_neg there] at foundOther
          simp [insert, here, there, inductionHypothesis found foundOther]

/-- An entry that is there is replaced in its place. -/
theorem exists_insert {held : Value} (found : find? (.str name) entries = some held)
    (value : Value) : ∃ earlier later, entries = earlier ++ (.str name, held) :: later ∧
      insert (.str name) value entries = earlier ++ (.str name, value) :: later := by
  induction entries with
  | nil => cases found
  | cons entry rest inductionHypothesis =>
      by_cases here : entry.1.same (.str name) = true
      · rw [find?, if_pos here] at found
        cases found
        refine ⟨[], rest, ?_, ?_⟩
        · rw [← Value.same_str_iff.mp here, List.nil_append]
        · rw [insert, if_pos here, Value.same_str_iff.mp here, List.nil_append]
      · rw [find?, if_neg here] at found
        obtain ⟨earlier, later, before, after⟩ := inductionHypothesis found
        refine ⟨entry :: earlier, later, ?_, ?_⟩ <;> simp [insert, here, after, ← before]

end Entries

/-! ## Fields of records -/

namespace Fields

variable {name other : Text}

/-- What is found in a record is one of its fields. -/
theorem mem_of_find? {names : List Text} {values : List Value} {held : Value}
    (found : find? name names values = some held) : name ∈ names := by
  fun_induction find? name names values with
  | case1 names value values => exact List.mem_cons_self
  | case2 here names value values apart inductionHypothesis =>
      exact List.mem_cons_of_mem _ (inductionHypothesis found)
  | case3 => cases found

/-- A replaced field has its new value … -/
theorem find?_replace_self {names : List Text} {values : List Value} {held : Value}
    (found : find? name names values = some held) (value : Value) :
    find? name names (replace name value names values) = some value := by
  fun_induction find? name names values with
  | case1 => simp [replace, find?]
  | case2 here names old values apart inductionHypothesis =>
      simp [replace, find?, apart, inductionHypothesis found]
  | case3 => cases found

/-- … and another field keeps its own. -/
theorem find?_replace_of_ne (differs : name ≠ other) (value : Value) (names : List Text)
    (values : List Value) :
    find? other names (replace name value names values) = find? other names values := by
  fun_induction replace name value names values with
  | case1 names old values => simp [find?, differs]
  | case2 here names old values apart inductionHypothesis =>
      simp [find?, inductionHypothesis]
  | case3 => rfl

/-- Of two replacements of one field the second stays. -/
theorem replace_replace (name : Text) (first second : Value) (names : List Text)
    (values : List Value) :
    replace name second names (replace name first names values) =
      replace name second names values := by
  fun_induction replace name first names values with
  | case1 => simp [replace]
  | case2 here names old values apart inductionHypothesis =>
      simp [replace, apart, inductionHypothesis]
  | case3 => rfl

/-- Replacements of different fields may change places. -/
theorem replace_comm (differs : name ≠ other) (value valueOther : Value) (names : List Text)
    (values : List Value) :
    replace other valueOther names (replace name value names values) =
      replace name value names (replace other valueOther names values) := by
  fun_induction replace name value names values with
  | case1 names old values => simp [replace, differs]
  | case2 here names old values apart inductionHypothesis =>
      by_cases there : here = other
      · subst there
        simp [replace, apart]
      · simp [replace, apart, there, inductionHypothesis]
  | case3 => simp [replace]

/-- A field that is there is replaced in its place. -/
theorem exists_replace {names : List Text} {values : List Value} {held : Value}
    (found : find? name names values = some held) (value : Value) :
    ∃ earlier later, values = earlier ++ held :: later ∧
      names[earlier.length]? = some name ∧
      replace name value names values = earlier ++ value :: later := by
  fun_induction find? name names values with
  | case1 names old values =>
      cases found
      exact ⟨[], values, rfl, rfl, by simp [replace]⟩
  | case2 here names old values apart inductionHypothesis =>
      obtain ⟨earlier, later, before, placed, after⟩ := inductionHypothesis found
      exact ⟨old :: earlier, later, by simp [before], by simpa using placed,
        by simp [replace, apart, after]⟩
  | case3 => cases found

end Fields

/-! ## Fields of contexts -/

namespace Context

variable {name other : Text} {context held : Value}

/-- Two contexts that differ in the value of one field and in nothing else. -/
inductive SameBut (name : Text) : Value → Value → Prop where
  | entry (earlier later : List (Value × Value)) (before after : Value) :
      SameBut name (.mapping (earlier ++ (.str name, before) :: later))
        (.mapping (earlier ++ (.str name, after) :: later))
  | field (kind : RecordKind) (earlier later : List Value) (before after : Value)
      (placed : kind.fieldNames[earlier.length]? = some name) :
      SameBut name (.record kind (earlier ++ before :: later))
        (.record kind (earlier ++ after :: later))

/-- The context with another value in a field that it has. -/
def replaced (name : Text) (value : Value) : Value → Value
  | .mapping entries => .mapping (Entries.insert (.str name) value entries)
  | .record kind fields => .record kind (Fields.replace name value kind.fieldNames fields)
  | context => context

/-- A field that a context has can be replaced. -/
theorem replaceField_eq (found : context.field? name = some held) (value : Value) :
    replaceField name value context = .ok (replaced name value context) := by
  cases context with
  | mapping entries => rfl
  | record kind fields =>
      rw [replaceField, List.contains_iff_mem.mpr (Fields.mem_of_find? found), if_pos rfl]
      rfl
  | none | bool | int | float | str | tuple | list => cases found

/-- A replaced field is read as its new value … -/
theorem field?_replaced (found : context.field? name = some held) (value : Value) :
    (replaced name value context).field? name = some value := by
  cases context with
  | mapping entries => exact Entries.find?_insert_self (Value.same_str_self name) value entries
  | record kind fields => exact Fields.find?_replace_self found value
  | none | bool | int | float | str | tuple | list => cases found

/-- … and another field is read as before. -/
theorem field?_replaced_of_ne (differs : name ≠ other) (value context : Value) :
    (replaced name value context).field? other = context.field? other := by
  cases context with
  | mapping entries => exact Entries.find?_insert_of_ne differs value entries
  | record kind fields => exact Fields.find?_replace_of_ne differs value _ fields
  | none | bool | int | float | str | tuple | list => rfl

/-- Of two replacements in one context the second stays. -/
theorem replaced_replaced (name : Text) (first second context : Value) :
    replaced name second (replaced name first context) = replaced name second context := by
  cases context with
  | mapping entries =>
      exact congrArg Value.mapping
        (Entries.insert_insert (Value.same_str_self name) first second entries)
  | record kind fields =>
      exact congrArg (Value.record kind) (Fields.replace_replace name first second _ fields)
  | none | bool | int | float | str | tuple | list => rfl

/-- Replacements of different fields of a context may change places. -/
theorem replaced_comm {heldOther : Value} (differs : name ≠ other)
    (found : context.field? name = some held) (foundOther : context.field? other = some heldOther)
    (value valueOther : Value) :
    replaced other valueOther (replaced name value context) =
      replaced name value (replaced other valueOther context) := by
  cases context with
  | mapping entries =>
      exact congrArg Value.mapping (Entries.insert_comm differs
        (Option.isSome_of_eq_some found) (Option.isSome_of_eq_some foundOther) value valueOther)
  | record kind fields =>
      exact congrArg (Value.record kind) (Fields.replace_comm differs value valueOther _ fields)
  | none | bool | int | float | str | tuple | list => cases found

/-- Replacing a field changes nothing else. -/
theorem sameBut_replaced (found : context.field? name = some held) (value : Value) :
    SameBut name context (replaced name value context) := by
  cases context with
  | mapping entries =>
      obtain ⟨earlier, later, before, after⟩ := Entries.exists_insert found value
      rw [replaced, after, before]
      exact .entry earlier later held value
  | record kind fields =>
      obtain ⟨earlier, later, before, placed, after⟩ := Fields.exists_replace found value
      rw [replaced, after, before]
      exact .field kind earlier later held value placed
  | none | bool | int | float | str | tuple | list => cases found

/-- A field that is there can be read. -/
theorem readField_eq (found : context.field? name = some held) :
    readField name context = .ok held := by
  simp only [readField, found]

/-- A context without the field is read with one and the same fault, whatever is done with it. -/
theorem exists_readField_eq_error (missing : context.field? name = none) :
    ∃ fault, readField name context = .error fault := by
  unfold readField
  rw [missing]
  cases context <;> exact ⟨_, rfl⟩

/-- Replacing a field does not show in another one, whether the context has that or not. -/
theorem readField_replaced_of_ne (differs : name ≠ other) (value context : Value) :
    readField other (replaced name value context) = readField other context := by
  unfold readField
  rw [field?_replaced_of_ne differs]
  cases context.field? other with
  | some value => rfl
  | none => cases context <;> rfl

/-- An update of one field: it puts a value in, or changes the one that is there. -/
inductive Updates (name : Text) : Updater → Prop where
  | set (value : Value) : Updates name (Context.set name value)
  | modify (change : Value → Except Fault Value) : Updates name (Context.modify name change)

/-- In contexts that have the field, the updater replaces its value by what `change` makes of it. -/
def Changes (name : Text) (change : Value → Except Fault Value) (updater : Updater) : Prop :=
  ∀ ⦃context held⦄, context.field? name = some held →
    updater context = (change held).map (replaced name · context)

/-- Setting a field does not look at the value before. -/
theorem changes_set (name : Text) (value : Value) :
    Changes name (fun _ => .ok value) (Context.set name value) :=
  fun _ _ found => replaceField_eq found value

/-- Modifying a field goes through the value before. -/
theorem changes_modify (name : Text) (change : Value → Except Fault Value) :
    Changes name change (Context.modify name change) := by
  intro context held found
  have changed : Context.modify name change context =
      change held >>= fun value => replaceField name value context := by
    rw [Context.modify, readField_eq found]
    rfl
  rw [changed]
  cases change held with
  | ok value => exact replaceField_eq found value
  | error fault => rfl

/-- Whatever an update does, it makes the new value from the old one. -/
theorem Updates.exists_changes {updater : Updater} (updates : Updates name updater) :
    ∃ change, Changes name change updater := by
  cases updates with
  | set value => exact ⟨_, changes_set name value⟩
  | modify change => exact ⟨_, changes_modify name change⟩

/-- Changing a field twice is changing it by both changes, also where the field is missing or one of
the changes faults. -/
theorem modify_modify (name : Text) (first second : Value → Except Fault Value) (context : Value) :
    (Context.modify name first context >>= Context.modify name second) =
      Context.modify name (fun value => first value >>= second) context := by
  cases found : context.field? name with
  | none =>
      obtain ⟨fault, missing⟩ := exists_readField_eq_error found
      rw [Context.modify, Context.modify, missing]
      rfl
  | some held =>
      rw [changes_modify name first found, changes_modify name _ found]
      cases first held with
      | error fault => rfl
      | ok value =>
          show Context.modify name second (replaced name value context) = (second value).map _
          rw [changes_modify name second (field?_replaced found value)]
          simp only [replaced_replaced]

section TwoFields

variable {change changeOther : Value → Except Fault Value} {first second : Updater}
  {heldOther : Value}

/-- The second of two changes of different fields starts from what the context held before. -/
theorem Changes.andThen (changes : Changes name change first)
    (changesOther : Changes other changeOther second) (differs : name ≠ other)
    (found : context.field? name = some held) (foundOther : context.field? other = some heldOther) :
    (first context >>= second) = (change held >>= fun value =>
      (changeOther heldOther).map (replaced other · (replaced name value context))) := by
  rw [changes found]
  cases change held with
  | error fault => rfl
  | ok value => exact changesOther ((field?_replaced_of_ne differs value context).trans foundOther)

/-- Updates of two fields that a context has may be made in either order, unless both fault, and if
neither faults on its own, neither does the one after the other. -/
theorem Updates.comm (updates : Updates name first) (updatesOther : Updates other second)
    (differs : name ≠ other) (found : context.field? name = some held)
    (foundOther : context.field? other = some heldOther) :
    ((∃ after, first context = .ok after ∨ second context = .ok after) →
        (first context >>= second) = (second context >>= first)) ∧
      ((∃ after, first context = .ok after) → (∃ after, second context = .ok after) →
        ∃ after, (first context >>= second) = .ok after) := by
  obtain ⟨change, changes⟩ := updates.exists_changes
  obtain ⟨changeOther, changesOther⟩ := updatesOther.exists_changes
  rw [changes.andThen changesOther differs found foundOther,
    changesOther.andThen changes differs.symm foundOther found, changes found,
    changesOther foundOther]
  cases change held with
  | ok value =>
      cases changeOther heldOther with
      | ok valueOther =>
          refine ⟨fun _ => ?_, fun _ _ => ⟨_, rfl⟩⟩
          exact congrArg Except.ok (replaced_comm differs found foundOther value valueOther)
      | error faultOther => exact ⟨fun _ => rfl, fun _ ⟨_, faulted⟩ => nomatch faulted⟩
  | error fault =>
      cases changeOther heldOther with
      | ok valueOther => exact ⟨fun _ => rfl, fun ⟨_, faulted⟩ _ => nomatch faulted⟩
      | error faultOther =>
          exact ⟨fun ⟨_, returned⟩ => returned.elim nofun nofun,
            fun ⟨_, faulted⟩ _ => nomatch faulted⟩

end TwoFields

/-- The context after several updaters, in order. -/
def updated (updaters : List Updater) : Updater := fun context =>
  updaters.foldlM (fun here updater => updater here) context

/-- Updates are applied from the first one on. -/
theorem updated_cons (updater : Updater) (rest : List Updater) (context : Value) :
    updated (updater :: rest) context = updater context >>= updated rest :=
  List.foldlM_cons

end Context

/-! ## Updates around rules -/

/-- The reply with the context after several updaters, or the fault that one of them met. -/
def Reply.update (updaters : List Updater) : Reply Value → Reply Value
  | .matched product next =>
    match Context.updated updaters next.context with
    | .ok context => .matched product (next.withContext context)
    | .error fault => .raised fault
  | reply => reply

namespace Behaviour

/-- Updates after a match, as an update of the reply. -/
theorem reply_update (product : Value) (updaters : List Updater) (state : State) :
    (update product updaters state).reply = (Reply.matched product state).update updaters := by
  induction updaters generalizing state with
  | nil => rfl
  | cons updater rest inductionHypothesis =>
      rw [update, Run.andThen, Reply.update, Context.updated_cons]
      cases called : updater state.context with
      | ok context =>
          rw [Run.branch_of_matched rfl]
          exact inductionHypothesis (state.withContext context)
      | error fault =>
          rw [Run.branch_of_raised rfl]
          rfl

/-- Updaters in a row, the later ones behind the earlier. -/
theorem update_append (product : Value) (first second : List Updater) (state : State) :
    (update product (first ++ second) state).Same
      ((update product first state).andThen fun product next => update product second next) := by
  induction first generalizing state with
  | nil =>
      exact (Run.matched_andThen product state fun product next => update product second next).symm
  | cons updater rest inductionHypothesis =>
      exact ((Run.Same.refl _).andThen fun context here _ =>
        inductionHypothesis (here.withContext context)).trans (Run.andThen_assoc _ _ _).symm

/-- Updates around updates are updates in a row. -/
theorem updating_updating (body : Behaviour) (first second : List Updater) (state : State) :
    (updating (updating body first) second state).Same (updating body (first ++ second) state) :=
  (Run.andThen_assoc _ _ _).trans
    ((Run.Same.refl _).andThen fun product next _ => (update_append product first second next).symm)

/-- Updaters change the context of a match, and nothing else of any reply. -/
theorem reply_updating (body : Behaviour) (updaters : List Updater) (state : State) :
    (updating body updaters state).reply = (body state).reply.update updaters := by
  cases reply : (body state).reply with
  | matched product next =>
      rw [updating, Run.andThen, Run.branch_of_matched reply]
      exact reply_update product updaters next
  | declined =>
      rw [updating, Run.andThen, Run.branch_of_declined reply]
      rfl
  | failed error =>
      rw [updating, Run.andThen, Run.branch_of_failed reply]
      rfl
  | raised fault =>
      rw [updating, Run.andThen, Run.branch_of_raised reply]
      rfl
  | exhausted =>
      rw [updating, Run.andThen, Run.branch_of_exhausted reply]
      rfl

end Behaviour

/-! ## The laws -/

variable {ν : Type}

/-- Rules whose updates are put around them one after the other reply as the rule with all of the
updates does. -/
theorem Rule.updating_updating (laps : Nat) (resolve : ν → Behaviour) (rule : Rule ν)
    (first second : List Updater) (state : State) :
    ((Rule.updating (.updating rule first) second).evaluate laps resolve state).reply =
      ((Rule.updating rule (first ++ second)).evaluate laps resolve state).reply := by
  calc ((Rule.updating (.updating rule first) second).evaluate laps resolve state).reply
    _ = (Behaviour.updating (Behaviour.updating (rule.evaluate laps resolve) first) second
          state).reply :=
      Run.reply_andThen_congr rfl fun _ _ _ => rfl
    _ = (Behaviour.updating (rule.evaluate laps resolve) (first ++ second) state).reply :=
      (Behaviour.updating_updating _ first second state).reply

/-- Updates around updates are updates in a row, and what they come to is the reply of the rule with
the context of a match updated, or with the fault of an updater. In a context that has the field, a
value that is put into it is read back, and nothing else changes. Two changes of a field are one
change by both. Updates of two fields that are there may be made in either order, unless both fault;
if neither faults on its own, they do not fault together. -/
theorem context_updates_lawful (laps : Nat) (resolve : ν → Behaviour) :
    (∀ (body : Behaviour) (first second : List Updater) (state : State),
      (Behaviour.updating (Behaviour.updating body first) second state).Same
        (Behaviour.updating body (first ++ second) state)) ∧
    (∀ (rule : Rule ν) (first second : List Updater) (state : State),
      ((Rule.updating (.updating rule first) second).evaluate laps resolve state).reply =
        ((Rule.updating rule (first ++ second)).evaluate laps resolve state).reply) ∧
    (∀ (rule : Rule ν) (updaters : List Updater) (state : State),
      ((Rule.updating rule updaters).evaluate laps resolve state).reply =
        (rule.evaluate laps resolve state).reply.update updaters) ∧
    (∀ (context : Value) (name : Text) (held value : Value), context.field? name = some held →
      ∃ after, Context.set name value context = .ok after ∧
        Context.SameBut name context after ∧ Context.readField name after = .ok value ∧
        ∀ other, name ≠ other → Context.readField other after = Context.readField other context) ∧
    (∀ (name : Text) (first second : Value → Except Fault Value) (context : Value),
      (Context.modify name first context >>= Context.modify name second) =
        Context.modify name (fun value => first value >>= second) context) ∧
    ∀ (context : Value) (name other : Text) (held heldOther : Value) (first second : Updater),
      Context.Updates name first → Context.Updates other second → name ≠ other →
      context.field? name = some held → context.field? other = some heldOther →
      ((∃ after, first context = .ok after ∨ second context = .ok after) →
          (first context >>= second) = (second context >>= first)) ∧
        ((∃ after, first context = .ok after) → (∃ after, second context = .ok after) →
          ∃ after, (first context >>= second) = .ok after) := by
  refine ⟨Behaviour.updating_updating, Rule.updating_updating laps resolve, ?_, ?_,
    Context.modify_modify, ?_⟩
  · intro rule updaters state
    exact Behaviour.reply_updating (rule.evaluate laps resolve) updaters state
  · intro context name held value found
    refine ⟨_, Context.replaceField_eq found value, Context.sameBut_replaced found value,
      Context.readField_eq (Context.field?_replaced found value), ?_⟩
    exact fun other differs => Context.readField_replaced_of_ne differs value context
  · intro context name other held heldOther first second updates updatesOther differs found
    exact updates.comm updatesOther differs found

/-- The column of a document is set, and its line and its column are updated in either order. -/
theorem context_updates_lawful_document :
    let line := text "line"
    let column := text "column"
    let context : Value := .record .document [.int 1, .int 4, .int 2]
    let nextLine := Rule.increment line
    let restart := Context.set column (.int 1)
    (∃ after, restart context = .ok after ∧ Context.SameBut column context after ∧
      Context.readField column after = .ok (.int 1) ∧
      Context.readField line after = .ok (.int 1)) ∧
    (nextLine context >>= restart) = (restart context >>= nextLine) ∧
    (nextLine context >>= restart) = .ok (.record .document [.int 2, .int 1, .int 2]) := by
  intro line column context nextLine restart
  have differs : column ≠ line := by decide
  obtain ⟨-, -, -, puts, -, commute⟩ :=
    context_updates_lawful 0 (fun _ : Empty => Behaviour.empty)
  obtain ⟨after, put, same, back, others⟩ := puts context column (.int 4) (.int 1) rfl
  obtain ⟨orders, -⟩ := commute context line column (.int 1) (.int 4) nextLine restart
    (.modify _) (.set _) differs.symm rfl rfl
  exact ⟨⟨after, put, same, back, others line differs⟩, orders ⟨_, .inl rfl⟩, rfl⟩

end Descent
