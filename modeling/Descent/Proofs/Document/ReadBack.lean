import Descent.Diagnostic.Format
import Descent.Proofs.Document.Acceptance
import Descent.Proofs.Entries
import Descent.Proofs.Numerals

/-!
# The object form of a diagnostic is read back

The object form of a diagnostic is the text of a document, and a loader reads it into the very
fields that were laid out, in their order. Writer and reader know nothing of each other: for each
thing that is written there is a phrase with this spelling, and what a phrase stands for is what the
reader returns.

Strings are the delicate part. An escaped surrogate would be joined with its neighbour, but the only
code points that are written by their numbers are controls, so a text comes back as it was even if
it has surrogates that are part of no pair.
-/

namespace Descent

/-! ## Texts -/

namespace Text

/-- The first of the joined texts, and each other one behind a separator. -/
theorem join_cons (separator first : Text) (others : List Text) :
    join separator (first :: others) = first ++ others.flatMap (separator ++ ·) := by
  induction others generalizing first with
  | nil => simp [join]
  | cons second others inductionHypothesis =>
      have rest := inductionHypothesis second
      rw [join] at rest
      rw [join, List.intercalate_cons_cons, rest, List.flatMap_cons, List.append_assoc,
        List.append_assoc]

end Text

/-- The fields of a diagnostic have distinct names. -/
theorem DiagnosticStyle.nodup_fields (style : DiagnosticStyle) (diagnostic : Diagnostic) :
    ((style.fields diagnostic).map Prod.fst).Nodup := by
  -- The names are some of those that there are, in one order.
  have place : ((placeFields diagnostic).map Prod.fst).Sublist
      [text "line", text "column", text "start", text "end", text "position"] := by
    unfold placeFields
    split
    · exact List.sublist_append_left _ [text "position"]
    · exact List.sublist_append_right [text "line", text "column", text "start", text "end"] _
    · exact List.nil_sublist _
  have expected : ((expectedFields diagnostic).map Prod.fst).Sublist [text "expected"] := by
    unfold expectedFields
    split
    · exact List.nil_sublist _
    · exact List.Sublist.refl _
  have optional : ∀ (name : Text) (detail : Option Text),
      ((detail.map fun points => (name, FieldValue.text points)).toList.map Prod.fst).Sublist
        [name] := by
    intro name detail
    cases detail with
    | none => exact List.nil_sublist _
    | some points => exact List.Sublist.refl _
  have names : ((style.fields diagnostic).map Prod.fst).Sublist
      ([text "code", text "code_value", text "message"] ++
        [text "line", text "column", text "start", text "end", text "position"] ++
        [text "expected"] ++ [text "found"] ++ [text "hint"]) := by
    simp only [fields, List.map_append]
    exact ((((List.Sublist.refl _).append place).append expected).append
      (optional _ _)).append (optional _ _)
  exact names.nodup (by decide)

namespace Document

/-! ## Strings -/

/-- The digits with which a control character is written. -/
theorem hexValue?_hex : ∀ number < 0x20, (Text.hex 4 number).map CodePoint.hexValue? =
    [some 0, some 0, some (number / 16), some (number % 16)] := by
  decide

/-- A control character is written as a code unit with its number. -/
theorem CodeUnit.exists_of_control {number : Nat} (control : number < 0x20) :
    ∃ unit : CodeUnit, unit.digits = Text.hex 4 number ∧ unit.number = number := by
  have values := hexValue?_hex number control
  have length : (Text.hex 4 number).length = 4 := by
    rw [← List.length_map CodePoint.hexValue?, values]
    rfl
  have areHex : ∀ digit ∈ Text.hex 4 number, digit.hexValue?.isSome := by
    intro digit member
    have held := List.mem_map_of_mem (f := CodePoint.hexValue?) member
    rw [values] at held
    cases spelled : digit.hexValue? with
    | none => simp [spelled] at held
    | some value => rfl
  refine ⟨⟨Text.hex 4 number, length, areHex⟩, rfl, ?_⟩
  calc (Text.hex 4 number).foldl (fun value digit => value * 16 + digit.hexValue?.getD 0) 0
    _ = ((Text.hex 4 number).map CodePoint.hexValue?).foldl
          (fun value digit => value * 16 + digit.getD 0) 0 := by rw [List.foldl_map]
    _ = number := by
        rw [values]
        simp only [List.foldl_cons, List.foldl_nil, Option.getD_some]
        omega

namespace StringItem

/-- Each code point is written as an item that stands for it and is joined with no neighbour. -/
theorem exists_of_escapePoint (point : CodePoint) :
    ∃ item : StringItem, item.text = FieldValue.escapePoint point ∧ item.point = point ∧
      ∀ other, item.pair? other = none := by
  unfold FieldValue.escapePoint
  dsimp only
  split
  · next same => exact ⟨.short .quote, rfl, Fin.ext same.symm, fun _ => rfl⟩
  split
  · next same => exact ⟨.short .backslash, rfl, Fin.ext same.symm, fun _ => rfl⟩
  split
  · next same => exact ⟨.short .lineFeed, rfl, Fin.ext same.symm, fun _ => rfl⟩
  split
  · next same => exact ⟨.short .carriageReturn, rfl, Fin.ext same.symm, fun _ => rfl⟩
  split
  · next same => exact ⟨.short .tab, rfl, Fin.ext same.symm, fun _ => rfl⟩
  split
  · next same => exact ⟨.short .backspace, rfl, Fin.ext same.symm, fun _ => rfl⟩
  split
  · next same => exact ⟨.short .formFeed, rfl, Fin.ext same.symm, fun _ => rfl⟩
  split
  · next control =>
      obtain ⟨unit, digits, number⟩ := CodeUnit.exists_of_control control
      -- The number of a control is not that of a surrogate.
      have low : CodePoint.isHighSurrogate unit.number = false := by
        simp only [number, CodePoint.isHighSurrogate, Bool.and_eq_false_iff,
          decide_eq_false_iff_not]
        omega
      refine ⟨.coded unit, by rw [StringItem.text, digits]; rfl, Fin.ext number, ?_⟩
      intro other
      cases other with
      | plain point isPlain => rfl
      | short escape => rfl
      | coded unit => simp only [pair?, low, Bool.false_and, Bool.false_eq_true, if_false]
  · next notQuote notBackslash _ _ _ _ _ visible =>
      have isPlain : point.isPlain := by
        simp only [CodePoint.isPlain, Bool.and_eq_true, decide_eq_true_eq]
        exact ⟨⟨Nat.not_lt.mp visible, fun same => notQuote (congrArg Fin.val same)⟩,
          fun same => notBackslash (congrArg Fin.val same)⟩
      exact ⟨.plain point isPlain, rfl, rfl, fun _ => rfl⟩

/-- Items in a row of which the first is joined with no neighbour. -/
theorem decode_cons {item : StringItem} (alone : ∀ other, item.pair? other = none)
    (rest : List StringItem) : decode (item :: rest) = item.point :: decode rest := by
  cases rest with
  | nil => rfl
  | cons second rest => rw [decode, alone second]

/-- Each text is written as a string that stands for it. -/
theorem exists_of_stringLiteral (points : Text) :
    ∃ items : List StringItem, quoted items = FieldValue.stringLiteral points ∧
      decode items = points := by
  suffices written : ∃ items : List StringItem,
      texts items = points.flatMap FieldValue.escapePoint ∧ decode items = points by
    obtain ⟨items, spelled, decoded⟩ := written
    exact ⟨items, by rw [quoted, spelled]; rfl, decoded⟩
  induction points with
  | nil => exact ⟨[], rfl, rfl⟩
  | cons point rest inductionHypothesis =>
      obtain ⟨item, itemText, itemPoint, alone⟩ := exists_of_escapePoint point
      obtain ⟨items, spelled, decoded⟩ := inductionHypothesis
      refine ⟨item :: items, ?_, ?_⟩
      · rw [texts, List.flatMap_cons, itemText, List.flatMap_cons, ← spelled, texts]
      · rw [decode_cons alone, itemPoint, decoded]

end StringItem

/-! ## Numbers -/

/-- The literal of a whole number. -/
def NumberLiteral.ofInt (value : Int) : NumberLiteral where
  negative := value < 0
  integral := ⟨Text.ofNat value.natAbs, Text.ofNat_ne_nil _, fun _ => Text.isDigit_of_mem_ofNat⟩
  zeroAlone leading := by
    cases number : value.natAbs with
    | zero => rfl
    | succ less =>
        rw [number] at leading
        exact absurd leading (Text.head?_ofNat_ne (Nat.succ_pos less))
  fraction := none
  exponent := none

namespace NumberLiteral

theorem text_ofInt (value : Int) : (ofInt value).text = Text.ofInt value := by
  have bare : (ofInt value).text = (ofInt value).signText ++ Text.ofNat value.natAbs := by
    simp only [text, ofInt, fractionText, exponentText, List.append_nil]
  rw [bare]
  cases value with
  | ofNat number => rfl
  | negSucc number =>
      have negative : Int.negSucc number < 0 := Int.negSucc_lt_zero number
      simp only [signText, ofInt, negative, decide_true, if_true]
      rfl

theorem value_ofInt (value : Int) : (ofInt value).value = .int value := by
  have whole : (ofInt value).isWhole = true := rfl
  rw [NumberLiteral.value, if_pos whole]
  simp only [ofInt, Text.decimalValue_ofNat, decide_eq_true_eq, Value.int.injEq]
  split <;> omega

end NumberLiteral

end Document

/-! ## Fields -/

/-- Whether a field's number has at most as many digits as a whole number may have; zero stands for
no limit. -/
def FieldValue.Within (maxDigits : Nat) : FieldValue → Prop
  | .number (.int value) => 0 < maxDigits → (Text.ofNat value.natAbs).length ≤ maxDigits
  | .number (.bool _) | .text _ | .texts _ => True

instance (maxDigits : Nat) : (content : FieldValue) → Decidable (content.Within maxDigits)
  | .number (.int value) =>
    inferInstanceAs (Decidable (0 < maxDigits → (Text.ofNat value.natAbs).length ≤ maxDigits))
  | .number (.bool _) | .text _ | .texts _ => .isTrue trivial

namespace Document

/-- The phrase is spelled as a field's content is and stands for it. -/
structure Phrase.Spells (limits : Limits) (phrase : Phrase) (content : FieldValue) : Prop where
  text : phrase.text = content.spelling
  represents : phrase.node.represent = content.toValue
  nesting : phrase.nesting ≤ 1
  admitted : ∀ literal ∈ phrase.literals, limits.Admits literal

/-- A space behind a structural character, and none in front of it. -/
def Margin.spaceAfter : Margin :=
  ⟨Margin.none.before, ⟨Descent.text " ", by simp [Descent.text, CodePoint.isBlank]⟩⟩

theorem Margin.spaceAfter_comma : spaceAfter.around ',' = Descent.text ", " := rfl

theorem Margin.spaceAfter_colon : spaceAfter.around ':' = Descent.text ": " := rfl

/-- Further texts are written as further items of an array. -/
theorem ItemTail.exists_of_texts (items : List Text) :
    ∃ tail : ItemTail,
      tail.text = (items.map FieldValue.stringLiteral).flatMap (Descent.text ", " ++ ·) ∧
      Node.representAll tail.nodes = items.map .str ∧ tail.nesting = 0 ∧ tail.literals = [] := by
  induction items with
  | nil => exact ⟨.nil, rfl, rfl, rfl, rfl⟩
  | cons item rest inductionHypothesis =>
      obtain ⟨spelled, spelling, decoded⟩ := StringItem.exists_of_stringLiteral item
      obtain ⟨tail, text, represents, nesting, literals⟩ := inductionHypothesis
      refine ⟨.cons .spaceAfter (.string spelled) tail, ?_, ?_, ?_, ?_⟩
      · rw [ItemTail.text, Margin.spaceAfter_comma, text, Phrase.text, spelling, List.map_cons,
          List.flatMap_cons]
      · rw [nodes, Phrase.node, decoded, Node.representAll, Node.represent, represents,
          List.map_cons]
      · rw [ItemTail.nesting, Phrase.nesting, nesting, Nat.max_self]
      · rw [ItemTail.literals, Phrase.literals, literals, List.nil_append]

/-- Each content of a field within the digit limit is written as a phrase that stands for it. -/
theorem Phrase.exists_spells {limits : Limits} {content : FieldValue}
    (within : content.Within limits.maxDigits) :
    ∃ phrase : Phrase, phrase.Spells limits content := by
  cases content with
  | text points =>
      obtain ⟨items, spelling, decoded⟩ := StringItem.exists_of_stringLiteral points
      exact ⟨.string items, spelling, congrArg Value.str decoded, Nat.zero_le 1,
        List.forall_mem_nil _⟩
  | number value =>
      cases value with
      | int value =>
          refine ⟨.number (.ofInt value), NumberLiteral.text_ofInt value,
            NumberLiteral.value_ofInt value, Nat.zero_le 1, ?_⟩
          intro literal member
          cases List.mem_singleton.mp member
          exact fun _ => within
      | bool value =>
          cases value with
          | false => exact ⟨.word .no, rfl, rfl, Nat.zero_le 1, List.forall_mem_nil _⟩
          | true => exact ⟨.word .yes, rfl, rfl, Nat.zero_le 1, List.forall_mem_nil _⟩
  | texts items =>
      cases items with
      | nil => exact ⟨.emptyArray .none .none, rfl, rfl, Nat.le_refl 1, List.forall_mem_nil _⟩
      | cons first others =>
          obtain ⟨spelled, spelling, decoded⟩ := StringItem.exists_of_stringLiteral first
          obtain ⟨tail, text, represents, nesting, literals⟩ := ItemTail.exists_of_texts others
          refine ⟨.array .none (.string spelled) tail .none, ?_, ?_, ?_, ?_⟩
          · rw [Phrase.text, Phrase.text, text, spelling, FieldValue.spelling, List.map_cons,
              Text.join_cons, ← List.append_assoc]
            rfl
          · rw [Phrase.node, Phrase.node, decoded, Node.represent, Node.representAll,
              Node.represent, represents]
            rfl
          · rw [Phrase.nesting, Phrase.nesting, nesting]
            exact Nat.le_refl 1
          · rw [Phrase.literals, Phrase.literals, literals]
            exact List.forall_mem_nil _

/-- How a field is written. -/
def entryText (field : Text × FieldValue) : Text :=
  FieldValue.stringLiteral field.1 ++ text ": " ++ field.2.spelling

/-- Further fields are written as further entries of an object. -/
theorem EntryTail.exists_of_fields {limits : Limits} {fields : List (Text × FieldValue)}
    (within : ∀ field ∈ fields, field.2.Within limits.maxDigits) :
    ∃ tail : EntryTail, tail.text = (fields.map entryText).flatMap (Descent.text ", " ++ ·) ∧
      Node.representEntries tail.nodes = fields.map (fun field => (.str field.1, field.2.toValue)) ∧
      tail.nesting ≤ 1 ∧ ∀ literal ∈ tail.literals, limits.Admits literal := by
  induction fields with
  | nil => exact ⟨.nil, rfl, rfl, Nat.zero_le 1, List.forall_mem_nil _⟩
  | cons field rest inductionHypothesis =>
      obtain ⟨key, keySpelling, keyDecoded⟩ := StringItem.exists_of_stringLiteral field.1
      obtain ⟨phrase, spells⟩ := Phrase.exists_spells (within field List.mem_cons_self)
      obtain ⟨tail, text, represents, nesting, admitted⟩ := inductionHypothesis
        fun other member => within other (List.mem_cons_of_mem field member)
      refine ⟨.cons .spaceAfter key .spaceAfter phrase tail, ?_, ?_, ?_, ?_⟩
      · rw [EntryTail.text, Margin.spaceAfter_comma, Margin.spaceAfter_colon, keySpelling,
          spells.text, text, List.map_cons, List.flatMap_cons, entryText]
        simp only [List.append_assoc]
      · rw [nodes, keyDecoded, Node.representEntries, spells.represents, represents, List.map_cons]
      · rw [EntryTail.nesting]
        exact Nat.max_le.mpr ⟨spells.nesting, nesting⟩
      · intro literal member
        rw [EntryTail.literals, List.mem_append] at member
        exact member.elim (spells.admitted literal) (admitted literal)

/-- The object form of fields is the text of an object that stands for the mapping of the fields. -/
theorem Phrase.exists_object {limits : Limits} {field : Text × FieldValue}
    {others : List (Text × FieldValue)}
    (within : ∀ other ∈ field :: others, other.2.Within limits.maxDigits)
    (distinct : ((field :: others).map Prod.fst).Nodup) :
    ∃ phrase : Phrase,
      phrase.text = Descent.text "\x7b" ++
        Text.join (Descent.text ", ") ((field :: others).map entryText) ++ Descent.text "\x7d" ∧
      phrase.node.represent =
        .mapping ((field :: others).map fun other => (.str other.1, other.2.toValue)) ∧
      phrase.nesting ≤ 2 ∧ ∀ literal ∈ phrase.literals, limits.Admits literal := by
  obtain ⟨key, keySpelling, keyDecoded⟩ := StringItem.exists_of_stringLiteral field.1
  obtain ⟨phrase, spells⟩ := Phrase.exists_spells (within field List.mem_cons_self)
  obtain ⟨tail, text, represents, nesting, admitted⟩ := EntryTail.exists_of_fields
    fun other member => within other (List.mem_cons_of_mem field member)
  refine ⟨.object .none key .spaceAfter phrase tail .none, ?_, ?_, ?_, ?_⟩
  · rw [Phrase.text, Margin.spaceAfter_colon, keySpelling, spells.text, text, List.map_cons,
      Text.join_cons, entryText]
    simp only [List.append_assoc]
    rfl
  · have keys : (((field :: others).map fun other => (other.1, other.2.toValue)).map
        Prod.fst).Nodup := by
      rw [List.map_map]
      exact distinct
    have pairs := Entries.ofPairs_of_nodup keys
    rw [List.map_map] at pairs
    rw [Phrase.node, keyDecoded, Node.represent, Node.representEntries, spells.represents,
      represents]
    exact congrArg Value.mapping pairs
  · rw [Phrase.nesting]
    have inner : max phrase.nesting tail.nesting ≤ 1 := Nat.max_le.mpr ⟨spells.nesting, nesting⟩
    omega
  · intro literal member
    rw [Phrase.literals, List.mem_append] at member
    exact member.elim (spells.admitted literal) (admitted literal)

/-! ## Diagnostics -/

/-- A loader without a size limit that takes two levels of nesting reads the object form of a
diagnostic into its fields. -/
theorem Loader.loads_formatObject {loader : Loader} (unsized : loader.maxSourceSize = 0)
    (deep : 2 ≤ loader.limits.maxDepth) {style : DiagnosticStyle} {diagnostic : Diagnostic}
    (within : ∀ field ∈ style.fields diagnostic, field.2.Within loader.limits.maxDigits) :
    loader.loads (style.formatObject diagnostic) =
      .ok (.mapping ((style.fields diagnostic).map fun field =>
        (.str field.1, field.2.toValue))) := by
  obtain ⟨field, others, fields⟩ : ∃ field others, style.fields diagnostic = field :: others :=
    ⟨_, _, rfl⟩
  have distinct := style.nodup_fields diagnostic
  rw [fields] at within distinct
  obtain ⟨phrase, text, represents, nesting, admitted⟩ := Phrase.exists_object within distinct
  let form : Form := ⟨⟨[], by simp⟩, phrase, ⟨[], by simp⟩⟩
  have written : style.formatObject diagnostic = form.text := by
    rw [DiagnosticStyle.formatObject, fields, Form.text, List.nil_append, List.append_nil]
    exact text.symm
  have sized : loader.refusesSize form.text = false := by simp [refusesSize, unsized]
  have fits := Limits.fits_iff.mpr ⟨(by omega : phrase.nesting ≤ loader.limits.maxDepth.toNat),
    admitted⟩
  rw [written, loads, Loaded.value, parse_form sized fits, fields, ← represents]
  rfl

/-- The object form of a diagnostic is read back by a loader without a size limit and with the
standard nesting limit: if the numbers of the diagnostic have no more digits than allowed, the
loader returns the mapping of the fields that were laid out, in their order. -/
theorem Loader.loads_format (style : DiagnosticStyle) (object : style.layout = .object)
    (diagnostic : Diagnostic) (maxDigits : Nat)
    (within : ∀ field ∈ style.fields diagnostic, field.2.Within maxDigits) :
    ∃ loader records, Loader.make 0 DepthLimit.standard maxDigits = .ok (loader, records) ∧
      loader.loads (style.format diagnostic) =
        .ok (.mapping ((style.fields diagnostic).map fun field =>
          (.str field.1, field.2.toValue))) := by
  let loader : Loader := ⟨0, ⟨DepthLimit.standard, maxDigits⟩⟩
  have deep : 2 ≤ DepthLimit.standard := by decide
  refine ⟨loader, [], rfl, ?_⟩
  rw [DiagnosticStyle.format, object]
  exact loads_formatObject rfl deep within

/-- Controls, a quote, a backslash and a surrogate without a partner come back as they were, the
texts clipped as the style says. -/
theorem loads_format_controls :
    let style : DiagnosticStyle := { layout := .object, sanitize := true, maxContentLength := 4 }
    let diagnostic : Diagnostic :=
      { code := .expectationFailed
        message := [0x0A, 0x1F, 0xD800, 0x22, 0x5C]
        span := some ⟨12, 12, .int 3, .bool true, by decide, by decide, by decide, by decide⟩
        hint := some []
        expected := [text "]", [0x5C]]
        found := some []
        position := none }
    ∃ loader records, Loader.make 0 DepthLimit.standard standardMaxDigits = .ok (loader, records) ∧
      loader.loads (style.format diagnostic) =
        .ok (.mapping
          [(.str (text "code"), .str (text "EXPECTATION_FAILED")),
            (.str (text "code_value"), .int 3004),
            (.str (text "message"), .str ([0x0A, 0x1F, 0xD800, 0x22] ++ text "...")),
            (.str (text "line"), .int 3), (.str (text "column"), .bool true),
            (.str (text "start"), .int 12), (.str (text "end"), .int 12),
            (.str (text "expected"), .list [.str (text "]"), .str [0x5C]]),
            (.str (text "found"), .str [])]) := by
  intro style diagnostic
  have within : ∀ field ∈ style.fields diagnostic, field.2.Within standardMaxDigits := by decide
  exact Loader.loads_format style rfl diagnostic standardMaxDigits within

end Document

end Descent
