import Descent.Diagnostic.Format

/-!
# What clipping lets through

A style that clips shows a diagnostic as the plain style would show it with its message, the found
input and the hint cut to the length. So the output is a function of what is left of the three
texts, whichever layout is chosen: what was cut off cannot be told from it.

The expected constructs are those of the grammar and are shown in full.
-/

namespace Descent

/-! ## Cut texts -/

namespace Text

/-- The first characters of a text, and three points in place of the others if there are any. -/
def cut (limit : Nat) (points : Text) : Text :=
  if limit < points.length then points.take limit ++ text "..." else points

/-- Both texts are one, or both are longer than the limit and the same up to there. -/
def AlikeTo (limit : Nat) (first second : Text) : Prop :=
  first = second ∨
    limit < first.length ∧ limit < second.length ∧ first.take limit = second.take limit

variable {limit : Nat} {first second points : Text}

theorem cut_of_lt (longer : limit < points.length) :
    points.cut limit = points.take limit ++ text "..." :=
  if_pos longer

/-- Texts that are alike up to the limit are cut to one text. -/
theorem AlikeTo.cut_eq (alike : AlikeTo limit first second) :
    first.cut limit = second.cut limit := by
  rcases alike with rfl | ⟨longer, longerToo, same⟩
  · rfl
  · rw [cut_of_lt longer, cut_of_lt longerToo, same]

/-- Nothing is cut down to nothing. -/
@[simp] theorem isEmpty_cut (limit : Nat) (points : Text) :
    (points.cut limit).isEmpty = points.isEmpty := by
  unfold cut
  split
  · next longer =>
      have some : points ≠ [] := List.length_pos_iff.mp (by omega)
      rw [List.isEmpty_eq_false_iff.mpr some]
      simp [text]
  · rfl

/-- A text that is joined with others stands among them. -/
theorem infix_join_of_mem {separator : Text} {texts : List Text} (held : points ∈ texts) :
    points <:+: join separator texts := by
  induction texts with
  | nil => cases held
  | cons first others inductionHypothesis =>
      cases others with
      | nil =>
          rw [List.mem_singleton.mp held]
          simp [join]
      | cons second rest =>
          rw [join, List.intercalate_cons_cons]
          rcases List.mem_cons.mp held with rfl | later
          · rw [List.append_assoc]
            exact (List.prefix_append _ _).isInfix
          · exact (inductionHypothesis later).trans (List.suffix_append _ _).isInfix

end Text

namespace Diagnostic

/-- The diagnostic with message, found input and hint cut. -/
def cut (limit : Nat) (diagnostic : Diagnostic) : Diagnostic :=
  { diagnostic with
    message := diagnostic.message.cut limit
    found := diagnostic.found.map (Text.cut limit)
    hint := diagnostic.hint.map (Text.cut limit) }

/-- The diagnostics are the same but for what message, found input and hint have behind the limit,
where they are longer. -/
structure AlikeTo (limit : Nat) (first second : Diagnostic) : Prop where
  code : first.code = second.code
  span : first.span = second.span
  position : first.position = second.position
  expected : first.expected = second.expected
  message : Text.AlikeTo limit first.message second.message
  found : Option.Rel (Text.AlikeTo limit) first.found second.found
  hint : Option.Rel (Text.AlikeTo limit) first.hint second.hint

variable {limit : Nat} {first second : Diagnostic}

theorem map_cut_eq {first second : Option Text}
    (alike : Option.Rel (Text.AlikeTo limit) first second) :
    first.map (Text.cut limit) = second.map (Text.cut limit) := by
  cases alike with
  | none => rfl
  | some alike => exact congrArg some alike.cut_eq

/-- Nothing else is left of diagnostics that are alike up to the limit. -/
theorem AlikeTo.cut_eq (alike : AlikeTo limit first second) :
    first.cut limit = second.cut limit := by
  simp only [cut, alike.code, alike.span, alike.position, alike.expected, alike.message.cut_eq,
    map_cut_eq alike.found, map_cut_eq alike.hint]

end Diagnostic

/-! ## Styles -/

namespace DiagnosticStyle

/-- The style without clipping. -/
def plain (style : DiagnosticStyle) : DiagnosticStyle := { style with sanitize := false }

/-- A text inside of the output: spelled as a string in the object form, as it is in the others. -/
def spell (style : DiagnosticStyle) (points : Text) : Text :=
  match style.layout with
  | .object => FieldValue.stringLiteral points
  | .block | .line => points

variable {style : DiagnosticStyle} {limit : Nat}

theorem clip_plain (style : DiagnosticStyle) (points : Text) : style.plain.clip points = points :=
  rfl

section Clipped

variable (sanitize : style.sanitize = true) (limited : style.maxContentLength = limit)

include sanitize limited

theorem clip_eq_cut (points : Text) : style.clip points = points.cut limit := by
  unfold clip Text.cut
  simp only [sanitize, limited, Bool.true_and, decide_eq_true_eq, Int.ofNat_lt]
  split
  · next longer =>
      have clamped : clampIndex points.length limit = limit := by
        rw [clampIndex, if_neg (by omega), Int.toNat_natCast]
        omega
      rw [clamped]
  · rfl

/-- The found input is clipped like any text. -/
theorem foundText?_eq_plain (diagnostic : Diagnostic) :
    style.foundText? diagnostic = style.plain.foundText? (diagnostic.cut limit) := by
  cases found : diagnostic.found with
  | none => simp [foundText?, Diagnostic.cut, found]
  | some points =>
      simp [foundText?, Diagnostic.cut, found, clip_eq_cut sanitize limited, clip_plain]

/-- The hint is clipped like any text, and one that is empty stays so. -/
theorem hintText?_eq_plain (diagnostic : Diagnostic) :
    style.hintText? diagnostic = style.plain.hintText? (diagnostic.cut limit) := by
  cases hint : diagnostic.hint with
  | none => simp [hintText?, Diagnostic.cut, hint]
  | some points =>
      cases empty : points.isEmpty <;>
        simp [hintText?, Diagnostic.cut, hint, Option.filter, empty,
          clip_eq_cut sanitize limited, clip_plain]

/-- A style that clips shows what the plain style shows of the diagnostic that is cut. -/
theorem format_eq_plain (diagnostic : Diagnostic) :
    style.format diagnostic = style.plain.format (diagnostic.cut limit) := by
  have message : style.clip diagnostic.message = style.plain.clip (diagnostic.cut limit).message :=
    clip_eq_cut sanitize limited _
  have found := foundText?_eq_plain sanitize limited diagnostic
  have hint := hintText?_eq_plain sanitize limited diagnostic
  have layout : style.plain.layout = style.layout := rfl
  unfold format
  rw [layout]
  cases style.layout with
  | block =>
      simp only [formatBlock, message, found, hint]
      rfl
  | line =>
      simp only [formatLine, message]
      rfl
  | object =>
      simp only [formatObject, fields, message, found, hint]
      rfl

end Clipped

/-! ## What is shown -/

/-- The texts of a diagnostic that a style shows. The line form has the message alone: it does not
depend on the other two, by `format_eq_of_line`. -/
inductive Shows (style : DiagnosticStyle) (diagnostic : Diagnostic) (points : Text) : Prop where
  | message (isMessage : diagnostic.message = points)
  | found (detailed : style.layout ≠ .line) (isFound : diagnostic.found = some points)
  | hint (detailed : style.layout ≠ .line) (isHint : diagnostic.hint = some points)

variable {diagnostic : Diagnostic} {points : Text}

/-- What is found and what is hinted at leave no trace on the line form. -/
theorem format_eq_of_line (line : style.layout = .line) (found hint : Option Text) :
    style.format { diagnostic with found, hint } = style.format diagnostic := by
  rw [format, format, line]
  exact formatLine_congr rfl rfl

/-- In the block form what is shown stands on a line of its own. -/
theorem Shows.clip_infix_formatBlock (shows : style.Shows diagnostic points)
    (nonempty : points ≠ []) : style.clip points <:+: style.formatBlock diagnostic := by
  cases shows with
  | message isMessage =>
      refine .trans ?_ (Text.infix_join_of_mem List.mem_cons_self)
      rw [isMessage]
      exact (List.suffix_append _ _).isInfix
  | found _ isFound =>
      refine .trans (List.suffix_append (text "  = found: ") _).isInfix (Text.infix_join_of_mem ?_)
      simp [foundText?, isFound]
  | hint _ isHint =>
      refine .trans (List.suffix_append (text "  = help: ") _).isInfix (Text.infix_join_of_mem ?_)
      simp [hintText?, isHint, Option.filter, nonempty]

/-- In the line form the message is all that is shown. -/
theorem Shows.clip_infix_formatLine (shows : style.Shows diagnostic points)
    (line : style.layout = .line) : style.clip points <:+: style.formatLine diagnostic := by
  cases shows with
  | message isMessage =>
      rw [formatLine, isMessage]
      exact (List.suffix_append _ _).isInfix
  | found detailed => exact absurd line detailed
  | hint detailed => exact absurd line detailed

/-- What a field holds stands in the object form. -/
theorem spelling_infix_formatObject {name : Text} {value : FieldValue}
    (held : (name, value) ∈ style.fields diagnostic) :
    value.spelling <:+: style.formatObject diagnostic := by
  have row : FieldValue.stringLiteral name ++ text ": " ++ value.spelling ∈
      (style.fields diagnostic).map fun field =>
        FieldValue.stringLiteral field.1 ++ text ": " ++ field.2.spelling :=
    List.mem_map.mpr ⟨(name, value), held, rfl⟩
  exact ((List.suffix_append _ _).isInfix.trans (Text.infix_join_of_mem row)).trans
    (List.infix_append _ _ _)

/-- In the object form what is shown is a string of a member. -/
theorem Shows.stringLiteral_infix_formatObject (shows : style.Shows diagnostic points)
    (nonempty : points ≠ []) :
    FieldValue.stringLiteral (style.clip points) <:+: style.formatObject diagnostic := by
  cases shows with
  | message isMessage =>
      have held : (text "message", .text (style.clip points)) ∈ style.fields diagnostic := by
        simp [fields, isMessage]
      exact spelling_infix_formatObject held
  | found _ isFound =>
      have held : (text "found", .text (style.clip points)) ∈ style.fields diagnostic := by
        simp [fields, foundText?, isFound]
      exact spelling_infix_formatObject held
  | hint _ isHint =>
      have held : (text "hint", .text (style.clip points)) ∈ style.fields diagnostic := by
        simp [fields, hintText?, isHint, Option.filter, nonempty]
      exact spelling_infix_formatObject held

/-- What a style shows stands in its output as the style clips and spells it. -/
theorem Shows.infix_format (shows : style.Shows diagnostic points) (nonempty : points ≠ []) :
    style.spell (style.clip points) <:+: style.format diagnostic := by
  unfold spell format
  cases layout : style.layout with
  | block => exact shows.clip_infix_formatBlock nonempty
  | line => exact shows.clip_infix_formatLine layout
  | object => exact shows.stringLiteral_infix_formatObject nonempty

/-- The place is what can keep a diagnostic from being formatted, and it is not clipped. -/
theorem placeIsWritable_eq_of_alike {first second : Diagnostic} (writes : Int → Bool)
    (alike : Diagnostic.AlikeTo limit first second) :
    style.placeIsWritable writes first = style.placeIsWritable writes second := by
  unfold DiagnosticStyle.placeIsWritable Diagnostic.placeIsWritable placeFields
  rw [alike.span, alike.position]

/-- Clipped output does not tell what was clipped. Diagnostics that are alike up to the limit have
one output, in each layout and with colour or without it, and whichever numbers may be written, they
have both an output or none; the output is the plain one of the diagnostic that is cut; and a text
that is too long stands in it as its first characters and three points. -/
theorem format_sanitized (sanitize : style.sanitize = true)
    (limited : style.maxContentLength = limit) :
    (∀ first second, Diagnostic.AlikeTo limit first second →
      style.format first = style.format second ∧
        ∀ writes, style.formatWithin writes first = style.formatWithin writes second) ∧
      ∀ diagnostic, style.format diagnostic = style.plain.format (diagnostic.cut limit) ∧
        ∀ points, style.Shows diagnostic points → limit < points.length →
          style.spell (points.take limit ++ text "...") <:+: style.format diagnostic := by
  refine ⟨fun first second alike => ?_, fun diagnostic => ⟨?_, fun points shows longer => ?_⟩⟩
  · have same : style.format first = style.format second := by
      rw [format_eq_plain sanitize limited, format_eq_plain sanitize limited, alike.cut_eq]
    refine ⟨same, fun writes => ?_⟩
    rw [formatWithin, formatWithin, placeIsWritable_eq_of_alike writes alike, same]
  · exact format_eq_plain sanitize limited diagnostic
  · have nonempty : points ≠ [] := List.length_pos_iff.mp (by omega)
    have shown := shows.infix_format nonempty
    rwa [clip_eq_cut sanitize limited, Text.cut_of_lt longer] at shown

/-- Two inputs that begin alike cannot be told apart by what is printed of them. -/
theorem format_sanitized_found :
    let style : DiagnosticStyle := { sanitize := true, maxContentLength := 9 }
    let rejected (found : Text) := Diagnostic.invalidInput (some found) none (some 0)
    style.format (rejected (text "password one")) = style.format (rejected (text "password two")) ∧
      text "password ..." <:+: style.format (rejected (text "password one")) := by
  intro style rejected
  have ⟨alike, content⟩ := @format_sanitized style 9 rfl rfl
  have same : Diagnostic.AlikeTo 9 (rejected (text "password one"))
      (rejected (text "password two")) := by
    constructor
    case message => exact .inr (by decide)
    case found => exact .some (.inr (by decide))
    case hint => exact .some (.inl rfl)
    all_goals simp only [rejected, Diagnostic.invalidInput]
  have shown := (content (rejected (text "password one"))).2 (text "password one")
    (.found (by decide) rfl) (by decide)
  exact ⟨(alike _ _ same).1, shown⟩

end DiagnosticStyle

end Descent
