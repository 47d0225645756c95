import Grounding.Template.FormatSpec

/-!
# What can go wrong with a value in a template

`EndsIn` says how a check ends: with a result that is wanted or with a failure that is allowed.
`EndsIn.bind` and the rules beside it carry it through checks in a row, so that there is one lemma
for each function that reads or lays out something.

A value in a template is written as its literal, or laid out as a format specification says. What
can go wrong with that is a refused specification, a use that the type does not allow, a number out
of range or with too many digits, and a text that is too long or nested too deeply
(`Failure.OfValue`). This holds within all limits.

Main statement: `Value.formatted_endsIn`.
-/

set_option autoImplicit false
set_option relaxedAutoImplicit false

namespace Grounding

/-! ### How checks end -/

/-- Nothing is asked of a result. -/
abbrev anything {α : Type} : α → Prop := fun _ ↦ True

section EndsIn

variable {ε α β : Type} {wanted : α → Prop} {allowed : ε → Prop} {final : β → Prop}

/-- A check that ends with a result of one kind or a failure of another. -/
def EndsIn (wanted : α → Prop) (allowed : ε → Prop) : Except ε α → Prop
  | .ok value => wanted value
  | .error failure => allowed failure

theorem EndsIn.bind {result : Except ε α} {next : α → Except ε β}
    (h : EndsIn wanted allowed result)
    (hnext : ∀ value, wanted value → EndsIn final allowed (next value)) :
    EndsIn final allowed (result >>= next) := by
  cases result with
  | ok value => exact hnext value h
  | error failure => exact h

theorem EndsIn.map {result : Except ε α} {f : α → β} (h : EndsIn wanted allowed result)
    (hf : ∀ value, wanted value → final (f value)) : EndsIn final allowed (result.map f) := by
  cases result with
  | ok value => exact hf value h
  | error failure => exact h

/-- With more failures allowed. -/
theorem EndsIn.weaken {other : ε → Prop} {result : Except ε α} (h : EndsIn wanted allowed result)
    (hother : ∀ failure, allowed failure → other failure) : EndsIn wanted other result := by
  cases result with
  | ok value => exact h
  | error failure => exact hother failure h

end EndsIn

/-- What can go wrong with a value that a field has found. -/
inductive Failure.OfValue : Failure → Prop
  | refused {fault : TemplateFault} (h : fault ≠ .positional) :
    OfValue (.argument (.template fault))
  | tooManyDigits (limit : Nat) : OfValue (.argument (.tooManyDigits limit))
  | mistyped (fault : TypeFault) : OfValue (.mistyped fault)
  | outOfRange (sequence : String) : OfValue (.outOfRange sequence)
  | overflow (fault : OverflowFault) : OfValue (.overflow fault)
  | tooLong : OfValue .tooLong
  | tooDeep : OfValue .tooDeep

theorem EndsIn.lift {α : Type} {wanted : α → Prop} {result : Except TemplateFault α}
    (h : EndsIn wanted (· ≠ .positional) result) :
    EndsIn wanted Failure.OfValue (TemplateFault.lift result) := by
  cases result with
  | ok value => exact h
  | error fault => exact .refused h

/-! ### Literals within limits -/

namespace Limits

variable (limits : Limits)

theorem checkDigits_endsIn (number : Int) :
    EndsIn anything Failure.OfValue (limits.checkDigits number) := by
  unfold checkDigits
  cases limits.digits with
  | none => exact trivial
  | some limit =>
    dsimp only
    split
    · exact .tooManyDigits limit
    · exact trivial

mutual

theorem checkLiteral_endsIn (depth : Nat) (value : Value) :
    EndsIn anything Failure.OfValue (limits.checkLiteral depth value) := by
  cases value with
  | int number => exact limits.checkDigits_endsIn number
  | list items => exact checkItems_endsIn depth items
  | dict entries => exact checkEntries_endsIn depth entries
  | record kind fields => exact checkEntries_endsIn depth fields
  | null => exact trivial
  | bool truth => exact trivial
  | float number => exact trivial
  | nan mark => exact trivial
  | text content => exact trivial
  | predicate mark rule => exact trivial

theorem checkItems_endsIn (depth : Nat) (items : List Value) :
    EndsIn anything Failure.OfValue (limits.checkItems depth items) := by
  cases items with
  | nil => exact trivial
  | cons value rest =>
    cases depth with
    | zero => exact .tooDeep
    | succ inner =>
      exact (checkLiteral_endsIn inner value).bind fun _ _ ↦ checkItems_endsIn (inner + 1) rest

theorem checkEntries_endsIn (depth : Nat) (entries : List (String × Value)) :
    EndsIn anything Failure.OfValue (limits.checkEntries depth entries) := by
  cases entries with
  | nil => exact trivial
  | cons entry rest =>
    obtain ⟨key, value⟩ := entry
    cases depth with
    | zero => exact .tooDeep
    | succ inner =>
      exact (checkLiteral_endsIn inner value).bind fun _ _ ↦ checkEntries_endsIn (inner + 1) rest

end

theorem literal_endsIn (value : Value) :
    EndsIn anything Failure.OfValue (limits.literal value) :=
  (limits.checkLiteral_endsIn _ value).bind fun _ _ ↦ trivial

theorem display_endsIn (value : Value) :
    EndsIn anything Failure.OfValue (limits.display value) := by
  unfold display
  split
  · exact trivial
  · exact limits.literal_endsIn _

end Limits

/-! ### Reading numbers and specifications -/

theorem readNumberFrom_endsIn (value : Nat) (text : List Char) :
    EndsIn anything (· ≠ .positional) (readNumberFrom value text) := by
  induction text generalizing value with
  | nil => exact trivial
  | cons c rest ih =>
    rw [readNumberFrom]
    cases Text.decimalValue? c with
    | none => exact trivial
    | some digit =>
      dsimp only
      split
      · exact TemplateFault.noConfusion
      · exact ih _

theorem readNumber_endsIn (text : List Char) :
    EndsIn anything (· ≠ .positional) (readNumber text) :=
  (readNumberFrom_endsIn 0 text).map fun _ _ ↦ trivial

theorem readIndex_endsIn (text : List Char) :
    EndsIn anything (· ≠ .positional) (readIndex text) :=
  (readNumber_endsIn text).map fun _ _ ↦ trivial

namespace FormatSpec

theorem readSeparator_endsIn (text : List Char) :
    EndsIn anything (· ≠ .positional) (readSeparator text) := by
  unfold readSeparator
  split
  · exact TemplateFault.noConfusion
  · exact TemplateFault.noConfusion
  · exact trivial
  · exact trivial
  · exact trivial

theorem readPrecision_endsIn (text : List Char) :
    EndsIn anything (· ≠ .positional) (readPrecision text) := by
  unfold readPrecision
  split
  · refine (readNumber_endsIn _).bind fun number _ ↦ ?_
    dsimp only
    split
    · exact TemplateFault.noConfusion
    · exact trivial
  · exact trivial

theorem groupingFor_endsIn (presentation : Char) (separator : Option Char) :
    EndsIn anything (· ≠ .positional) (groupingFor presentation separator) := by
  unfold groupingFor
  cases separator with
  | none => exact trivial
  | some separator =>
    dsimp only
    split
    · exact trivial
    · split
      · exact trivial
      · exact TemplateFault.noConfusion

theorem read_endsIn (presentation : Char) (align : Alignment) (typeName : String)
    (text : List Char) :
    EndsIn anything (· ≠ .positional) (FormatSpec.read presentation align typeName text) := by
  unfold FormatSpec.read
  obtain ⟨fill, chosen, afterAlign⟩ := readAlign text
  obtain ⟨sign, afterSign⟩ := readSign afterAlign
  obtain ⟨positiveZero, afterZero⟩ := readMark 'z' afterSign
  obtain ⟨alternate, afterMark⟩ := readMark '#' afterZero
  dsimp only
  refine (readNumber_endsIn _).bind fun width _ ↦ ?_
  refine (readSeparator_endsIn _).bind fun separator _ ↦ ?_
  refine (readPrecision_endsIn _).bind fun precision _ ↦ ?_
  split
  · exact (groupingFor_endsIn _ _).bind fun _ _ ↦ trivial
  · exact (groupingFor_endsIn _ _).bind fun _ _ ↦ trivial
  · exact TemplateFault.noConfusion

/-! ### Laying out -/

theorem laid_endsIn (limits : Limits) (asked : Nat) (text : Unit → List Char) :
    EndsIn anything Failure.OfValue (laid limits asked text) := by
  unfold laid
  split
  · exact trivial
  · exact .tooLong

variable (spec : FormatSpec) (limits : Limits)

theorem textFault?_ne : spec.textFault? ≠ some .positional := by
  unfold textFault?
  repeat' split
  all_goals simp

theorem layText_endsIn (text : List Char) :
    EndsIn anything Failure.OfValue (spec.layText limits text) := by
  unfold layText
  cases hfault : spec.textFault? with
  | none => exact laid_endsIn limits _ _
  | some fault =>
    refine .refused ?_
    rintro rfl
    exact spec.textFault?_ne hfault

theorem layCharacter_endsIn (number : Int) :
    EndsIn anything Failure.OfValue (spec.layCharacter limits number) := by
  unfold layCharacter
  split
  · exact .refused TemplateFault.noConfusion
  · split
    · exact .refused TemplateFault.noConfusion
    · split
      · exact .overflow _
      · split
        · exact .overflow _
        · exact laid_endsIn limits _ _

theorem layFloat_endsIn (x : Float) :
    EndsIn anything Failure.OfValue (spec.layFloat limits x) := by
  unfold layFloat
  split
  · exact .refused TemplateFault.noConfusion
  · exact laid_endsIn limits _ _

theorem layBased_endsIn (number : Int) :
    EndsIn anything Failure.OfValue (spec.layBased limits number) := by
  unfold layBased
  split
  · exact (limits.checkDigits_endsIn number).bind fun _ _ ↦ laid_endsIn limits _ _
  · exact laid_endsIn limits _ _

theorem layInteger_endsIn (typeName : String) (number : Int) :
    EndsIn anything Failure.OfValue (spec.layInteger limits typeName number) := by
  unfold layInteger
  split
  · cases Binary64.ofInt? number with
    | none => exact .overflow _
    | some x => exact spec.layFloat_endsIn limits x
  · split
    · exact .refused TemplateFault.noConfusion
    · split
      · exact .refused TemplateFault.noConfusion
      · split
        · exact .refused TemplateFault.noConfusion
        · split
          · exact spec.layCharacter_endsIn limits number
          · exact spec.layBased_endsIn limits number

theorem floatFormatted_endsIn (x : Float) (text : List Char) :
    EndsIn anything Failure.OfValue (floatFormatted limits x text) := by
  unfold floatFormatted
  refine (read_endsIn _ _ _ _).lift.bind fun spec _ ↦ ?_
  split
  · exact spec.layFloat_endsIn limits x
  · exact .refused TemplateFault.noConfusion

end FormatSpec

theorem Value.formatted_endsIn (limits : Limits) (value : Value) (text : List Char) :
    EndsIn anything Failure.OfValue (value.formatted limits text) := by
  unfold Value.formatted
  split
  · exact (limits.display_endsIn value).map fun _ _ ↦ trivial
  · have hread := fun presentation align ↦
      (FormatSpec.read_endsIn presentation align value.typeName text).lift
    cases value with
    | text content => exact (hread _ _).bind fun spec _ ↦ spec.layText_endsIn limits _
    | int number => exact (hread _ _).bind fun spec _ ↦ spec.layInteger_endsIn limits _ _
    | bool truth => exact (hread _ _).bind fun spec _ ↦ spec.layInteger_endsIn limits _ _
    | float number => exact FormatSpec.floatFormatted_endsIn limits _ _
    | nan mark => exact FormatSpec.floatFormatted_endsIn limits _ _
    | null => exact .mistyped _
    | list items => exact .mistyped _
    | dict entries => exact .mistyped _
    | predicate mark rule => exact .mistyped _
    | record kind fields => exact .mistyped _

end Grounding
