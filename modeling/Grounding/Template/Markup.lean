import Grounding.Template.Fault

/-!
The markup of templates: literal characters, and fields between braces. A doubled brace is a literal
one. A field has a path, and may have a conversion after an exclamation mark and a format
specification after a colon; the specification may hold fields of its own.

* `Placeholder` is a field, `Placeholder.read` reads one from behind its opening brace.
* `Markup` is a template as a sequence of literals and fields that ends well or with a fault; what
  stands in front of a fault is kept.
* `Markup.ofChars` reads a template. `Placeholder.read_length`: a field takes up at least one
  character, so that reading comes to an end.
-/

set_option autoImplicit false
set_option relaxedAutoImplicit false

namespace Grounding

/-- A field of a template. -/
structure Placeholder where
  path : List Char
  conversion : Option Char := none
  spec : List Char := []
deriving DecidableEq, Repr

namespace Placeholder

/-- The path at the start of a field, with the character that ends it and the rest. Between
brackets every character but the closing bracket stands for itself. -/
def readPath (bracketed : Bool) : List Char → Except TemplateFault (List Char × Char × List Char)
  | [] => .error .unclosedField
  | c :: rest =>
    if bracketed then
      (readPath (c != ']') rest).map fun (path, stop, rest) ↦ (c :: path, stop, rest)
    else if c = '{' then .error .openInName
    else if c = '}' || c = ':' || c = '!' then .ok ([], c, rest)
    else (readPath (c == '[') rest).map fun (path, stop, rest) ↦ (c :: path, stop, rest)

/-- A format specification up to the brace that closes its field. -/
def readSpec (depth : Nat) : List Char → Except TemplateFault (List Char × List Char)
  | [] => .error .unclosedSpec
  | c :: rest =>
    if c = '}' then
      match depth with
      | 0 => .ok ([], rest)
      | depth + 1 => (readSpec depth rest).map fun (spec, rest) ↦ (c :: spec, rest)
    else
      (readSpec (if c = '{' then depth + 1 else depth) rest).map fun (spec, rest) ↦
        (c :: spec, rest)

/-- The conversion that a character asks for; the zero character asks for none. -/
def conversionOf (c : Char) : Option Char :=
  if c.toNat = 0 then none else some c

/-- A field, read from behind its opening brace. -/
def read (text : List Char) : Except TemplateFault (Placeholder × List Char) :=
  match readPath false text with
  | .error fault => .error fault
  | .ok (path, stop, rest) =>
    if stop = '}' then .ok (⟨path, none, []⟩, rest)
    else if stop = ':' then
      (readSpec 0 rest).map fun (spec, rest) ↦ (⟨path, none, spec⟩, rest)
    else
      match rest with
      | [] => .error .conversionMissing
      | [_] => .error .unclosedSpec
      | c :: next :: rest =>
        if next = '}' then .ok (⟨path, conversionOf c, []⟩, rest)
        else if next = ':' then
          (readSpec 0 rest).map fun (spec, rest) ↦ (⟨path, conversionOf c, spec⟩, rest)
        else .error .colonExpected

theorem readPath_length {bracketed : Bool} {text path rest : List Char} {stop : Char}
    (h : readPath bracketed text = .ok (path, stop, rest)) : rest.length < text.length := by
  induction text generalizing bracketed path with
  | nil => simp [readPath] at h
  | cons c tail ih =>
    have hmap : ∀ b, (readPath b tail).map (fun (p, s, r) ↦ (c :: p, s, r)) =
        .ok (path, stop, rest) → rest.length < tail.length := by
      intro b hb
      cases hr : readPath b tail with
      | error fault => simp [hr, Except.map] at hb
      | ok result =>
        obtain ⟨p, s, r⟩ := result
        simp only [hr, Except.map, Except.ok.injEq, Prod.mk.injEq] at hb
        obtain ⟨-, rfl, rfl⟩ := hb
        exact ih hr
    rw [readPath] at h
    simp only [List.length_cons]
    split at h
    · exact Nat.lt_succ_of_lt (hmap _ h)
    · split at h
      · exact absurd h (by simp)
      · split at h
        · simp only [Except.ok.injEq, Prod.mk.injEq] at h
          obtain ⟨-, -, rfl⟩ := h
          exact Nat.lt_succ_self _
        · exact Nat.lt_succ_of_lt (hmap _ h)

theorem readSpec_length {depth : Nat} {text spec rest : List Char}
    (h : readSpec depth text = .ok (spec, rest)) : rest.length < text.length := by
  induction text generalizing depth spec with
  | nil => simp [readSpec] at h
  | cons c tail ih =>
    have hmap : ∀ d, (readSpec d tail).map (fun (s, r) ↦ (c :: s, r)) = .ok (spec, rest) →
        rest.length < tail.length := by
      intro d hd
      cases hr : readSpec d tail with
      | error fault => simp [hr, Except.map] at hd
      | ok result =>
        obtain ⟨s, r⟩ := result
        simp only [hr, Except.map, Except.ok.injEq, Prod.mk.injEq] at hd
        obtain ⟨-, rfl⟩ := hd
        exact ih hr
    unfold readSpec at h
    simp only [List.length_cons]
    split at h
    · cases depth with
      | zero =>
        simp only [Except.ok.injEq, Prod.mk.injEq] at h
        obtain ⟨-, rfl⟩ := h
        exact Nat.lt_succ_self _
      | succ depth => exact Nat.lt_succ_of_lt (hmap _ h)
    · exact Nat.lt_succ_of_lt (hmap _ h)

/-- What is left behind a field is shorter than what the field was read from. -/
theorem read_length {text rest : List Char} {field : Placeholder}
    (h : read text = .ok (field, rest)) : rest.length < text.length := by
  have hspec : ∀ {make : List Char → Placeholder} {tail : List Char},
      (readSpec 0 tail).map (fun (s, r) ↦ (make s, r)) = .ok (field, rest) →
        rest.length < tail.length := by
    intro make tail hs
    cases hr : readSpec 0 tail with
    | error fault => simp [hr, Except.map] at hs
    | ok result =>
      obtain ⟨s, r⟩ := result
      simp only [hr, Except.map, Except.ok.injEq, Prod.mk.injEq] at hs
      obtain ⟨-, rfl⟩ := hs
      exact readSpec_length hr
  rw [read] at h
  split at h
  · exact absurd h (by simp)
  · rename_i path stop tail hpath
    have htail := readPath_length hpath
    split at h
    · simp only [Except.ok.injEq, Prod.mk.injEq] at h
      obtain ⟨-, rfl⟩ := h
      exact htail
    · split at h
      · exact Nat.lt_trans (hspec h) htail
      · split at h
        · exact absurd h (by simp)
        · exact absurd h (by simp)
        · rename_i c next tail' _
          simp only [List.length_cons] at htail
          split at h
          · simp only [Except.ok.injEq, Prod.mk.injEq] at h
            obtain ⟨-, rfl⟩ := h
            omega
          · split at h
            · have := hspec h
              omega
            · exact absurd h (by simp)

/-- The name at the start of a path, up to the first point or bracket. -/
def root (field : Placeholder) : List Char :=
  field.path.takeWhile fun c ↦ c != '.' && c != '['

/-- The steps of a path behind its name. -/
def trail (field : Placeholder) : List Char :=
  field.path.dropWhile fun c ↦ c != '.' && c != '['

end Placeholder

/-- A template as a sequence of literal characters and fields. -/
inductive Markup
  | done
  | broken (fault : TemplateFault)
  | literal (c : Char) (rest : Markup)
  | field (placeholder : Placeholder) (rest : Markup)
deriving DecidableEq, Repr

namespace Markup

/-- The markup of a template. -/
def ofChars : List Char → Markup
  | [] => .done
  | c :: text =>
    if c = '}' then
      match text with
      | '}' :: rest => .literal '}' (ofChars rest)
      | _ => .broken .loneClose
    else if c = '{' then
      match text with
      | [] => .broken .loneOpen
      | '{' :: rest => .literal '{' (ofChars rest)
      | text =>
        match h : Placeholder.read text with
        | .error fault => .broken fault
        | .ok (placeholder, rest) =>
          have := Placeholder.read_length h
          .field placeholder (ofChars rest)
    else .literal c (ofChars text)
termination_by text => text.length
decreasing_by all_goals simp_wf <;> omega

/-- The fields in front of a fault or the end. -/
def fields : Markup → List Placeholder
  | .done => []
  | .broken _ => []
  | .literal _ rest => rest.fields
  | .field placeholder rest => placeholder :: rest.fields

/-- The fault that a template ends with, if it does. -/
def fault? : Markup → Option TemplateFault
  | .done => none
  | .broken fault => some fault
  | .literal _ rest => rest.fault?
  | .field _ rest => rest.fault?

end Markup

end Grounding
