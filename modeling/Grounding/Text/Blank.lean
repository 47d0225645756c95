import Grounding.Text.Ranges

/-!
White space in the sense of Unicode, with the four ASCII separators U+001C to U+001F.

* `isSpace` decides one character, `isBlank` a whole text.
* `strip` removes white space from both ends; `words` splits a text at white space.
* `isBlank_iff_strip`: a text is blank exactly when nothing is left of it.
* `strip_strip`: what `strip` leaves has nothing more to remove.
-/

set_option autoImplicit false
set_option relaxedAutoImplicit false

namespace Grounding.Text

/-- The white-space code points. -/
def spaceRanges : Ranges :=
  [(0x9, 0xD), (0x1C, 0x20), (0x85, 0x85), (0xA0, 0xA0), (0x1680, 0x1680), (0x2000, 0x200A),
    (0x2028, 0x2029), (0x202F, 0x202F), (0x205F, 0x205F), (0x3000, 0x3000)]

/-- Whether a character is white space. -/
def isSpace (c : Char) : Bool :=
  spaceRanges.covers c

/-- Whether a text holds nothing but white space. -/
def isBlank (text : String) : Bool :=
  text.toList.all isSpace

/-- The characters between the white space at both ends. -/
def stripChars (text : List Char) : List Char :=
  ((text.dropWhile isSpace).reverse.dropWhile isSpace).reverse

/-- A text without the white space at its ends. -/
def strip (text : String) : String :=
  String.ofList (stripChars text.toList)

/-- The words of a text; `word` holds the characters of the one being read, last first. -/
def wordsFrom (word : List Char) : List Char → List (List Char)
  | [] => if word.isEmpty then [] else [word.reverse]
  | c :: rest =>
    if isSpace c then
      if word.isEmpty then wordsFrom [] rest else word.reverse :: wordsFrom [] rest
    else wordsFrom (c :: word) rest

/-- The longest pieces of a text that are free of white space, in order. -/
def words (text : String) : List String :=
  (wordsFrom [] text.toList).map String.ofList

/-! ### Laws -/

theorem dropWhile_eq_nil_iff_all {p : Char → Bool} {text : List Char} :
    text.dropWhile p = [] ↔ text.all p = true := by
  induction text with
  | nil => simp
  | cons c rest ih => by_cases h : p c = true <;> simp [h, ih]

theorem dropWhile_idem (p : Char → Bool) (text : List Char) :
    (text.dropWhile p).dropWhile p = text.dropWhile p := by
  induction text with
  | nil => rfl
  | cons c rest ih =>
    by_cases h : p c = true
    · simpa [h] using ih
    · simp [h]

/-- The text has no character to drop exactly when it is empty or starts with a kept one. -/
theorem dropWhile_eq_self_iff {p : Char → Bool} {text : List Char} :
    text.dropWhile p = text ↔ ∀ c ∈ text.head?, p c = false := by
  cases text with
  | nil => simp
  | cons c rest =>
    by_cases h : p c = true
    · have hle := (List.dropWhile_sublist p (l := rest)).length_le
      simp only [h, List.dropWhile_cons_of_pos, List.head?_cons, Option.mem_def,
        Option.some.injEq, forall_eq', Bool.true_eq_false, iff_false]
      intro heq
      have := congrArg List.length heq
      simp only [List.length_cons] at this
      omega
    · simp [h]

/-- Dropping from the end keeps the first character, if it is one that is not dropped. -/
theorem dropWhile_reverse_dropWhile {p : Char → Bool} {text : List Char}
    (h : text.dropWhile p = text) :
    ((text.reverse.dropWhile p).reverse).dropWhile p = (text.reverse.dropWhile p).reverse := by
  cases text with
  | nil => rfl
  | cons c rest =>
    have hc : p c = false := dropWhile_eq_self_iff.1 h c rfl
    have hfront : ∀ tail : List Char, ∃ front, (tail ++ [c]).dropWhile p = front ++ [c] := by
      intro tail
      induction tail with
      | nil => exact ⟨[], by simp [hc]⟩
      | cons d tail ih =>
        by_cases hd : p d = true
        · simpa [hd] using ih
        · exact ⟨d :: tail, by simp [hd]⟩
    obtain ⟨front, hf⟩ := hfront rest.reverse
    rw [List.reverse_cons, hf]
    simp [hc]

theorem stripChars_eq_nil_iff {text : List Char} :
    stripChars text = [] ↔ text.all isSpace = true := by
  rw [stripChars, List.reverse_eq_nil_iff, dropWhile_eq_nil_iff_all, List.all_reverse,
    ← dropWhile_eq_nil_iff_all, ← dropWhile_eq_nil_iff_all, dropWhile_idem]

theorem isBlank_iff_strip {text : String} : isBlank text = true ↔ strip text = "" := by
  rw [isBlank, ← stripChars_eq_nil_iff, strip]
  constructor
  · intro h
    simp [h]
  · intro h
    have := congrArg String.toList h
    simpa using this

theorem stripChars_stripChars (text : List Char) :
    stripChars (stripChars text) = stripChars text := by
  unfold stripChars
  rw [dropWhile_reverse_dropWhile (dropWhile_idem isSpace text), List.reverse_reverse,
    dropWhile_idem]

theorem strip_strip (text : String) : strip (strip text) = strip text := by
  simp [strip, stripChars_stripChars]

end Grounding.Text
