import SqlAccess.Statement
import SqlAccess.Text.Blank

/-!
# Binding parameters

An engine puts the parameters of a statement in the places of its placeholders, from
left to right.  What comes of it are pieces, characters of the text and values
(`Piece.bound`).  Statements are worded part by part, and their parameters are
collected apart from that, so the question is whether each value gets into the part
that it was meant for.

It does if every part has balanced quotes and takes as many values as were collected
for it (`Takes`): then no literal reaches beyond its part, so parts can be bound one
by one and put together afterwards (`Binds.append`, `BindsEach.intercalate`).
-/

namespace SqlAccess

open SqlAccess.Text (isBlankText)

/-! ## Bound texts -/

/-- A piece of a bound text. -/
inductive Piece where
  | char (c : Char)
  | value (value : Value)

namespace Piece

/-- A text as it stands. -/
def verbatim (text : String) : List Piece :=
  text.toList.map .char

/-- Puts values in the places of the question marks outside single-quoted literals,
where `inLiteral` tells whether the characters start inside of one.  When the values
have run out the question marks stay. -/
def boundFrom (inLiteral : Bool) : List Char → List Value → List Piece
  | [], _ => []
  | c :: rest, values =>
    if c = '\'' then .char c :: boundFrom (!inLiteral) rest values
    else if c = '?' ∧ inLiteral = false then
      match values with
      | next :: values => .value next :: boundFrom inLiteral rest values
      | [] => .char c :: boundFrom inLiteral rest []
    else .char c :: boundFrom inLiteral rest values

/-- A text in which values are bound. -/
def bound (text : String) (values : List Value) : List Piece :=
  boundFrom false text.toList values

/-- Parts with a separator between them. -/
def listed (separator : String) (parts : List (List Piece)) : List Piece :=
  (verbatim separator).intercalate parts

end Piece

/-- A statement in which its parameters are bound. -/
def Statement.bound (statement : Statement) : List Piece :=
  Piece.bound statement.sql statement.params

open Piece (verbatim boundFrom bound listed)
open Statement (placeholdersFrom)

/-- A text has balanced quotes, and outside its literals as many placeholders. -/
structure Takes (count : Nat) (text : String) : Prop where
  balanced : text.toList.count '\'' % 2 = 0
  placeholders : placeholdersFrom false text.toList = count

instance (count : Nat) (text : String) : Decidable (Takes count text) :=
  decidable_of_iff
    (text.toList.count '\'' % 2 = 0 ∧ placeholdersFrom false text.toList = count)
    ⟨fun ⟨hbalanced, hplaceholders⟩ => ⟨hbalanced, hplaceholders⟩,
      fun ⟨hbalanced, hplaceholders⟩ => ⟨hbalanced, hplaceholders⟩⟩

/-! ## Scanning -/

/-- Whether a literal is open behind characters. -/
def literalAfter (inLiteral : Bool) : List Char → Bool
  | [] => inLiteral
  | c :: rest => literalAfter (if c = '\'' then !inLiteral else inLiteral) rest

theorem literalAfter_eq (inLiteral : Bool) (chars : List Char) :
    literalAfter inLiteral chars = (inLiteral ^^ decide (chars.count '\'' % 2 = 1)) := by
  induction chars generalizing inLiteral with
  | nil => simp [literalAfter]
  | cons c rest ih =>
      rw [literalAfter, ih, List.count_cons]
      by_cases hquote : c = '\''
      · have hparity : decide ((rest.count '\'' + 1) % 2 = 1) =
            !decide (rest.count '\'' % 2 = 1) := by
          rw [← decide_not, decide_eq_decide]
          omega
        simp [hquote, hparity]
      · simp [hquote]

theorem Takes.literalAfter_eq {count : Nat} {text : String} (h : Takes count text) :
    literalAfter false text.toList = false := by
  rw [SqlAccess.literalAfter_eq]
  simp [h.balanced]

theorem placeholdersFrom_append (inLiteral : Bool) (first second : List Char) :
    placeholdersFrom inLiteral (first ++ second) =
      placeholdersFrom inLiteral first +
        placeholdersFrom (literalAfter inLiteral first) second := by
  induction first generalizing inLiteral with
  | nil => simp [placeholdersFrom, literalAfter]
  | cons c first ih =>
      rw [List.cons_append, placeholdersFrom, placeholdersFrom, literalAfter]
      by_cases hquote : c = '\''
      · simp [hquote, ih]
      · by_cases hmark : c = '?' ∧ inLiteral = false
        · obtain ⟨rfl, rfl⟩ := hmark
          simp [ih, Nat.add_right_comm]
        · simp [hquote, hmark, ih]

/-- A first part that takes its values leaves the others to the second part. -/
theorem boundFrom_append {inLiteral : Bool} {first second : List Char}
    {values more : List Value} (h : placeholdersFrom inLiteral first = values.length) :
    boundFrom inLiteral (first ++ second) (values ++ more) =
      boundFrom inLiteral first values ++
        boundFrom (literalAfter inLiteral first) second more := by
  induction first generalizing inLiteral values with
  | nil =>
      have hvalues : values = [] := List.length_eq_zero_iff.mp h.symm
      simp [hvalues, boundFrom, literalAfter]
  | cons c first ih =>
      rw [placeholdersFrom] at h
      simp only [List.cons_append, boundFrom, literalAfter]
      by_cases hquote : c = '\''
      · simp only [hquote, if_true] at h ⊢
        rw [ih h, List.cons_append]
      · by_cases hmark : c = '?' ∧ inLiteral = false
        · obtain ⟨rfl, rfl⟩ := hmark
          -- the placeholder takes the first of the values
          cases values with
          | nil => simp at h
          | cons value values =>
              have hrest : placeholdersFrom false first = values.length := by simpa using h
              simp [ih hrest]
        · simp only [hquote, hmark, if_false] at h ⊢
          rw [ih h, List.cons_append]

theorem boundFrom_of_no_placeholders {inLiteral : Bool} {chars : List Char}
    (h : placeholdersFrom inLiteral chars = 0) :
    boundFrom inLiteral chars [] = chars.map .char := by
  induction chars generalizing inLiteral with
  | nil => rfl
  | cons c chars ih =>
      rw [placeholdersFrom] at h
      rw [boundFrom, List.map_cons]
      by_cases hquote : c = '\''
      · simp only [hquote, if_true] at h ⊢
        rw [ih h]
      · by_cases hmark : c = '?' ∧ inLiteral = false
        · obtain ⟨rfl, rfl⟩ := hmark
          simp at h
        · simp only [hquote, hmark, if_false] at h ⊢
          rw [ih h]

/-! ## Texts that take values -/

section

variable {text other : String} {count more : Nat}

theorem Takes.append (h : Takes count text) (hother : Takes more other) :
    Takes (count + more) (text ++ other) where
  balanced := by
    have hfirst := h.balanced
    have hsecond := hother.balanced
    rw [String.toList_append, List.count_append]
    omega
  placeholders := by
    rw [String.toList_append, placeholdersFrom_append, h.literalAfter_eq, h.placeholders,
      hother.placeholders]

theorem Takes.append_zero (h : Takes 0 text) (hother : Takes 0 other) : Takes 0 (text ++ other) :=
  h.append hother

/-- Without quotes and question marks there is nothing to take. -/
theorem takes_zero_of_forall (h : ∀ c ∈ text.toList, c ≠ '\'' ∧ c ≠ '?') : Takes 0 text where
  balanced := by
    rw [List.count_eq_zero.mpr fun hmem => (h _ hmem).1 rfl]
  placeholders := by
    revert h
    generalize text.toList = chars
    induction chars with
    | nil => exact fun _ => rfl
    | cons c chars ih =>
        intro h
        rw [List.forall_mem_cons] at h
        simp [placeholdersFrom, h.1, ih h.2]

theorem takes_numeral (number : Nat) : Takes 0 (toString number) := by
  refine takes_zero_of_forall fun c hc => ?_
  have hdigits : c ∈ Nat.toDigits 10 number := by
    simpa [Nat.toString_eq_repr, Nat.repr] using hc
  have hdigit : c.isDigit = true := Nat.isDigit_of_mem_toDigits (by decide) (by decide) hdigits
  constructor
  · rintro rfl
    exact absurd hdigit (by decide)
  · rintro rfl
    exact absurd hdigit (by decide)

theorem takes_zero_of_isBlankText (h : isBlankText text = true) : Takes 0 text := by
  refine takes_zero_of_forall fun c hc => ?_
  have hblank := List.all_eq_true.mp h c hc
  constructor
  · rintro rfl
    exact absurd hblank (by decide)
  · rintro rfl
    exact absurd hblank (by decide)

/-- A blank text takes nothing. -/
theorem Takes.eq_nil_of_isBlankText {values : List Value} (h : Takes values.length text)
    (hblank : isBlankText text = true) : values = [] := by
  have hlength := h.placeholders.symm.trans (takes_zero_of_isBlankText hblank).placeholders
  exact List.length_eq_zero_iff.mp hlength

end

/-! ## Parts -/

/-- A text takes values, and bound with them it is these pieces. -/
structure Binds (text : String) (values : List Value) (pieces : List Piece) : Prop where
  takes : Takes values.length text
  bound_eq : bound text values = pieces

/-- The same of each of several texts, where the values of all come one after the
other. -/
inductive BindsEach : List String → List Value → List (List Piece) → Prop where
  | nil : BindsEach [] [] []
  | cons {text : String} {values more : List Value} {pieces : List Piece}
      {texts : List String} {parts : List (List Piece)} :
      Binds text values pieces → BindsEach texts more parts →
        BindsEach (text :: texts) (values ++ more) (pieces :: parts)

section

variable {text other separator : String} {values more : List Value} {pieces rest : List Piece}
  {texts others : List String} {parts last : List (List Piece)}

theorem Takes.binds (h : Takes values.length text) : Binds text values (bound text values) :=
  ⟨h, rfl⟩

/-- A text without placeholders stays as it is. -/
theorem Takes.binds_verbatim (h : Takes 0 text) : Binds text [] (verbatim text) :=
  ⟨h, boundFrom_of_no_placeholders h.placeholders⟩

theorem Binds.statement {statement : Statement}
    (h : Binds statement.sql statement.params pieces) :
    statement.placeholderCount = statement.params.length ∧ statement.bound = pieces :=
  ⟨h.takes.placeholders, h.bound_eq⟩

theorem binds_placeholder (value : Value) : Binds "?" [value] [.value value] :=
  ⟨show Takes 1 "?" by decide, rfl⟩

theorem Binds.append (h : Binds text values pieces) (hother : Binds other more rest) :
    Binds (text ++ other) (values ++ more) (pieces ++ rest) where
  takes := by
    rw [List.length_append]
    exact h.takes.append hother.takes
  bound_eq := by
    rw [bound, String.toList_append, boundFrom_append h.takes.placeholders,
      h.takes.literalAfter_eq]
    rw [← h.bound_eq, ← hother.bound_eq]
    rfl

/-- A text without placeholders before a part. -/
theorem Binds.after (h : Binds text values pieces) (hother : Takes 0 other) :
    Binds (other ++ text) values (verbatim other ++ pieces) :=
  hother.binds_verbatim.append h

/-- A text without placeholders behind a part. -/
theorem Binds.before (h : Binds text values pieces) (hother : Takes 0 other) :
    Binds (text ++ other) values (pieces ++ verbatim other) := by
  have happend := h.append hother.binds_verbatim
  rwa [List.append_nil] at happend

theorem BindsEach.singleton (h : Binds text values pieces) :
    BindsEach [text] values [pieces] := by
  have hcons := BindsEach.cons h .nil
  rwa [List.append_nil] at hcons

theorem BindsEach.append (h : BindsEach texts values parts) (hothers : BindsEach others more last) :
    BindsEach (texts ++ others) (values ++ more) (parts ++ last) := by
  induction h with
  | nil => exact hothers
  | cons hfirst _ ih =>
      rw [List.append_assoc]
      exact .cons hfirst ih

theorem bindsEach_verbatim (h : ∀ text ∈ texts, Takes 0 text) :
    BindsEach texts [] (texts.map verbatim) := by
  induction texts with
  | nil => exact .nil
  | cons text texts ih =>
      rw [List.forall_mem_cons] at h
      exact .cons h.1.binds_verbatim (ih h.2)

theorem bindsEach_map {ι : Type} {items : List ι} {word : ι → String} {given : ι → List Value}
    {part : ι → List Piece} (h : ∀ item ∈ items, Binds (word item) (given item) (part item)) :
    BindsEach (items.map word) (items.flatMap given) (items.map part) := by
  induction items with
  | nil => exact .nil
  | cons item items ih =>
      rw [List.forall_mem_cons] at h
      exact .cons h.1 (ih h.2)

/-- Parts can be bound one by one. -/
theorem BindsEach.intercalate (h : BindsEach texts values parts) (hseparator : Takes 0 separator) :
    Binds (separator.intercalate texts) values (listed separator parts) := by
  induction h with
  | nil => exact ⟨show Takes 0 "" by decide, rfl⟩
  | @cons text values more pieces texts parts hfirst hrest ih =>
      cases hrest with
      | nil => simpa [listed, List.intercalate] using hfirst
      | @cons second secondValues others secondPieces rest restParts hsecond hothers =>
          have hall := (hfirst.before hseparator).append ih
          rw [String.intercalate_cons_cons]
          simpa [listed, List.intercalate, String.append_assoc] using hall

end

end SqlAccess
