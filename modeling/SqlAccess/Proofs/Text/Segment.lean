import Mathlib.Data.List.Infix
import SqlAccess.Text.Listing

/-!
# Segments

The list of definitions in the text of a table is taken apart again at its commas.
A comma inside a string literal or inside parentheses belongs to one definition, so
the reader keeps its `Place`: whether a literal is open, and how many parentheses
are.  Inside a literal parentheses do not count.

A text is `Solid` at a depth if the reader that comes to it at that depth finds no
separator in it and leaves it at the same place.  Solid texts can be put together
(`Solid.append`, `Solid.enclosed`), and a listing of solid texts is taken apart into
just these texts (`segments_listing`).

Names and types are given from outside.  They may have parentheses and commas of
their own, as `NUMERIC(10, 2)` has, and are solid if they are tidy (`IsTidy.solid`):
no prefix closes more parentheses than it opens, so the reader is never further out
behind a prefix than it was before the text.
-/

namespace SqlAccess.Text

/-- Where a reader is. -/
structure Place where
  /-- Whether a literal is open. -/
  inLiteral : Bool := false
  /-- The number of open parentheses. -/
  depth : Nat := 0
  deriving DecidableEq, Repr

namespace Place

/-- The place behind one more character. -/
def next (place : Place) (c : Char) : Place :=
  if c = '\'' then { place with inLiteral := !place.inLiteral }
  else if place.inLiteral then place
  else if c = '(' then { place with depth := place.depth + 1 }
  else if c = ')' then { place with depth := place.depth - 1 }
  else place

/-- The place behind characters. -/
def after (place : Place) (chars : List Char) : Place :=
  chars.foldl next place

/-- A comma separates two segments outside literals and outside parentheses. -/
def separates (place : Place) (c : Char) : Bool :=
  c == ',' && !place.inLiteral && place.depth == 0

/-- Whether none of the characters separates two segments. -/
def unseparated (place : Place) : List Char → Bool
  | [] => true
  | c :: rest => !place.separates c && (place.next c).unseparated rest

@[simp] theorem after_nil (place : Place) : place.after [] = place := rfl

@[simp] theorem after_cons (place : Place) (c : Char) (rest : List Char) :
    place.after (c :: rest) = (place.next c).after rest := rfl

@[simp] theorem after_append (place : Place) (first second : List Char) :
    place.after (first ++ second) = (place.after first).after second :=
  List.foldl_append

@[simp] theorem unseparated_nil (place : Place) : place.unseparated [] = true := rfl

theorem unseparated_cons (place : Place) (c : Char) (rest : List Char) :
    place.unseparated (c :: rest) = (!place.separates c && (place.next c).unseparated rest) :=
  rfl

@[simp] theorem unseparated_append (place : Place) (first second : List Char) :
    place.unseparated (first ++ second) =
      (place.unseparated first && (place.after first).unseparated second) := by
  induction first generalizing place with
  | nil => simp
  | cons c first ih => simp [unseparated_cons, ih, Bool.and_assoc]

end Place

/-! ## Taking a text apart -/

/-- The segments between the separators of characters that start at a place. -/
def segmentsFrom (place : Place) : List Char → List (List Char)
  | [] => [[]]
  | c :: rest =>
    if place.separates c then [] :: segmentsFrom (place.next c) rest
    else (segmentsFrom (place.next c) rest).modifyHead (c :: ·)

/-- Characters without the blank that a listing puts behind a comma. -/
def withoutBlank : List Char → List Char
  | ' ' :: rest => rest
  | chars => chars

/-- The segments of a text. -/
def segments (text : String) : List String :=
  match segmentsFrom {} text.toList with
  | [] => []
  | first :: others => String.ofList first :: others.map (String.ofList ∘ withoutBlank)

example : segments "a NUMERIC(10, 2), b TEXT DEFAULT ',('" =
    ["a NUMERIC(10, 2)", "b TEXT DEFAULT ',('"] := by decide +kernel

theorem segmentsFrom_append {place : Place} {chars : List Char}
    (h : place.unseparated chars = true) (rest : List Char) :
    segmentsFrom place (chars ++ rest) =
      (segmentsFrom (place.after chars) rest).modifyHead (chars ++ ·) := by
  induction chars generalizing place with
  | nil =>
      rw [List.nil_append, Place.after_nil]
      exact (congrFun List.modifyHead_id _).symm
  | cons c chars ih =>
      rw [Place.unseparated_cons, Bool.and_eq_true, Bool.not_eq_true'] at h
      obtain ⟨hfirst, hrest⟩ := h
      rw [List.cons_append, segmentsFrom, if_neg (by simp [hfirst]), ih hrest, Place.after_cons]
      cases segmentsFrom ((place.next c).after chars) rest <;> simp

/-! ## Solid texts -/

/-- A reader at the depth finds no separator in the text and is at the same place
behind it. -/
structure Solid (depth : Nat) (text : String) : Prop where
  after_eq : Place.after { depth } text.toList = { depth }
  unseparated : Place.unseparated { depth } text.toList = true

section

variable {depth : Nat} {text other separator : String} {texts : List String}

instance : Decidable (Solid depth text) :=
  decidable_of_iff
    (Place.after { depth } text.toList = { depth } ∧
      Place.unseparated { depth } text.toList = true)
    ⟨fun ⟨hafter, hunseparated⟩ => ⟨hafter, hunseparated⟩,
      fun ⟨hafter, hunseparated⟩ => ⟨hafter, hunseparated⟩⟩

theorem solid_empty (depth : Nat) : Solid depth "" := ⟨rfl, rfl⟩

theorem Solid.append (h : Solid depth text) (hother : Solid depth other) :
    Solid depth (text ++ other) where
  after_eq := by
    rw [String.toList_append, Place.after_append, h.after_eq, hother.after_eq]
  unseparated := by
    rw [String.toList_append, Place.unseparated_append, h.after_eq, h.unseparated,
      hother.unseparated, Bool.and_self]

theorem Solid.intercalate (hseparator : Solid depth separator)
    (h : ∀ text ∈ texts, Solid depth text) : Solid depth (separator.intercalate texts) := by
  induction texts with
  | nil => exact solid_empty depth
  | cons text texts ih =>
      rw [List.forall_mem_cons] at h
      cases texts with
      | nil => simpa using h.1
      | cons second texts =>
          rw [String.intercalate_cons_cons]
          exact (h.1.append hseparator).append (ih h.2)

/-- Inside parentheses a comma separates nothing. -/
theorem solid_comma (depth : Nat) : Solid (depth + 1) ", " where
  after_eq := by simp [Place.next]
  unseparated := by simp [Place.unseparated_cons, Place.separates, Place.next]

theorem Solid.enclosed (h : Solid (depth + 1) text) : Solid depth ("(" ++ text ++ ")") where
  after_eq := by
    have hopen : Place.next { depth } '(' = { depth := depth + 1 } := by simp [Place.next]
    have hclose : Place.next { depth := depth + 1 } ')' = { depth } := by simp [Place.next]
    simp [hopen, h.after_eq, hclose]
  unseparated := by
    have hopen : Place.next { depth } '(' = { depth := depth + 1 } := by simp [Place.next]
    simp [Place.unseparated_cons, Place.separates, hopen, h.after_eq, h.unseparated]

/-- A character that leaves the reader where it is. -/
def IsOrdinary (c : Char) : Prop :=
  c ≠ '\'' ∧ c ≠ '?' ∧ c ≠ ',' ∧ c ≠ '(' ∧ c ≠ ')'

instance : DecidablePred IsOrdinary := fun _ => inferInstanceAs (Decidable (_ ∧ _))

theorem IsOrdinary.next_eq {c : Char} (h : IsOrdinary c) (place : Place) :
    place.next c = place := by
  obtain ⟨hquote, -, -, hopen, hclose⟩ := h
  simp [Place.next, hquote, hopen, hclose]

theorem solid_of_forall_isOrdinary (h : ∀ c ∈ text.toList, IsOrdinary c) (depth : Nat) :
    Solid depth text := by
  have hboth : Place.after { depth } text.toList = { depth } ∧
      Place.unseparated { depth } text.toList = true := by
    revert h
    generalize text.toList = chars
    induction chars with
    | nil => exact fun _ => ⟨rfl, rfl⟩
    | cons c chars ih =>
        intro h
        rw [List.forall_mem_cons] at h
        have hcomma : c ≠ ',' := h.1.2.2.1
        simpa [Place.unseparated_cons, Place.separates, h.1.next_eq, hcomma] using ih h.2
  exact ⟨hboth.1, hboth.2⟩

/-! ## Tidy texts -/

/-- A text without quotes and question marks, in which parentheses are balanced and
commas stand only inside of them. -/
structure IsTidy (text : String) : Prop where
  no_quote : '\'' ∉ text.toList
  no_mark : '?' ∉ text.toList
  balanced : text.toList.count ')' = text.toList.count '('
  opened : ∀ start ∈ text.toList.inits, start.count ')' ≤ start.count '('
  enclosed : ∀ start ∈ text.toList.inits, start ++ [','] ∈ text.toList.inits →
    start.count ')' < start.count '('

instance : Decidable (IsTidy text) :=
  decidable_of_iff
    ('\'' ∉ text.toList ∧ '?' ∉ text.toList ∧ text.toList.count ')' = text.toList.count '(' ∧
      (∀ start ∈ text.toList.inits, start.count ')' ≤ start.count '(') ∧
      ∀ start ∈ text.toList.inits, start ++ [','] ∈ text.toList.inits →
        start.count ')' < start.count '(')
    ⟨fun ⟨hquote, hmark, hbalanced, hopened, henclosed⟩ =>
        ⟨hquote, hmark, hbalanced, hopened, henclosed⟩,
      fun ⟨hquote, hmark, hbalanced, hopened, henclosed⟩ =>
        ⟨hquote, hmark, hbalanced, hopened, henclosed⟩⟩

example : IsTidy "NUMERIC(10, 2)" := by decide +kernel
example : ¬ IsTidy ")(" := by decide +kernel

/-- What one character of a text does to the number of open parentheses, at whatever
depth the text stands. -/
theorem exists_next_eq {inner : Nat} {c : Char} (hquote : c ≠ '\'')
    (hclose : c = ')' → 0 < inner) (depth : Nat) :
    ∃ after : Nat, Place.next { depth := depth + inner } c = { depth := depth + after } ∧
      ∀ start : List Char, inner + (c :: start).count '(' + start.count ')' =
        after + start.count '(' + (c :: start).count ')' := by
  by_cases hopening : c = '('
  · refine ⟨inner + 1, by simp [Place.next, hopening, Nat.add_assoc], fun start => ?_⟩
    simp only [hopening, List.count_cons_self, List.count_cons_of_ne (show '(' ≠ ')' by decide)]
    omega
  by_cases hclosing : c = ')'
  · have hinner := hclose hclosing
    refine ⟨inner - 1, ?_, fun start => ?_⟩
    · simp only [Place.next, hclosing]
      simp only [show (')' : Char) ≠ '\'' by decide, show (')' : Char) ≠ '(' by decide, if_false,
        if_true, Bool.false_eq_true, Place.mk.injEq, true_and]
      omega
    · simp only [hclosing, List.count_cons_self, List.count_cons_of_ne (show ')' ≠ '(' by decide)]
      omega
  · refine ⟨inner, by simp [Place.next, hquote, hopening, hclosing], fun start => ?_⟩
    rw [List.count_cons_of_ne hopening, List.count_cons_of_ne hclosing]

/-- Characters that stand inside `inner` parentheses of their own text. -/
theorem walk_of_opened (inner : Nat) {chars : List Char} (hquote : '\'' ∉ chars)
    (hopened : ∀ start, start <+: chars → start.count ')' ≤ inner + start.count '(')
    (henclosed : ∀ start, start ++ [','] <+: chars → start.count ')' < inner + start.count '(')
    (depth : Nat) :
    Place.after { depth := depth + inner } chars =
        { depth := depth + (inner + chars.count '(' - chars.count ')') } ∧
      Place.unseparated { depth := depth + inner } chars = true := by
  induction chars generalizing inner with
  | nil => simp
  | cons c rest ih =>
      rw [List.mem_cons, not_or] at hquote
      have hclose : c = ')' → 0 < inner := by
        rintro rfl
        have hfirst := hopened [')'] (List.cons_prefix_cons.mpr ⟨rfl, List.nil_prefix⟩)
        simpa [Nat.succ_le_iff] using hfirst
      have hcomma : c = ',' → 0 < inner := by
        rintro rfl
        have hfirst := henclosed [] (List.cons_prefix_cons.mpr ⟨rfl, List.nil_prefix⟩)
        simpa using hfirst
      have hkept : Place.separates { depth := depth + inner } c = false := by
        by_cases hc : c = ','
        · have hinner := hcomma hc
          simp [Place.separates]
          omega
        · simp [Place.separates, hc]
      obtain ⟨after, hnext, hcounts⟩ := exists_next_eq (Ne.symm hquote.1) hclose depth
      obtain ⟨hafter, hunseparated⟩ := ih after hquote.2
        (fun start hstart => by
          have hbefore := hopened (c :: start) (List.cons_prefix_cons.mpr ⟨rfl, hstart⟩)
          have hcount := hcounts start
          omega)
        (fun start hstart => by
          have hbefore := henclosed (c :: start) (List.cons_prefix_cons.mpr ⟨rfl, hstart⟩)
          have hcount := hcounts start
          omega)
      have hcount := hcounts rest
      have htotal : inner + (c :: rest).count '(' - (c :: rest).count ')' =
          after + rest.count '(' - rest.count ')' := by omega
      rw [Place.after_cons, Place.unseparated_cons, hnext, hafter, hunseparated, hkept, htotal]
      exact ⟨rfl, rfl⟩

theorem IsTidy.solid (h : IsTidy text) (depth : Nat) : Solid depth text := by
  have hwalk := walk_of_opened 0 h.no_quote
    (fun start hstart => by simpa using h.opened start ((List.mem_inits _ _).mpr hstart))
    (fun start hstart => by
      have hbefore := (List.prefix_append start [',']).trans hstart
      simpa using h.enclosed start ((List.mem_inits _ _).mpr hbefore)
        ((List.mem_inits _ _).mpr hstart))
    depth
  have hbalanced := h.balanced
  constructor
  · simpa [hbalanced] using hwalk.1
  · exact hwalk.2

end

/-! ## Listings -/

/-- The blanks behind the separators open the segments that follow. -/
theorem segmentsFrom_listing {text : String} {texts : List String}
    (h : ∀ part ∈ text :: texts, Solid 0 part) :
    segmentsFrom {} (listing (text :: texts)).toList =
      text.toList :: texts.map fun part => ' ' :: part.toList := by
  rw [toList_listing]
  induction texts generalizing text with
  | nil =>
      rw [List.forall_mem_singleton] at h
      have hsingle := segmentsFrom_append h.unseparated []
      rw [h.after_eq, List.append_nil] at hsingle
      simpa [List.intercalate, segmentsFrom] using hsingle
  | cons second texts ih =>
      rw [List.forall_mem_cons] at h
      have hrest := ih h.2
      have hcomma : Place.separates {} ',' = true := by decide
      have hblank : Place.separates {} ' ' = false := by decide
      have hsame : Place.next {} ',' = {} ∧ Place.next {} ' ' = {} := by decide
      have hsplit : [',', ' '].intercalate ((text :: second :: texts).map String.toList) =
          text.toList ++ ',' :: ' ' ::
            [',', ' '].intercalate ((second :: texts).map String.toList) := by
        simp [List.intercalate]
      rw [hsplit, segmentsFrom_append h.1.unseparated, h.1.after_eq]
      simp only [segmentsFrom, hcomma, hblank, hsame.1, hsame.2, if_true, Bool.false_eq_true,
        if_false, hrest, List.modifyHead_cons, List.append_nil]
      rfl

/-- A listing of solid texts has these texts as its segments. -/
theorem segments_listing {texts : List String} (hne : texts ≠ [])
    (h : ∀ text ∈ texts, Solid 0 text) : segments (listing texts) = texts := by
  cases texts with
  | nil => exact absurd rfl hne
  | cons text texts =>
      rw [segments, segmentsFrom_listing h]
      simp [Function.comp_def, withoutBlank]

end SqlAccess.Text
