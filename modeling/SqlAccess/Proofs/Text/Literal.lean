import SqlAccess.Proofs.Statement.Binding
import SqlAccess.Proofs.Text.Segment
import SqlAccess.Text.Literal

/-!
# Reading literals

A reader of literals starts at a quote, takes two quotes for one, and stops at the
first quote that is not followed by another one.  It gets back what a literal was
written of, whatever that was, leaves what stands behind the literal, and reads nothing
but literals (`literalWithin_selfDelimiting`).

For the readers of statements a literal is closed in itself.  Its quotes come in
pairs, so behind it no literal is open, and inside it they see neither placeholders
(`takes_literal`) nor commas and parentheses (`solid_literal`).
-/

namespace SqlAccess.Text

/-! ## The reader -/

/-- Reads the rest of a literal: what it stands for, and what comes behind it. -/
def readInside (quote : Char) : List Char → Option (List Char × List Char)
  | [] => none
  | [c] => if c = quote then some ([], []) else none
  | c :: d :: rest =>
    if c = quote then
      if d = quote then (readInside quote rest).map fun (read, left) => (quote :: read, left)
      else some ([], d :: rest)
    else (readInside quote (d :: rest)).map fun (read, left) => (c :: read, left)

/-- Reads a literal: what it stands for, and what comes behind it. -/
def readLiteral (quote : Char) : List Char → Option (List Char × List Char)
  | [] => none
  | c :: rest => if c = quote then readInside quote rest else none

example : readLiteral '\'' "'it''s', 1".toList = some ("it's".toList, ", 1".toList) := by decide

section

variable {quote c : Char} {chars read rest : List Char}

theorem readInside_quote (h : rest.head? ≠ some quote) :
    readInside quote (quote :: rest) = some ([], rest) := by
  cases rest with
  | nil => simp [readInside]
  | cons d rest =>
      have hd : d ≠ quote := by simpa using h
      simp [readInside, hd]

theorem readInside_quote_quote (quote : Char) (rest : List Char) :
    readInside quote (quote :: quote :: rest) =
      (readInside quote rest).map fun (read, left) => (quote :: read, left) := by
  simp [readInside]

theorem readInside_cons (h : c ≠ quote) (rest : List Char) :
    readInside quote (c :: rest) =
      (readInside quote rest).map fun (read, left) => (c :: read, left) := by
  cases rest <;> simp [readInside, h]

theorem doubled_cons_self (quote : Char) (chars : List Char) :
    doubled [quote] (quote :: chars) = quote :: quote :: doubled [quote] chars := by
  rw [doubled_singleton, doubled_singleton, List.flatMap_cons, if_pos rfl]
  rfl

theorem doubled_cons_of_ne (h : c ≠ quote) (chars : List Char) :
    doubled [quote] (c :: chars) = c :: doubled [quote] chars := by
  rw [doubled_singleton, doubled_singleton, List.flatMap_cons, if_neg h]
  rfl

theorem readInside_doubled (h : rest.head? ≠ some quote) (chars : List Char) :
    readInside quote (doubled [quote] chars ++ quote :: rest) = some (chars, rest) := by
  induction chars with
  | nil => exact readInside_quote h
  | cons c chars ih =>
      by_cases hc : c = quote
      · rw [hc, doubled_cons_self, List.cons_append, List.cons_append, readInside_quote_quote, ih]
        rfl
      · rw [doubled_cons_of_ne hc, List.cons_append, readInside_cons hc, ih]
        rfl

/-- What is read inside a literal was written there, up to the first quote that is not
followed by another one. -/
theorem eq_of_readInside (h : readInside quote chars = some (read, rest)) :
    chars = doubled [quote] read ++ quote :: rest ∧ rest.head? ≠ some quote := by
  induction chars using readInside.induct quote generalizing read with
  | case1 => cases h
  | case2 =>
      rw [readInside, if_pos rfl] at h
      obtain ⟨rfl, rfl⟩ := Prod.mk.inj (Option.some.inj h)
      exact ⟨rfl, nofun⟩
  | case3 c hc =>
      rw [readInside, if_neg hc] at h
      cases h
  | case4 rest' ih =>
      -- two quotes, of which one is read
      rw [readInside_quote_quote] at h
      obtain ⟨⟨inner, left⟩, hinner, hpair⟩ := Option.map_eq_some_iff.mp h
      obtain ⟨rfl, rfl⟩ := Prod.mk.inj hpair
      obtain ⟨hwritten, hhead⟩ := ih hinner
      rw [hwritten, doubled_cons_self]
      exact ⟨rfl, hhead⟩
  | case5 d rest' hd =>
      have hhead : (d :: rest').head? ≠ some quote := fun h => hd (Option.some.inj h)
      rw [readInside_quote hhead] at h
      obtain ⟨rfl, rfl⟩ := Prod.mk.inj (Option.some.inj h)
      exact ⟨rfl, hhead⟩
  | case6 c d rest' hc ih =>
      rw [readInside_cons hc] at h
      obtain ⟨⟨inner, left⟩, hinner, hpair⟩ := Option.map_eq_some_iff.mp h
      obtain ⟨rfl, rfl⟩ := Prod.mk.inj hpair
      obtain ⟨hwritten, hhead⟩ := ih hinner
      rw [hwritten, doubled_cons_of_ne hc]
      exact ⟨rfl, hhead⟩

/-- A literal stands for what it was written of, and it ends where it was ended. -/
theorem readLiteral_append (h : rest.head? ≠ some quote) (chars : List Char) :
    readLiteral quote (literalChars [quote] chars ++ rest) = some (chars, rest) := by
  simp only [literalChars, List.append_assoc, List.cons_append, List.nil_append]
  rw [readLiteral, if_pos rfl]
  exact readInside_doubled h chars

/-- Nothing but a literal is read as one. -/
theorem eq_of_readLiteral (h : readLiteral quote chars = some (read, rest)) :
    chars = literalChars [quote] read ++ rest ∧ rest.head? ≠ some quote := by
  cases chars with
  | nil => cases h
  | cons c chars =>
      rw [readLiteral] at h
      by_cases hc : c = quote
      · rw [if_pos hc] at h
        obtain ⟨hwritten, hhead⟩ := eq_of_readInside h
        refine ⟨?_, hhead⟩
        simp [literalChars, hc, hwritten]
      · rw [if_neg hc] at h
        cases h

end

theorem toList_literalWithin (quote : Char) (text : String) :
    (literalWithin (.singleton quote) text).toList = literalChars [quote] text.toList := by
  rw [literalWithin, String.toList_ofList, String.toList_singleton]

/-- Whatever quotes a text contains and wherever they stand, its literal is read back as
this text, and what stands behind the literal is left.  Nothing else is read in this way,
and different texts have different literals. -/
theorem literalWithin_selfDelimiting (quote : Char) :
    (∀ text rest : String, rest.toList.head? ≠ some quote →
      readLiteral quote (literalWithin (.singleton quote) text ++ rest).toList =
        some (text.toList, rest.toList)) ∧
    (∀ input text rest : String,
      readLiteral quote input.toList = some (text.toList, rest.toList) →
        input = literalWithin (.singleton quote) text ++ rest ∧
          rest.toList.head? ≠ some quote) ∧
    Function.Injective (literalWithin (.singleton quote)) := by
  have hread : ∀ text rest : String, rest.toList.head? ≠ some quote →
      readLiteral quote (literalWithin (.singleton quote) text ++ rest).toList =
        some (text.toList, rest.toList) := by
    intro text rest hrest
    rw [String.toList_append, toList_literalWithin]
    exact readLiteral_append hrest text.toList
  refine ⟨hread, fun input text rest h => ?_, fun text other h => ?_⟩
  · obtain ⟨hwritten, hhead⟩ := eq_of_readLiteral h
    rw [← toList_literalWithin, ← String.toList_append] at hwritten
    exact ⟨String.toList_inj.mp hwritten, hhead⟩
  · have hboth := (hread text "" nofun).symm.trans (h ▸ hread other "" nofun)
    exact String.toList_inj.mp (Prod.mk.inj (Option.some.inj hboth)).1

/-- A text that begins and ends with quotes, and has a whole statement between them. -/
theorem literalWithin_selfDelimiting_statement :
    literalWithin "'" "'); DROP TABLE t; --''" = "'''); DROP TABLE t; --'''''" ∧
      ")".toList.head? ≠ some '\'' ∧
      readLiteral '\'' "'''); DROP TABLE t; --''''')".toList =
        some ("'); DROP TABLE t; --''".toList, ")".toList) := by
  have hliteral : literalWithin "'" "'); DROP TABLE t; --''" =
      "'''); DROP TABLE t; --'''''" := by decide
  have hrest : ")".toList.head? ≠ some '\'' := by decide
  have hread := (literalWithin_selfDelimiting '\'').1 "'); DROP TABLE t; --''" ")" hrest
  refine ⟨hliteral, hrest, ?_⟩
  rwa [show String.singleton '\'' = "'" from rfl, hliteral] at hread

theorem toList_literal (text : String) :
    (literal text).toList = literalChars ['\''] text.toList := by
  rw [literal, literalWithin, String.toList_ofList]
  rfl

theorem readLiteral_literal (text : String) :
    readLiteral '\'' (literal text).toList = some (text.toList, []) := by
  have hread := readLiteral_append (show ([] : List Char).head? ≠ some '\'' by decide) text.toList
  rwa [List.append_nil, ← toList_literal] at hread

/-! ## Readers that pass a literal -/

section

variable (chars : List Char)

theorem count_doubled : (doubled ['\''] chars).count '\'' = 2 * chars.count '\'' := by
  rw [doubled_singleton]
  induction chars with
  | nil => rfl
  | cons c chars ih =>
      rw [List.flatMap_cons, List.count_append, ih]
      by_cases hc : c = '\''
      · simp only [hc, if_true, List.count_cons_self, List.count_nil]
        omega
      · simp [hc]

theorem placeholdersFrom_doubled :
    Statement.placeholdersFrom true (doubled ['\''] chars) = 0 := by
  rw [doubled_singleton]
  induction chars with
  | nil => rfl
  | cons c chars ih =>
      rw [List.flatMap_cons]
      by_cases hc : c = '\''
      · simp [hc, Statement.placeholdersFrom, ih]
      · simp [hc, Statement.placeholdersFrom, ih]

/-- Inside a literal the reader passes everything. -/
theorem walk_doubled (depth : Nat) :
    Place.after ⟨true, depth⟩ (doubled ['\''] chars) = ⟨true, depth⟩ ∧
      Place.unseparated ⟨true, depth⟩ (doubled ['\''] chars) = true := by
  rw [doubled_singleton]
  induction chars with
  | nil => exact ⟨rfl, rfl⟩
  | cons c chars ih =>
      rw [List.flatMap_cons, Place.after_append, Place.unseparated_append]
      by_cases hc : c = '\''
      · have hpair : Place.after ⟨true, depth⟩ ['\'', '\''] = ⟨true, depth⟩ := by
          simp [Place.next]
        have hkept : Place.unseparated ⟨true, depth⟩ ['\'', '\''] = true := by
          simp [Place.unseparated_cons, Place.separates]
        rw [if_pos hc, hpair, hkept]
        exact ih
      · have hsame : Place.after ⟨true, depth⟩ [c] = ⟨true, depth⟩ := by
          simp [Place.next, hc]
        have hkept : Place.unseparated ⟨true, depth⟩ [c] = true := by
          simp [Place.unseparated_cons, Place.separates]
        rw [if_neg hc, hsame, hkept]
        exact ih

end

theorem solid_literal (text : String) (depth : Nat) : Solid depth (literal text) := by
  obtain ⟨hafter, hunseparated⟩ := walk_doubled text.toList depth
  have hopen : Place.next { depth } '\'' = ⟨true, depth⟩ := by simp [Place.next]
  have hclose : Place.next ⟨true, depth⟩ '\'' = { depth } := by simp [Place.next]
  constructor
  · simp [toList_literal, literalChars, hopen, hafter, hclose]
  · simp [toList_literal, literalChars, Place.unseparated_cons, Place.separates, hopen, hafter,
      hunseparated]

theorem takes_literal (text : String) : Takes 0 (literal text) where
  balanced := by
    have hcount := count_doubled text.toList
    rw [toList_literal, literalChars, List.count_append, List.count_append, hcount]
    simp only [List.count_singleton_self]
    omega
  placeholders := by
    have hinside := placeholdersFrom_doubled text.toList
    rw [toList_literal, literalChars, List.append_assoc, List.singleton_append,
      Statement.placeholdersFrom, if_pos rfl, Bool.not_false, placeholdersFrom_append, hinside]
    simp [Statement.placeholdersFrom]

end SqlAccess.Text
