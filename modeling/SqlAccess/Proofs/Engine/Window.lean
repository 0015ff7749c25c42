import SqlAccess.Engine
import SqlAccess.Proofs.Statement.FirstWord
import SqlAccess.Proofs.Statement.Wording

/-!
# Engines that evaluate a query

What an engine gives for a query is a sequence of rows in which the page has no part;
of these the offset drops some and the limit keeps some (`Evaluates`).
-/

namespace SqlAccess

/-- The rows that are left behind an offset and within a limit. -/
def ResultSet.window (limit : Option Nat) (offset : Nat) (result : ResultSet) : ResultSet :=
  { result with
    rows := match limit with
      | some count => (result.rows.drop offset).take count
      | none => result.rows.drop offset }

/-- A limit does not matter to a single row if there are none before it. -/
theorem window_window {limit : Option Positive} {offset : Nat} (h : limit = none ∨ offset = 0)
    (result : ResultSet) :
    (result.window (limit.map Positive.val) 0).window (some 1) offset =
      result.window (some 1) offset := by
  unfold ResultSet.window
  rcases limit with - | limit
  · simp
  · obtain rfl : offset = 0 := h.resolve_left nofun
    have hpos := limit.pos
    have hmin : min 1 limit.val = 1 := by omega
    simp [List.take_take, hmin]

/-- The engine evaluates a query against a table: whatever limit and page the query is
given, its statement is answered by the window of these on what the engine finds for the
query without them. -/
def Evaluates {ω : Type} [Engine ω] (table : String) (query : Query)
    (find : Handle → ω → Except Fault ResultSet × ω) : Prop :=
  ∀ handle world limit page statement,
    Statement.select table { query with limit, page } = .ok statement →
      Engine.execute handle statement world =
        ((find handle world).1.map (ResultSet.window (limit.map Positive.val)
          (({ query with limit, page } : Query).offset.getD 0)), (find handle world).2)

/-! ## An engine for one table -/

open SqlAccess.Text (isBlank wordsOf)

/-- A world with an engine that knows the names in a table. -/
structure Roster where
  names : List String

namespace Roster

/-- What the engine finds: all rows of the table. -/
def find (_ : Handle) (roster : Roster) : Except Fault ResultSet × Roster :=
  (.ok { columns := ["name"], rows := roster.names.map fun name => [.text name] }, roster)

/-- The number that a word denotes. -/
def numberOf (word : List Char) : Nat :=
  Nat.ofDigitChars 10 word 0

/-- The window that words ask for. -/
def windowOf : List (List Char) → ResultSet → ResultSet
  | [_, limit] => .window (some (numberOf limit)) 0
  | [_, limit, _, offset] => .window (some (numberOf limit)) (numberOf offset)
  | _ => id

instance : Engine Roster where
  connect _ _ roster := (.ok ⟨0⟩, roster)
  -- the first four words are those of the query for all rows
  execute handle statement roster :=
    ((find handle roster).1.map (windowOf ((wordsOf statement.sql.toList).drop 4)), roster)
  close _ roster := (.ok (), roster)
  inTransaction _ _ := false

theorem not_isBlank_of_isDigit {c : Char} (h : c.isDigit = true) : isBlank c = false := by
  have hcode : 48 ≤ c.toNat ∧ c.toNat ≤ 57 := by
    simpa [Char.isDigit, UInt32.le_iff_toNat_le] using h
  simp only [isBlank, Bool.or_eq_false_iff, Bool.and_eq_false_iff, decide_eq_false_iff_not,
    beq_eq_false_iff_ne]
  omega

theorem wordsOf_clause (keyword : String) (number : Nat) :
    wordsOf s!"{keyword} {number}".toList =
      wordsOf keyword.toList ++ [Nat.toDigits 10 number] := by
  have hink : ∀ c ∈ Nat.toDigits 10 number, isBlank c = false := fun c hc =>
    not_isBlank_of_isDigit (Nat.isDigit_of_mem_toDigits (by decide) (by decide) hc)
  have hclause : s!"{keyword} {number}" = " ".intercalate [keyword, toString number] := by
    rw [String.intercalate_cons_cons, String.intercalate_singleton]
    rfl
  rw [hclause, Text.wordsOf_intercalate, List.flatMap_cons, List.flatMap_singleton,
    Nat.toString_eq_repr, Nat.toList_repr, Text.wordsOf_of_ne_nil Nat.toDigits_ne_nil hink]

theorem numberOf_toDigits (number : Nat) : numberOf (Nat.toDigits 10 number) = number :=
  Nat.ofDigitChars_ten_toDigits

/-- The words of the query for all rows come first, those of the page behind them. -/
theorem drop_wordsOf (clauses : List String) :
    (wordsOf (" ".intercalate (({} : Query).parts "t" ++ clauses)).toList).drop 4 =
      clauses.flatMap fun clause => wordsOf clause.toList := by
  have hlength : ((({} : Query).parts "t").flatMap fun text => wordsOf text.toList).length = 4 := by
    decide +kernel
  rw [Text.wordsOf_intercalate, List.flatMap_append, ← hlength, List.drop_left]

theorem wordsOf_limit (limit : Nat) :
    wordsOf s!"LIMIT {limit}".toList = ["LIMIT".toList, Nat.toDigits 10 limit] :=
  wordsOf_clause "LIMIT" limit

theorem wordsOf_offset (offset : Nat) :
    wordsOf s!"OFFSET {offset}".toList = ["OFFSET".toList, Nat.toDigits 10 offset] :=
  wordsOf_clause "OFFSET" offset

theorem windowOf_limit_offset (limit offset : Nat) :
    windowOf ([s!"LIMIT {limit}", s!"OFFSET {offset}"].flatMap fun clause =>
      wordsOf clause.toList) = ResultSet.window (some limit) offset := by
  rw [List.flatMap_cons, List.flatMap_singleton, wordsOf_limit, wordsOf_offset, List.cons_append,
    List.singleton_append, windowOf, numberOf_toDigits, numberOf_toDigits]

theorem windowOf_pageTexts (query : Query) :
    windowOf (query.pageTexts.flatMap fun clause => wordsOf clause.toList) =
      ResultSet.window (query.limit.map Positive.val) (query.offset.getD 0) := by
  unfold Query.pageTexts Query.offset
  rcases query.limit with - | limit
  · rfl
  rcases query.page with - | page
  · change windowOf (wordsOf s!"LIMIT {limit.val}".toList ++ []) = _
    rw [wordsOf_limit, List.append_nil, windowOf, numberOf_toDigits]
    rfl
  · exact windowOf_limit_offset limit.val (limit.val * (page.val - 1))

/-- It evaluates the query for all rows of its table. -/
theorem evaluates (page : Option Positive) : Evaluates "t" { page } find := by
  intro handle roster limit page statement h
  obtain ⟨clauses, hclauses, h⟩ := exists_of_bind_eq_ok h
  obtain rfl := Except.ok.inj h
  change ((find handle roster).1.map (windowOf ((wordsOf (" ".intercalate
    (({} : Query).parts "t" ++ clauses)).toList).drop 4)), roster) = _
  rw [drop_wordsOf, pageClauses_eq hclauses, windowOf_pageTexts]
  rfl

end Roster

end SqlAccess
