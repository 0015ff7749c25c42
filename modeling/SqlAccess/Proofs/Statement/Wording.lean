import SqlAccess.Proofs.Statement.Binding
import SqlAccess.Proofs.Statement.Plain
import SqlAccess.Statement.Select
import SqlAccess.Statement.Write

/-!
# Values stand where they belong

For each kind of statement it is said what the statement is once its parameters are
bound: the value of a record in the place of its column, the cells of a row in the
places of theirs, and the arguments of a condition in that condition.  The wording of
a statement and the list of its parameters come from different code, and they agree
part by part.

Names, joins, groupings and orders may be any texts, literals included, as long as
their quotes are balanced and they have no placeholders, and conditions as long as
they have one for each of their arguments.

Main result: each statement has as many placeholders as parameters, and bound it is
the wording with its values in these places (`wording_bound`).
-/

namespace SqlAccess

open SqlAccess.Text (listing isBlankText placeholders)
open Piece (verbatim bound listed)

/-! ## Bound wordings -/

/-- A condition behind its keyword, bound with its own arguments. -/
def Condition.boundClauses (keyword : String) (condition : Option Condition) :
    List (List Piece) :=
  match condition with
  | some c =>
    if isBlankText c.clause then [] else [verbatim s!"{keyword} " ++ bound c.clause c.args]
  | none => []

/-- The condition at the end of a statement, bound with its own arguments. -/
def Condition.boundSuffix (clause : Option String) (args : List Value) : List Piece :=
  match clause with
  | some text => if isBlankText text then [] else verbatim " WHERE " ++ bound text args
  | none => []

namespace Query

/-- The limit and the offset as they are worded. -/
def pageTexts (query : Query) : List String :=
  (query.limit.map fun limit => s!"LIMIT {limit.val}").toList ++
    (query.offset.map fun offset => s!"OFFSET {offset}").toList

/-- The parts of a query's text, bound. -/
def boundParts (table : String) (query : Query) : List (List Piece) :=
  (["SELECT"] ++ (if query.distinct then ["DISTINCT"] else [])
      ++ [query.resultColumns, s!"FROM {table}"] ++ query.joins.map Join.text).map verbatim
    ++ Condition.boundClauses "WHERE" query.filter
    ++ query.groupingClauses.map verbatim
    ++ Condition.boundClauses "HAVING" query.having
    ++ (query.orderClauses ++ query.pageTexts).map verbatim

/-- The texts in a query are closed, and its conditions have a placeholder for each of
their arguments. -/
structure Fits (query : Query) : Prop where
  columns : Takes 0 query.columns.text
  joins : ∀ join ∈ query.joins, Takes 0 join.text
  filter : ∀ condition ∈ query.filter, Takes condition.args.length condition.clause
  grouping : ∀ selection ∈ query.grouping, Takes 0 selection.text
  having : ∀ condition ∈ query.having, Takes condition.args.length condition.clause
  order : Takes 0 (listing (query.order.map SortKey.text))

end Query

namespace Statement

/-- The values of a row, in the order of the columns. -/
def boundGroup (row : List Value) : List Piece :=
  verbatim "(" ++ listed ", " (row.map fun value => [.value value]) ++ verbatim ")"

/-- An insertion, bound with the values of its rows. -/
def boundInsertion (table : String) (columns : List String) (rows : List (List Value)) :
    List Piece :=
  verbatim s!"INSERT INTO {table} ({listing columns}) VALUES "
    ++ listed ", " (rows.map boundGroup) ++ verbatim ";"

/-- An update: each value stands behind its own column. -/
def boundAssignment (table : String) (items : List (String × Value)) (clause : Option String)
    (args : List Value) : List Piece :=
  verbatim s!"UPDATE {table} SET "
    ++ listed ", " (items.map fun item => verbatim s!"{item.1} = " ++ [.value item.2])
    ++ Condition.boundSuffix clause args ++ verbatim ";"

/-- A removal, bound with the arguments of its condition. -/
def boundRemoval (table : String) (clause : Option String) (args : List Value) : List Piece :=
  verbatim s!"DELETE FROM {table}" ++ Condition.boundSuffix clause args ++ verbatim ";"

end Statement

/-! ## Conditions -/

section

variable {table : String} {query : Query} {clause : Option String} {args : List Value}

/-- An absent condition takes no more than a blank one. -/
theorem binds_suffix (h : Takes args.length (clause.getD "")) :
    Binds (Condition.suffix clause) args (Condition.boundSuffix clause args) := by
  have hempty : Binds "" [] [] := ⟨show Takes 0 "" by decide, rfl⟩
  cases clause with
  | none =>
      rw [h.eq_nil_of_isBlankText rfl]
      exact hempty
  | some text =>
      by_cases hblank : isBlankText text = true
      · rw [h.eq_nil_of_isBlankText hblank]
        simp only [Condition.suffix, Condition.boundSuffix, hblank, if_true]
        exact hempty
      · simp only [Condition.suffix, Condition.boundSuffix, hblank]
        exact h.binds.after (show Takes 0 " WHERE " by decide)

theorem bindsEach_clauses (keyword : String) {condition : Option Condition}
    (hkeyword : Takes 0 s!"{keyword} ")
    (h : ∀ given ∈ condition, Takes given.args.length given.clause) :
    BindsEach (Condition.clauses keyword condition) ((condition.map Condition.args).getD [])
      (Condition.boundClauses keyword condition) := by
  cases condition with
  | none => exact .nil
  | some given =>
      have htakes := h given rfl
      by_cases hblank : isBlankText given.clause = true
      · rw [Option.map_some, Option.getD_some, htakes.eq_nil_of_isBlankText hblank]
        simp only [Condition.clauses, Condition.boundClauses, hblank, if_true]
        exact .nil
      · simp only [Condition.clauses, Condition.boundClauses, hblank]
        exact .singleton (htakes.binds.after hkeyword)

/-! ## Queries -/

theorem eq_map_of_mapM_eq_ok {ι : Type} {item : Option ι} {word : ι → Except Fault String}
    {plain : ι → String} {text : Option String}
    (hword : ∀ i written, word i = .ok written → written = plain i)
    (h : item.mapM word = .ok text) : text = item.map plain := by
  cases item with
  | none => exact (Except.ok.inj h).symm
  | some i =>
      obtain ⟨written, hwritten, h⟩ := exists_of_bind_eq_ok h
      rw [← Except.ok.inj h, hword i written hwritten]
      rfl

theorem eq_toString_of_numeral {number : Nat} {text : String}
    (h : Query.numeral number = .ok text) : text = toString number := by
  obtain ⟨_, -, h⟩ := exists_of_bind_eq_ok h
  exact (Except.ok.inj h).symm

theorem pageClauses_eq {page : List String} (h : query.pageClauses = .ok page) :
    page = query.pageTexts := by
  obtain ⟨limit, hlimit, h⟩ := exists_of_bind_eq_ok h
  obtain ⟨offset, hoffset, h⟩ := exists_of_bind_eq_ok h
  have hlimit' := eq_map_of_mapM_eq_ok (fun _ _ => eq_toString_of_numeral) hlimit
  have hoffset' := eq_map_of_mapM_eq_ok (fun _ _ => eq_toString_of_numeral) hoffset
  rw [← Except.ok.inj h, hlimit', hoffset', Option.map_map, Option.map_map]
  rfl

theorem takes_opening (htable : Takes 0 table) (hfits : query.Fits) :
    ∀ text ∈ ["SELECT"] ++ (if query.distinct then ["DISTINCT"] else [])
      ++ [query.resultColumns, s!"FROM {table}"] ++ query.joins.map Join.text, Takes 0 text := by
  have hdistinct : ∀ text ∈ if query.distinct then ["DISTINCT"] else [], Takes 0 text := by
    cases query.distinct <;> decide
  have hcolumns : Takes 0 query.resultColumns := by
    unfold Query.resultColumns
    split
    · decide
    · exact hfits.columns
  have hfrom : Takes 0 s!"FROM {table}" := (show Takes 0 "FROM " by decide).append_zero htable
  simp only [List.forall_mem_append, List.forall_mem_cons, List.forall_mem_map]
  exact ⟨⟨⟨⟨by decide, nofun⟩, hdistinct⟩, hcolumns, hfrom, nofun⟩, hfits.joins⟩

theorem takes_groupingClauses (hfits : query.Fits) :
    ∀ text ∈ query.groupingClauses, Takes 0 text := by
  unfold Query.groupingClauses
  cases hgrouping : query.grouping with
  | none => nofun
  | some selection =>
      have hselection := hfits.grouping selection hgrouping
      by_cases hempty : selection.isEmpty = true
      · simp [hempty]
      · rw [Bool.not_eq_true] at hempty
        simp only [hempty, Bool.false_eq_true, if_false, List.forall_mem_singleton]
        exact (show Takes 0 "GROUP BY " by decide).append_zero hselection

theorem takes_orderClauses (hfits : query.Fits) :
    ∀ text ∈ query.orderClauses, Takes 0 text := by
  unfold Query.orderClauses
  split
  · nofun
  · rw [List.forall_mem_singleton]
    exact (show Takes 0 "ORDER BY " by decide).append_zero hfits.order

theorem takes_pageTexts (query : Query) : ∀ text ∈ query.pageTexts, Takes 0 text := by
  intro text htext
  simp only [Query.pageTexts, List.mem_append, Option.mem_toList, Option.map_eq_some_iff] at htext
  rcases htext with ⟨limit, -, rfl⟩ | ⟨offset, -, rfl⟩
  · exact (show Takes 0 "LIMIT " by decide).append_zero (takes_numeral _)
  · exact (show Takes 0 "OFFSET " by decide).append_zero (takes_numeral _)

theorem bindsEach_parts (htable : Takes 0 table) (hfits : query.Fits) :
    BindsEach (query.parts table ++ query.pageTexts) query.params (query.boundParts table) := by
  have hopening := bindsEach_verbatim (takes_opening htable hfits)
  have hfilter := bindsEach_clauses "WHERE" (by decide) hfits.filter
  have hgrouping := bindsEach_verbatim (takes_groupingClauses hfits)
  have hhaving := bindsEach_clauses "HAVING" (by decide) hfits.having
  have hend := bindsEach_verbatim
    (List.forall_mem_append.mpr ⟨takes_orderClauses hfits, takes_pageTexts query⟩)
  have hall := hopening.append (hfilter.append (hgrouping.append (hhaving.append hend)))
  simpa [Query.parts, Query.boundParts, Query.params] using hall

theorem binds_select {statement : Statement} (htable : Takes 0 table) (hfits : query.Fits)
    (h : Statement.select table query = .ok statement) :
    Binds statement.sql statement.params (listed " " (query.boundParts table)) := by
  obtain ⟨page, hpage, h⟩ := exists_of_bind_eq_ok h
  rw [← Except.ok.inj h, pageClauses_eq hpage]
  exact (bindsEach_parts htable hfits).intercalate (by decide)

end

/-! ## Writing -/

section

variable {table : String} {columns : List String} {rows : List (List Value)}

/-- A group of placeholders takes the values of a row. -/
theorem binds_group {row : List Value} {count : Nat} (h : row.length = count) :
    Binds s!"({placeholders count})" row (Statement.boundGroup row) := by
  have hmarks : BindsEach (List.replicate count "?") row (row.map fun value => [.value value]) := by
    have heach := bindsEach_map fun (value : Value) (_ : value ∈ row) => binds_placeholder value
    rw [List.map_const', h] at heach
    simpa using heach
  have hlisting := hmarks.intercalate (show Takes 0 ", " by decide)
  exact (hlisting.after (show Takes 0 "(" by decide)).before (show Takes 0 ")" by decide)

theorem binds_insertion (htable : Takes 0 table) (hcolumns : Takes 0 (listing columns))
    (hrows : ∀ row ∈ rows, row.length = columns.length) :
    Binds (Statement.insertion table columns rows).sql
      (Statement.insertion table columns rows).params
      (Statement.boundInsertion table columns rows) := by
  have hgroups := bindsEach_map fun row hrow => binds_group (hrows row hrow)
  rw [List.flatMap_id'] at hgroups
  have hlisting := hgroups.intercalate (show Takes 0 ", " by decide)
  have hopening : Takes 0 s!"INSERT INTO {table} ({listing columns}) VALUES " :=
    ((((show Takes 0 "INSERT INTO " by decide).append_zero htable).append_zero
      (show Takes 0 " (" by decide)).append_zero hcolumns).append_zero
        (show Takes 0 ") VALUES " by decide)
  exact (hlisting.after hopening).before (show Takes 0 ";" by decide)

theorem binds_assignment {items : List (String × Value)} {clause : Option String}
    {args : List Value} (htable : Takes 0 table) (hcolumns : ∀ item ∈ items, Takes 0 item.1)
    (hclause : Takes args.length (clause.getD "")) :
    Binds (Statement.assignment table items clause args).sql
      (Statement.assignment table items clause args).params
      (Statement.boundAssignment table items clause args) := by
  have heach : BindsEach (items.map fun item => s!"{item.1} = ?") (items.map Prod.snd)
      (items.map fun item => verbatim s!"{item.1} = " ++ [.value item.2]) := by
    have hword : ∀ column : String, s!"{column} = ?" = column ++ " = " ++ "?" := by
      intro column
      rw [String.append_assoc]
      rfl
    have hmap := bindsEach_map fun (item : String × Value) (hitem : item ∈ items) =>
      (binds_placeholder item.2).after
        ((hcolumns item hitem).append_zero (show Takes 0 " = " by decide))
    rw [← List.map_eq_flatMap] at hmap
    simp only [hword]
    exact hmap
  have hlisting := heach.intercalate (show Takes 0 ", " by decide)
  have hopening : Takes 0 s!"UPDATE {table} SET " :=
    ((show Takes 0 "UPDATE " by decide).append_zero htable).append_zero
      (show Takes 0 " SET " by decide)
  exact ((hlisting.after hopening).append (binds_suffix hclause)).before
    (show Takes 0 ";" by decide)

theorem binds_removal {clause : Option String} {args : List Value} (htable : Takes 0 table)
    (hclause : Takes args.length (clause.getD "")) :
    Binds (Statement.removal table clause args).sql (Statement.removal table clause args).params
      (Statement.boundRemoval table clause args) := by
  have hopening : Takes 0 s!"DELETE FROM {table}" :=
    (show Takes 0 "DELETE FROM " by decide).append_zero htable
  exact ((binds_suffix hclause).after hopening).before (show Takes 0 ";" by decide)

/-! ## Rows of loosely typed values -/

theorem sized_of_sequence {value : Value} {items : List Value} (h : value.sequence = .ok items) :
    value.sized = .ok items := by
  unfold Value.sequence at h
  unfold Value.sized
  split at h
  · exact h
  · cases h

/-- Listed texts are the items, which are texts. -/
theorem eq_map_text_of_listedFrom {position : Nat} {items : List Value} {texts : List String}
    (h : Value.listedFrom position items = .ok texts) : items = texts.map .text := by
  induction items generalizing position texts with
  | nil =>
      cases h
      rfl
  | cons item items ih =>
      obtain ⟨first, hfirst, h⟩ := exists_of_bind_eq_ok h
      obtain ⟨others, hothers, h⟩ := exists_of_bind_eq_ok h
      cases h
      cases item with
      | text content =>
          cases hfirst
          rw [ih hothers, List.map_cons]
      | _ => cases hfirst

/-- The cells of rows are their items, as many as there are fields. -/
theorem cells_of_rowsFrom {fields : Value} {items : List Value} (hfields : fields.sized = .ok items)
    {position : Nat} {values : List Value} {cells : List (List Value)}
    (h : Statement.rowsFrom fields position values = .ok cells) :
    values.mapM Value.sized = .ok cells ∧ ∀ row ∈ cells, row.length = items.length := by
  induction values generalizing position cells with
  | nil =>
      cases h
      exact ⟨rfl, nofun⟩
  | cons value values ih =>
      obtain ⟨row, hrow, h⟩ := exists_of_bind_eq_ok h
      obtain ⟨found, hfound, h⟩ := exists_of_bind_eq_ok h
      obtain rfl := Except.ok.inj (hfound.symm.trans hfields)
      split at h
      · cases h
      · rename_i hlength
        obtain ⟨others, hothers, h⟩ := exists_of_bind_eq_ok h
        cases h
        obtain ⟨hmap, hall⟩ := ih hothers
        refine ⟨?_, List.forall_mem_cons.mpr ⟨Decidable.not_not.mp hlength, hall⟩⟩
        rw [List.mapM_cons, hrow, hmap]
        rfl

end

/-! ## Every statement -/

/-- Each statement that is worded for a query, a record, rows, an update or a removal
has as many placeholders as parameters, and bound it has the values of records and rows
in the places of their columns and the arguments of each condition in that condition:
provided that names and the like are closed texts, and that each condition has a
placeholder for each of its arguments. -/
theorem wording_bound :
    (∀ table query statement, Statement.select table query = .ok statement →
      Takes 0 table → query.Fits →
        statement.placeholderCount = statement.params.length ∧
          statement.bound = listed " " (query.boundParts table)) ∧
    (∀ table record statement, Statement.insert table record = .ok statement →
      ∃ items, record.items = .ok items ∧
        (Takes 0 table → Takes 0 (listing (items.map Prod.fst)) →
          statement.placeholderCount = statement.params.length ∧
            statement.bound =
              Statement.boundInsertion table (items.map Prod.fst) [items.map Prod.snd])) ∧
    (∀ table fields rows statement, Statement.insertMany table fields rows = .ok statement →
      ∃ columns values cells, fields.sequence = .ok (columns.map .text) ∧
        rows.sequence = .ok values ∧ values.mapM Value.sized = .ok cells ∧
        (∀ row ∈ cells, row.length = columns.length) ∧
        (Takes 0 table → Takes 0 (listing columns) →
          statement.placeholderCount = statement.params.length ∧
            statement.bound = Statement.boundInsertion table columns cells)) ∧
    (∀ table record condition args statement,
      Statement.update table record condition args = .ok statement →
      ∃ items clause values, record.items = .ok items ∧
        Condition.clauseOf condition = .ok clause ∧ args.sequence = .ok values ∧
        (Takes 0 table → (∀ item ∈ items, Takes 0 item.1) →
          Takes values.length (clause.getD "") →
            statement.placeholderCount = statement.params.length ∧
              statement.bound = Statement.boundAssignment table items clause values)) ∧
    (∀ table condition args statement,
      Statement.delete table condition args = .ok statement →
      ∃ clause values, Condition.clauseOf condition = .ok clause ∧ args.sequence = .ok values ∧
        (Takes 0 table → Takes values.length (clause.getD "") →
          statement.placeholderCount = statement.params.length ∧
            statement.bound = Statement.boundRemoval table clause values)) := by
  refine ⟨?_, ?_, ?_, ?_, ?_⟩
  · intro table query statement h htable hfits
    exact (binds_select htable hfits h).statement
  · intro table record statement h
    obtain ⟨items, hitems, h⟩ := exists_of_bind_eq_ok h
    split at h
    · cases h
    · cases h
      refine ⟨items, hitems, fun htable hcolumns => (binds_insertion htable hcolumns ?_).statement⟩
      simp
  · intro table fields rows statement h
    obtain ⟨values, cells, items, columns, hvalues, hcells, hitems, hcolumns, rfl⟩ :=
      exists_of_insertMany_eq_ok h
    obtain rfl := eq_map_text_of_listedFrom hcolumns
    obtain ⟨hmap, hlength⟩ := cells_of_rowsFrom (sized_of_sequence hitems) hcells
    simp only [List.length_map] at hlength
    refine ⟨columns, values, cells, hitems, hvalues, hmap, hlength, fun htable hlisting => ?_⟩
    exact (binds_insertion htable hlisting hlength).statement
  · intro table record condition args statement h
    obtain ⟨items, hitems, h⟩ := exists_of_bind_eq_ok h
    split at h
    · cases h
    obtain ⟨clause, hclause, h⟩ := exists_of_bind_eq_ok h
    obtain ⟨values, hvalues, h⟩ := exists_of_bind_eq_ok h
    cases h
    refine ⟨items, clause, values, hitems, hclause, hvalues, fun htable hcolumns htakes => ?_⟩
    exact (binds_assignment htable hcolumns htakes).statement
  · intro table condition args statement h
    obtain ⟨clause, hclause, h⟩ := exists_of_bind_eq_ok h
    obtain ⟨values, hvalues, h⟩ := exists_of_bind_eq_ok h
    cases h
    refine ⟨clause, values, hclause, hvalues, fun htable htakes => ?_⟩
    exact (binds_removal htable htakes).statement

/-- A query with conditions on rows and on groups, and with question marks in
literals. -/
def question : Query where
  columns := .raw "kind, 'how many?' AS title"
  filter := some ⟨"name <> 'what''s ?' AND age > ?", [.int 3]⟩
  grouping := some (.listed ["kind"])
  having := some ⟨"count(*) < ?", [.int 7]⟩

theorem fits_question : question.Fits where
  columns := by decide
  joins := nofun
  filter := by
    rintro _ ⟨⟩
    decide
  grouping := by
    rintro _ ⟨⟩
    decide
  having := by
    rintro _ ⟨⟩
    decide
  order := by decide

/-- The condition on rows gets the three and that on groups the seven; and in an update
the name stands behind its column and the five in the condition. -/
theorem wording_bound_question :
    (∃ statement, Statement.select "animals" question = .ok statement ∧
      statement.placeholderCount = 2 ∧ statement.params.length = 2 ∧
      statement.bound = listed " " ([verbatim "SELECT",
        verbatim "kind, 'how many?' AS title", verbatim "FROM animals",
        verbatim "WHERE name <> 'what''s ?' AND age > " ++ [.value (.int 3)],
        verbatim "GROUP BY kind", verbatim "HAVING count(*) < " ++ [.value (.int 7)]])) ∧
    ∃ statement,
      Statement.update "animals" (.row ⟨[("name", .text "Bob")]⟩) (.text "id = ?")
        (.list [.int 5]) = .ok statement ∧
      statement.placeholderCount = statement.params.length ∧
      statement.bound = verbatim "UPDATE animals SET name = " ++ [.value (.text "Bob")] ++
        verbatim " WHERE id = " ++ [.value (.int 5)] ++ verbatim ";" := by
  constructor
  · have hbound := wording_bound.1 "animals" question _ rfl (by decide) fits_question
    exact ⟨_, rfl, hbound.1, rfl, hbound.2⟩
  · obtain ⟨items, clause, values, hitems, hclause, hvalues, hbound⟩ :=
      wording_bound.2.2.2.1 "animals" (.row ⟨[("name", .text "Bob")]⟩)
        (.text "id = ?") (.list [.int 5]) _ rfl
    cases hitems
    cases hclause
    cases hvalues
    exact ⟨_, rfl, hbound (by decide) (by decide) (by decide)⟩

end SqlAccess
