import SqlAccess.Proofs.Number.Numeral
import SqlAccess.Proofs.Statement.Plain
import SqlAccess.Proofs.Text.Literal
import SqlAccess.Table.Definition

/-!
# The definitions in the text of a table

The text that creates a table lists the definitions of its columns and of its foreign
keys.  Default values are written into these definitions, and a default may be any
text.  Still the list is taken apart into just the definitions that were declared,
and each default is read back from its literal (`creation_structure`).  Only where a
default is an integer with too many digits to be written is there no text at all.

The argument goes from the inside to the outside.  A literal, a tidy name and a
keyword can each be embedded in a text at any depth (`Embeds`): they have no
placeholders and are solid.  What is put together of such parts can be embedded too,
and so a definition is solid where the list of definitions stands, which is at the
outermost place inside the parentheses of the table.
-/

namespace SqlAccess

open SqlAccess.Text (Solid IsTidy IsOrdinary listing literal readLiteral segments)

/-! ## Texts to embed -/

/-- A text without placeholders that belongs to one segment at the depth. -/
structure Embeds (depth : Nat) (text : String) : Prop where
  takes : Takes 0 text
  solid : Solid depth text

section

variable {depth : Nat} {text other separator : String} {texts : List String}

instance : Decidable (Embeds depth text) :=
  decidable_of_iff (Takes 0 text ∧ Solid depth text)
    ⟨fun ⟨htakes, hsolid⟩ => ⟨htakes, hsolid⟩, fun ⟨htakes, hsolid⟩ => ⟨htakes, hsolid⟩⟩

theorem Embeds.append (h : Embeds depth text) (hother : Embeds depth other) :
    Embeds depth (text ++ other) :=
  ⟨h.takes.append_zero hother.takes, h.solid.append hother.solid⟩

theorem takes_intercalate (hseparator : Takes 0 separator) (h : ∀ text ∈ texts, Takes 0 text) :
    Takes 0 (separator.intercalate texts) :=
  ((bindsEach_verbatim h).intercalate hseparator).takes

theorem Embeds.intercalate (hseparator : Embeds depth separator)
    (h : ∀ text ∈ texts, Embeds depth text) : Embeds depth (separator.intercalate texts) :=
  ⟨takes_intercalate hseparator.takes fun text htext => (h text htext).takes,
    hseparator.solid.intercalate fun text htext => (h text htext).solid⟩

/-- A listing in parentheses. -/
theorem embeds_group (h : ∀ text ∈ texts, Embeds (depth + 1) text) :
    Embeds depth ("(" ++ listing texts ++ ")") := by
  have hcomma : Embeds (depth + 1) ", " := ⟨by decide, Text.solid_comma depth⟩
  have hlisting : Embeds (depth + 1) (listing texts) := hcomma.intercalate h
  refine ⟨?_, hlisting.solid.enclosed⟩
  exact ((show Takes 0 "(" by decide).append_zero hlisting.takes).append_zero
    (show Takes 0 ")" by decide)

theorem embeds_of_forall_isOrdinary (h : ∀ c ∈ text.toList, IsOrdinary c) (depth : Nat) :
    Embeds depth text :=
  ⟨takes_zero_of_forall fun c hc => ⟨(h c hc).1, (h c hc).2.1⟩,
    Text.solid_of_forall_isOrdinary h depth⟩

theorem embeds_of_isTidy (h : IsTidy text) (depth : Nat) : Embeds depth text := by
  refine ⟨takes_zero_of_forall fun c hc => ⟨?_, ?_⟩, h.solid depth⟩
  · rintro rfl
    exact h.no_quote hc
  · rintro rfl
    exact h.no_mark hc

theorem embeds_numeral (number : Int) (depth : Nat) : Embeds depth (toString number) :=
  embeds_of_forall_isOrdinary (fun _ hc => (isNumeric_of_mem_toString hc).isOrdinary) depth

theorem embeds_literal (text : String) (depth : Nat) : Embeds depth (literal text) :=
  ⟨Text.takes_literal text, Text.solid_literal text depth⟩

end

/-! ## Defaults -/

/-- Whether a value is something else than a number that is not finite. -/
def Value.isFinite : Value → Bool
  | .real number => number.isFinite
  | _ => true

/-- Whether a value has a literal: every one does except the numbers that are not
finite and what cannot be written. -/
def Value.hasLiteral (value : Value) : Bool :=
  value.isFinite && value.isWritable

/-- A literal is read back as the value: an integer as this integer, a truth value as
one or zero, and a text as just this text. -/
def Value.IsReadFrom (literal : String) : Value → Prop
  | .bool flag => literal = if flag then "1" else "0"
  | .int number => readNumeral literal.toList = some number
  | .real number => literal = number.display
  | value => readLiteral '\'' literal.toList = some (value.display.toList, [])

theorem Value.defaultLiteral_eq_error {value : Value} (h : value.isWritable = false) :
    value.defaultLiteral = .error (.misfit .longInteger) := by
  have hcheck := checkWritable_eq_error h
  cases value with
  | int | list | object =>
      unfold defaultLiteral
      rw [hcheck]
      rfl
  | _ => cases h

theorem exists_defaultLiteral {value : Value} (h : value.hasLiteral = true) :
    ∃ literal, value.defaultLiteral = .ok literal ∧ value.IsReadFrom literal ∧
      ∀ depth, Embeds depth literal := by
  have htext : ∀ text : String,
      readLiteral '\'' (literal text).toList = some (text.toList, []) ∧
        ∀ depth, Embeds depth (literal text) :=
    fun text => ⟨Text.readLiteral_literal text, embeds_literal text⟩
  obtain ⟨hfinite, hwritable⟩ := Bool.and_eq_true_iff.mp h
  have hcheck := Value.checkWritable_eq_ok hwritable
  have hquoted : (do
      value.checkWritable
      return literal value.display) = Except.ok (literal value.display) := by
    rw [hcheck]
    rfl
  cases value with
  | bool flag =>
      cases flag with
      | false => exact ⟨"0", rfl, rfl, embeds_of_forall_isOrdinary (by simp [IsOrdinary])⟩
      | true => exact ⟨"1", rfl, rfl, embeds_of_forall_isOrdinary (by simp [IsOrdinary])⟩
  | int number =>
      refine ⟨toString number, ?_, readNumeral_toString number, embeds_numeral number⟩
      rw [Value.defaultLiteral, hcheck]
      rfl
  | real number =>
      rw [Value.isFinite] at hfinite
      refine ⟨number.display, by rw [Value.defaultLiteral, if_pos hfinite], rfl, ?_⟩
      exact embeds_of_forall_isOrdinary fun c hc =>
        (Floating.isNumeric_of_mem_display hfinite hc).isOrdinary
  | _ => exact ⟨_, hquoted, htext _⟩

/-! ## Columns -/

namespace Column

/-- The names in the definition of a column. -/
def texts (column : Column) : List String :=
  [column.name, column.type]

/-- The definition of a column without its default. -/
def bare (column : Column) : Column :=
  { column with default := .null }

/-- A text is the definition of a column.  A default stands behind its keyword at the
end and is read back from there. -/
inductive DefinedBy (column : Column) : String → Prop where
  | bare {text : String} (default_eq : column.default = .null)
      (definition_eq : column.definition = .ok text) : DefinedBy column text
  | default {bare literal : String} (bare_eq : column.bare.definition = .ok bare)
      (read : column.default.IsReadFrom literal)
      (definition_eq : column.definition = .ok (bare ++ " DEFAULT " ++ literal)) :
      DefinedBy column (bare ++ " DEFAULT " ++ literal)

/-- What stands before the default. -/
def bareParts (column : Column) : List String :=
  [column.name, column.type]
    ++ (if column.primaryKey then ["PRIMARY KEY"] else [])
    ++ (if column.autoIncrement then ["AUTOINCREMENT"] else [])
    ++ [if column.nullable then "NULL" else "NOT NULL"]

variable {column : Column}

theorem bareParts_ne_nil (column : Column) : column.bareParts ≠ [] := by
  simp [bareParts]

theorem embeds_bareParts (h : ∀ text ∈ column.texts, IsTidy text) :
    ∀ part ∈ column.bareParts, Embeds 0 part := by
  have hkeywords : ∀ part ∈ ["PRIMARY KEY", "AUTOINCREMENT", "NULL", "NOT NULL"],
      Embeds 0 part := by decide +kernel
  intro part hpart
  simp only [bareParts, List.mem_append] at hpart
  rcases hpart with ((htext | hkey) | hincrement) | hnull
  · exact embeds_of_isTidy (h part htext) 0
  · refine hkeywords part ?_
    split at hkey <;> simp_all
  · refine hkeywords part ?_
    split at hincrement <;> simp_all
  · refine hkeywords part ?_
    split at hnull <;> simp_all

theorem bare_definition (column : Column) :
    column.bare.definition = .ok (" ".intercalate column.bareParts) := by
  have hparts : column.bareParts ++ [] = column.bareParts := List.append_nil _
  rw [← hparts]
  rfl

theorem exists_definition (htexts : ∀ text ∈ column.texts, IsTidy text)
    (hdefault : column.default.hasLiteral = true) :
    ∃ text, column.definition = .ok text ∧ column.DefinedBy text ∧ Embeds 0 text := by
  have hblank : Embeds 0 " " := by decide +kernel
  have hbare : Embeds 0 (" ".intercalate column.bareParts) :=
    hblank.intercalate (embeds_bareParts htexts)
  by_cases hnull : column.default = .null
  · have hsame : column.bare = column := by
      rw [bare, ← hnull]
    have hdefinition := bare_definition column
    rw [hsame] at hdefinition
    exact ⟨_, hdefinition, .bare hnull hdefinition, hbare⟩
  · obtain ⟨literal, hliteral, hread, hembeds⟩ := exists_defaultLiteral hdefault
    have hnot : column.default.isNull = false := by
      cases hvalue : column.default with
      | null => exact absurd hvalue hnull
      | _ => rfl
    have hdefinition : column.definition =
        .ok (" ".intercalate column.bareParts ++ " DEFAULT " ++ literal) := by
      have hparts : column.defaultParts = .ok [s!"DEFAULT {literal}"] := by
        rw [defaultParts, hnot, hliteral]
        rfl
      have hwhole : column.definition =
          .ok (" ".intercalate (column.bareParts ++ [s!"DEFAULT {literal}"])) := by
        rw [definition, hparts]
        rfl
      rw [hwhole, String.intercalate_append_of_ne_nil (bareParts_ne_nil column) (by simp),
        String.intercalate_singleton]
      have hword : s!"DEFAULT {literal}" = "DEFAULT " ++ literal := rfl
      simp [hword, ← String.toList_inj]
    have hkeyword : Embeds 0 " DEFAULT " := by decide +kernel
    exact ⟨_, hdefinition, .default (bare_definition column) hread hdefinition,
      (hbare.append hkeyword).append (hembeds 0)⟩

/-- A column has no definition if its default cannot be written. -/
theorem definition_eq_error (h : column.default.isWritable = false) :
    column.definition = .error (.misfit .longInteger) := by
  have hnull : column.default.isNull = false := by
    cases hvalue : column.default with
    | null => cases hvalue ▸ h
    | _ => rfl
  have hparts : column.defaultParts = .error (.misfit .longInteger) := by
    rw [defaultParts, hnull, Value.defaultLiteral_eq_error h]
    rfl
  rw [definition, hparts]
  rfl

end Column

/-! ## Foreign keys -/

namespace ForeignKey

/-- The names in the definition of a foreign key. -/
def texts (key : ForeignKey) : List String :=
  key.columns ++ key.table.toList ++ key.references ++ key.onDelete.toList

/-- Whether a foreign key has everything that its definition needs. -/
def isComplete (key : ForeignKey) : Bool :=
  !key.columns.isEmpty && key.table.isSome && !key.references.isEmpty

/-- What the definition says about deleted rows. -/
def action (key : ForeignKey) : String :=
  match key.onDelete with
  | some action => s!" ON DELETE {action}"
  | none => ""

variable {key : ForeignKey}

theorem definition_eq {table : String} (htable : key.table = some table)
    (hcolumns : key.columns.isEmpty = false) (hreferences : key.references.isEmpty = false) :
    key.definition = .ok ("FOREIGN KEY " ++ ("(" ++ listing key.columns ++ ")") ++ " REFERENCES " ++
      table ++ " " ++ ("(" ++ listing key.references ++ ")") ++ key.action) := by
  have hwords : key.definition = .ok ("FOREIGN KEY (" ++ listing key.columns ++ ") REFERENCES " ++
      table ++ " (" ++ listing key.references ++ ")" ++ key.action) := by
    rw [definition, htable]
    simp only [hcolumns, hreferences]
    rfl
  rw [hwords]
  simp [← String.toList_inj]

theorem exists_definition (htexts : ∀ text ∈ key.texts, IsTidy text)
    (hcomplete : key.isComplete = true) :
    ∃ text, key.definition = .ok text ∧ Embeds 0 text := by
  simp only [texts, List.forall_mem_append] at htexts
  obtain ⟨⟨⟨hcolumns, htable⟩, hreferences⟩, haction⟩ := htexts
  simp only [isComplete, Bool.and_eq_true, Bool.not_eq_true'] at hcomplete
  obtain ⟨⟨hcolumn, hsome⟩, hreference⟩ := hcomplete
  obtain ⟨table, hname⟩ := Option.isSome_iff_exists.mp hsome
  rw [hname] at htable
  have hembeds : Embeds 0 key.action := by
    unfold action
    split
    · rename_i name hname
      have hkeyword : Embeds 0 " ON DELETE " := by decide +kernel
      exact hkeyword.append (embeds_of_isTidy (haction name (by simp [hname])) 0)
    · decide +kernel
  refine ⟨_, definition_eq hname hcolumn hreference, ?_⟩
  have hstart : Embeds 0 "FOREIGN KEY " := by decide +kernel
  have hmiddle : Embeds 0 " REFERENCES " := by decide +kernel
  have hblank : Embeds 0 " " := by decide +kernel
  have hgroups := fun texts (h : ∀ text ∈ texts, IsTidy text) =>
    embeds_group fun text htext => embeds_of_isTidy (h text htext) (0 + 1)
  exact (((((hstart.append (hgroups _ hcolumns)).append hmiddle).append
    (embeds_of_isTidy (htable table (by simp)) 0)).append hblank).append
      (hgroups _ hreferences)).append hembeds

end ForeignKey

/-! ## Indexes -/

/-- The names in the text that creates an index. -/
def Index.texts (index : Index) : List String :=
  index.name :: index.table :: index.columns

theorem Index.exists_creation {index : Index} (htexts : ∀ text ∈ index.texts, IsTidy text)
    (hcomplete : index.columns ≠ []) :
    ∃ text, index.creation = .ok text ∧ Takes 0 text := by
  simp only [texts, List.forall_mem_cons] at htexts
  obtain ⟨hname, htable, hcolumns⟩ := htexts
  have hunique : Takes 0 (if index.unique = true then "UNIQUE " else "") := by
    split <;> decide
  have hlisting : Takes 0 (listing index.columns) :=
    takes_intercalate (by decide) fun text htext => (embeds_of_isTidy (hcolumns text htext) 0).takes
  refine ⟨_, by rw [creation, if_neg (by simpa using hcomplete)], ?_⟩
  exact ((((((((show Takes 0 "CREATE " by decide).append_zero hunique).append_zero
    (show Takes 0 "INDEX IF NOT EXISTS " by decide)).append_zero
      (embeds_of_isTidy hname 0).takes).append_zero (show Takes 0 " ON " by decide)).append_zero
        (embeds_of_isTidy htable 0).takes).append_zero (show Takes 0 " (" by decide)).append_zero
          hlisting).append_zero (show Takes 0 ")" by decide)

/-! ## Tables -/

namespace Table

/-- The names in the texts that create a table and its indexes. -/
def texts (table : Table) : List String :=
  table.name :: (table.columns.flatMap Column.texts ++ table.foreignKeys.flatMap ForeignKey.texts ++
    table.indexes.flatMap Index.texts)

/-- Whether a table has everything that its texts need. -/
structure IsComplete (table : Table) : Prop where
  columns : table.columns ≠ []
  foreignKeys : ∀ key ∈ table.foreignKeys, key.isComplete = true
  indexes : ∀ index ∈ table.indexes, index.columns ≠ []
  defaults : ∀ column ∈ table.columns, column.default.hasLiteral = true

variable {table : Table}

theorem creation_eq {columns foreignKeys : List String} (hne : table.columns ≠ [])
    (hcolumns : table.columns.mapM Column.definition = .ok columns)
    (hforeignKeys : table.foreignKeys.mapM ForeignKey.definition = .ok foreignKeys) :
    table.creation =
      .ok s!"CREATE TABLE IF NOT EXISTS {table.name} ({listing (columns ++ foreignKeys)})" := by
  have hsome : table.columns.isEmpty = false := by simpa using hne
  unfold creation
  rw [hsome, hcolumns, hforeignKeys]
  rfl

/-- The texts that create a table and its indexes, taken apart into the declared
definitions, each in its place and with its default.  Nothing in any of the texts is a
placeholder. -/
inductive TakenApart (table : Table) : Prop where
  | intro {columns foreignKeys indexes : List String} {body creation : String}
      {statements : List Statement} :
      List.Forall₂ Column.DefinedBy table.columns columns →
      List.Forall₂ (fun key text => key.definition = .ok text) table.foreignKeys foreignKeys →
      List.Forall₂ (fun index text => index.creation = .ok text) table.indexes indexes →
      creation = s!"CREATE TABLE IF NOT EXISTS {table.name} ({body})" →
      table.creation = .ok creation →
      segments body = columns ++ foreignKeys →
      table.creationStatements = .ok statements →
      statements.map Statement.sql = creation :: indexes →
      (∀ statement ∈ statements, statement.params = [] ∧ statement.placeholderCount = 0) →
      TakenApart table

theorem takenApart (htexts : ∀ text ∈ table.texts, IsTidy text) (hcomplete : table.IsComplete) :
    table.TakenApart := by
  simp only [texts, List.forall_mem_cons, List.forall_mem_append, List.forall_mem_flatMap] at htexts
  obtain ⟨hname, ⟨hcolumnTexts, hkeyTexts⟩, hindexTexts⟩ := htexts
  obtain ⟨columns, hcolumns, hdefined⟩ := exists_mapM_eq_ok fun column hcolumn =>
    Column.exists_definition (hcolumnTexts column hcolumn) (hcomplete.defaults column hcolumn)
  obtain ⟨foreignKeys, hforeignKeys, hkeys⟩ := exists_mapM_eq_ok fun key hkey =>
    ForeignKey.exists_definition (hkeyTexts key hkey) (hcomplete.foreignKeys key hkey)
  obtain ⟨indexes, hindexes, htakes⟩ := exists_mapM_eq_ok fun index hindex =>
    Index.exists_creation (hindexTexts index hindex) (hcomplete.indexes index hindex)
  have hembeds : ∀ text ∈ columns ++ foreignKeys, Embeds 0 text :=
    List.forall_mem_append.mpr
      ⟨forall_right_of_forall₂ (fun _ _ h => h.2) hdefined,
        forall_right_of_forall₂ (fun _ text (h : Embeds 0 text) => h) hkeys⟩
  have hne : columns ++ foreignKeys ≠ [] := by
    have hlength := hdefined.length_eq
    have hcolumn := List.length_pos_iff.mpr hcomplete.columns
    refine List.length_pos_iff.mp ?_
    rw [List.length_append]
    omega
  have hcreation := creation_eq hcomplete.columns hcolumns hforeignKeys
  have hcreationTakes : Takes 0
      s!"CREATE TABLE IF NOT EXISTS {table.name} ({listing (columns ++ foreignKeys)})" :=
    ((((show Takes 0 "CREATE TABLE IF NOT EXISTS " by decide).append_zero
      (embeds_of_isTidy hname 0).takes).append_zero (show Takes 0 " (" by decide)).append_zero
        (takes_intercalate (by decide) fun text htext => (hembeds text htext).takes)).append_zero
          (show Takes 0 ")" by decide)
  have hstatements : table.creationStatements =
      .ok ((s!"CREATE TABLE IF NOT EXISTS {table.name} ({listing (columns ++ foreignKeys)})" ::
        indexes).map fun sql => ⟨sql, []⟩) := by
    rw [creationStatements, hcreation, hindexes]
    rfl
  refine .intro (hdefined.imp fun _ _ h => h.1) (mapM_eq_ok_iff.mp hforeignKeys)
    (mapM_eq_ok_iff.mp hindexes) rfl hcreation
    (Text.segments_listing hne fun text htext => (hembeds text htext).solid) hstatements ?_ ?_
  · rw [List.map_map]
    exact List.map_id' _
  · have hall := List.forall_mem_cons.mpr
      ⟨hcreationTakes, forall_right_of_forall₂ (fun _ sql (h : Takes 0 sql) => h) htakes⟩
    intro statement hstatement
    obtain ⟨sql, hsql, rfl⟩ := List.mem_map.mp hstatement
    exact ⟨rfl, (hall sql hsql).placeholders⟩

theorem creation_eq_error {fault : Fault} (hne : table.columns ≠ [])
    (hcolumns : table.columns.mapM Column.definition = .error fault) :
    table.creation = .error fault ∧ table.creationStatements = .error fault := by
  have hsome : table.columns.isEmpty = false := by simpa using hne
  have hcreation : table.creation = .error fault := by
    unfold creation
    rw [hsome, hcolumns]
    rfl
  refine ⟨hcreation, ?_⟩
  rw [creationStatements, hcreation]
  rfl

/-- The definitions of columns fail together if one default cannot be written. -/
theorem mapM_definition_eq_error (htexts : ∀ text ∈ table.texts, IsTidy text)
    (hfinite : ∀ column ∈ table.columns, column.default.isFinite = true)
    (hlong : ∃ column ∈ table.columns, column.default.isWritable = false) :
    table.columns.mapM Column.definition = .error (.misfit .longInteger) := by
  simp only [texts, List.forall_mem_cons, List.forall_mem_append, List.forall_mem_flatMap] at htexts
  obtain ⟨-, ⟨hcolumnTexts, -⟩, -⟩ := htexts
  cases hmap : table.columns.mapM Column.definition with
  | ok columns =>
      obtain ⟨column, hcolumn, hwritable⟩ := hlong
      obtain ⟨text, -, htext⟩ := exists_mem_of_mapM_eq_ok hmap hcolumn
      cases (Column.definition_eq_error hwritable).symm.trans htext
  | error fault =>
      -- the first column that fails does so for the one reason that there can be
      obtain ⟨column, hcolumn, hfault⟩ := exists_of_mapM_eq_error hmap
      by_cases hwritable : column.default.isWritable = true
      · have hliteral : column.default.hasLiteral = true :=
          Bool.and_eq_true_iff.mpr ⟨hfinite column hcolumn, hwritable⟩
        obtain ⟨text, htext, -⟩ :=
          Column.exists_definition (hcolumnTexts column hcolumn) hliteral
        cases htext.symm.trans hfault
      · have herror := Column.definition_eq_error (Bool.eq_false_iff.mpr hwritable)
        rw [Except.error.inj (hfault.symm.trans herror)]

/-- If all defaults can be written, the texts that create a table are taken apart into what
was declared, whatever the defaults are; and if not there are no such texts. -/
theorem creation_structure (htexts : ∀ text ∈ table.texts, IsTidy text)
    (hcolumns : table.columns ≠ [])
    (hforeignKeys : ∀ key ∈ table.foreignKeys, key.isComplete = true)
    (hindexes : ∀ index ∈ table.indexes, index.columns ≠ [])
    (hfinite : ∀ column ∈ table.columns, column.default.isFinite = true) :
    ((∀ column ∈ table.columns, column.default.isWritable = true) → table.TakenApart) ∧
      ((∃ column ∈ table.columns, column.default.isWritable = false) →
        table.creation = .error (.misfit .longInteger) ∧
          table.creationStatements = .error (.misfit .longInteger)) := by
  refine ⟨fun hwritable => ?_, fun hlong => ?_⟩
  · refine takenApart htexts ⟨hcolumns, hforeignKeys, hindexes, fun column hcolumn => ?_⟩
    exact Bool.and_eq_true_iff.mpr ⟨hfinite column hcolumn, hwritable column hcolumn⟩
  · exact creation_eq_error hcolumns (mapM_definition_eq_error htexts hfinite hlong)

/-- A table with commas in a type, and with a default that has everything in it that
means something outside of literals. -/
def prices : Table where
  name := "prices"
  columns :=
    [{ name := "amount", type := "NUMERIC(10, 2)", default := .int (-3) },
      { name := "note", type := "TEXT", default := .text "it's, 'new'?)\n(" },
      { name := "shop", type := "INTEGER", primaryKey := true, default := .bool true }]
  foreignKeys :=
    [{ columns := ["shop", "note"], table := some "shops", references := ["id", "name"]
       onDelete := some "CASCADE" }]
  indexes := [{ name := "by_shop", table := "prices", unique := true, columns := ["shop"] }]

theorem creation_structure_prices :
    (∀ text ∈ prices.texts, IsTidy text) ∧ prices.columns ≠ [] ∧
      (∀ key ∈ prices.foreignKeys, key.isComplete = true) ∧
      (∀ index ∈ prices.indexes, index.columns ≠ []) ∧
      (∀ column ∈ prices.columns, column.default.isFinite = true) ∧
      (∀ column ∈ prices.columns, column.default.isWritable = true) ∧
      ∃ columns foreignKeys body,
        prices.creation = .ok s!"CREATE TABLE IF NOT EXISTS prices ({body})" ∧
        segments body = columns ++ foreignKeys ∧ columns.length = 3 ∧ foreignKeys.length = 1 := by
  have htexts : ∀ text ∈ prices.texts, IsTidy text := by decide +kernel
  have hcolumns : prices.columns ≠ [] := List.cons_ne_nil _ _
  have hforeignKeys : ∀ key ∈ prices.foreignKeys, key.isComplete = true := by decide
  have hindexes : ∀ index ∈ prices.indexes, index.columns ≠ [] := by decide
  have hfinite : ∀ column ∈ prices.columns, column.default.isFinite = true := by decide
  have hwritable : ∀ column ∈ prices.columns, column.default.isWritable = true := by
    decide +kernel
  refine ⟨htexts, hcolumns, hforeignKeys, hindexes, hfinite, hwritable, ?_⟩
  obtain ⟨hdefined, hkeys, -, hbody, hcreation, hsegments, -⟩ :=
    (creation_structure htexts hcolumns hforeignKeys hindexes hfinite).1 hwritable
  rw [hbody] at hcreation
  exact ⟨_, _, _, hcreation, hsegments, hdefined.length_eq.symm, hkeys.length_eq.symm⟩

/-- A table of counters with the step by which they go. -/
def counters (step : Int) : Table where
  name := "counters"
  columns :=
    [{ name := "step", type := "INTEGER", default := .int step },
      { name := "note", type := "TEXT" }]

/-- Nothing is wrong with a table of counters, but it cannot be created if their step has too
many digits.  With a short step it can, and then a blank stands behind the comma between the
two definitions. -/
theorem creation_counters :
    ((∀ text ∈ (counters (Number.tenTo 4300)).texts, IsTidy text) ∧
      (∀ column ∈ (counters (Number.tenTo 4300)).columns, column.default.isFinite = true) ∧
      (counters (Number.tenTo 4300)).creation = .error (.misfit .longInteger) ∧
      (counters (Number.tenTo 4300)).creationStatements = .error (.misfit .longInteger)) ∧
    (counters 1).creation = .ok
      "CREATE TABLE IF NOT EXISTS counters (step INTEGER NOT NULL DEFAULT 1, note TEXT NOT NULL)" ∧
    (Text.segmentsFrom {} "step INTEGER NOT NULL DEFAULT 1, note TEXT NOT NULL".toList).map
        String.ofList =
      ["step INTEGER NOT NULL DEFAULT 1", " note TEXT NOT NULL"] := by
  have hlong : Number.isWritable (Number.tenTo 4300) = false := by decide +kernel
  have htexts : ∀ step, ∀ text ∈ (counters step).texts, IsTidy text := by
    intro step
    change ∀ text ∈ ["counters", "step", "INTEGER", "note", "TEXT"], IsTidy text
    decide +kernel
  have hfinite : ∀ step, ∀ column ∈ (counters step).columns, column.default.isFinite = true := by
    intro step
    simp [counters, Value.isFinite]
  have herror : ∃ column ∈ (counters (Number.tenTo 4300)).columns,
      column.default.isWritable = false := ⟨_, List.mem_cons_self, hlong⟩
  obtain ⟨hcreation, hstatements⟩ := creation_eq_error (List.cons_ne_nil _ _)
    (mapM_definition_eq_error (htexts _) (hfinite _) herror)
  refine ⟨⟨htexts _, hfinite _, hcreation, hstatements⟩, ?_, by decide +kernel⟩
  have hshort : (counters 1).creation.toOption = some
      "CREATE TABLE IF NOT EXISTS counters (step INTEGER NOT NULL DEFAULT 1, note TEXT NOT NULL)" :=
    by decide +kernel
  cases hcreated : (counters 1).creation with
  | error fault => cases hcreated ▸ hshort
  | ok text =>
      rw [hcreated] at hshort
      rw [Option.some.inj hshort]

end Table

end SqlAccess
