import Mathlib.Data.Int.Order.Basic
import SqlAccess.Proofs.Schema.CopiedText
import SqlAccess.Proofs.Schema.Telling
import SqlAccess.Proofs.Sorting.Keyed

/-!
# Columns of a copy

A copy has the columns that the engine tells of, in the same order.  The primary key comes
from the positions that they have in it.  It is part of a column's definition if it has no
other column, and follows the definitions of all columns if it has several
(`KeyPlacement`).

The definition of a column begins with its name and its type, and whatever blanks these end
with are lost (`IsDefinedBy`).  So a name that ends with a character that only counts as a
blank is changed (`duplicate_paddedColumn`).
-/

namespace SqlAccess

open SqlAccess.Text (listing segments trimEnd isBlank)

/-! ## Texts -/

/-- A text does not end with a blank. -/
def Text.EndsInInk (text : String) : Prop :=
  ∀ c ∈ text.toList.getLast?, isBlank c = false

theorem Text.trimEnd_eq_self_iff {text : String} : trimEnd text = text ↔ EndsInInk text := by
  rw [← String.toList_inj, toList_trimEnd, List.rdropWhile_eq_self_iff, EndsInInk]
  rcases List.eq_nil_or_concat text.toList with hnil | ⟨before, last, hlast⟩
  · simp [hnil]
  · simp [hlast]

theorem Text.trimEnd_append_blank (text : String) : trimEnd (text ++ " ") = trimEnd text := by
  rw [← String.toList_inj, toList_trimEnd, toList_trimEnd, String.toList_append]
  exact List.rdropWhile_concat_pos _ _ _ (by decide)

theorem Text.intercalate_cons_inj {first other : String} (texts : List String) :
    " ".intercalate (first :: texts) = " ".intercalate (other :: texts) ↔ first = other := by
  cases texts with
  | nil => rw [String.intercalate_singleton, String.intercalate_singleton]
  | cons text texts =>
      rw [String.intercalate_cons_cons, String.intercalate_cons_cons, String.append_left_inj,
        String.append_left_inj]

namespace ColumnInfo

variable {columns keys : List ColumnInfo} {column : ColumnInfo}

/-! ## Definitions -/

/-- The name and the type of a column; the type may be missing. -/
def heading (column : ColumnInfo) : String :=
  if column.type = "" then column.name else column.name ++ " " ++ column.type

/-- What is said of a column besides, in a table whose primary key has the columns `keys`. -/
def constraints (keys : List ColumnInfo) (column : ColumnInfo) : List String :=
  (if column.nullable then [] else ["NOT NULL"])
    ++ (column.default.map fun text => "DEFAULT " ++ text).toList
    ++ (if keys = [column] then ["PRIMARY KEY"] else [])

/-- A text is the definition of a column.  The blanks that the name and the type end with are
lost, so they are kept as they are exactly if there are none. -/
structure IsDefinedBy (keys : List ColumnInfo) (column : ColumnInfo) (definition : String) :
    Prop where
  definition_eq : definition = " ".intercalate (trimEnd column.heading :: column.constraints keys)
  kept_iff : definition = " ".intercalate (column.heading :: column.constraints keys) ↔
    Text.EndsInInk column.heading

/-- The columns of the primary key in their order. -/
def inKeyOrder (columns : List ColumnInfo) : List ColumnInfo :=
  (sortedBy keyPosition columns).filter fun column => column.keyPosition ≠ 0

theorem keyNames_eq (columns : List ColumnInfo) :
    keyNames columns = (inKeyOrder columns).map name :=
  rfl

/-- A list holds the columns of the primary key in the order of their positions. -/
structure IsPrimaryKey (columns keys : List ColumnInfo) : Prop where
  perm : keys.Perm (columns.filter fun column => 0 < column.keyPosition)
  ascending : keys.Pairwise fun x y => x.keyPosition < y.keyPosition

theorem isPrimaryKey_inKeyOrder (hpositions : ∀ column ∈ columns, 0 ≤ column.keyPosition)
    (hdistinct : ((columns.filter fun column => 0 < column.keyPosition).map keyPosition).Nodup) :
    IsPrimaryKey columns (inKeyOrder columns) := by
  have hpositive : columns.filter (fun column => column.keyPosition ≠ 0) =
      columns.filter fun column => 0 < column.keyPosition := by
    refine List.filter_congr fun column hcolumn => ?_
    have hposition := hpositions column hcolumn
    exact decide_eq_decide.mpr (by omega)
  have hperm : (inKeyOrder columns).Perm
      (columns.filter fun column => 0 < column.keyPosition) := by
    rw [← hpositive]
    exact (sortedBy_perm keyPosition columns).filter _
  refine ⟨hperm, ?_⟩
  have hnodup : ((inKeyOrder columns).map keyPosition).Nodup :=
    (hperm.map keyPosition).nodup_iff.mpr hdistinct
  have hsorted := ((orders_le keyPosition).pairwise_sortedBy columns).filter
    fun column => column.keyPosition ≠ 0
  exact (hsorted.and (List.pairwise_map.mp hnodup)).imp fun h => lt_of_le_of_ne h.1 h.2

/-- Where the primary key is declared. -/
inductive KeyPlacement : List ColumnInfo → List String → Prop where
  | none : KeyPlacement [] []
  /-- The definition of the only column says so. -/
  | single (column : ColumnInfo) : KeyPlacement [column] []
  | several (first second : ColumnInfo) (others : List ColumnInfo) :
      KeyPlacement (first :: second :: others)
        ["PRIMARY KEY (" ++ listing ((first :: second :: others).map name) ++ ")"]

theorem inKeyOrder_eq_singleton_iff (hmem : column ∈ columns) :
    inKeyOrder columns = [column] ↔ (keyNames columns).length = 1 ∧ column.keyPosition ≠ 0 := by
  have hkey : column ∈ inKeyOrder columns ↔ column.keyPosition ≠ 0 := by
    simp [inKeyOrder, hmem]
  rw [keyNames_eq, List.length_map, ← hkey, List.length_eq_one_iff]
  constructor
  · intro h
    exact ⟨⟨column, h⟩, h ▸ List.mem_cons_self⟩
  · rintro ⟨⟨other, hother⟩, hcolumn⟩
    rw [hother] at hcolumn ⊢
    rw [List.mem_singleton.mp hcolumn]

theorem trimEnd_heading (column : ColumnInfo) :
    trimEnd s!"{column.name} {column.type}" = trimEnd column.heading := by
  have htexts : s!"{column.name} {column.type}" = column.name ++ " " ++ column.type := rfl
  rw [htexts, heading]
  split
  · rename_i hempty
    rw [hempty, String.append_empty, Text.trimEnd_append_blank]
  · rfl

theorem copyDefinition_eq (hmem : column ∈ columns) :
    copyDefinition ((keyNames columns).length == 1) column =
      " ".intercalate (trimEnd column.heading :: column.constraints (inKeyOrder columns)) := by
  have hkey : ((keyNames columns).length == 1) = true ∧ column.keyPosition ≠ 0 ↔
      inKeyOrder columns = [column] := by
    rw [beq_iff_eq, inKeyOrder_eq_singleton_iff hmem]
  unfold copyDefinition constraints
  simp only [hkey, trimEnd_heading]
  cases column.nullable <;> cases column.default <;>
    by_cases hsingle : inKeyOrder columns = [column] <;>
    simp [hsingle, String.intercalate_cons_cons, ← String.toList_inj, toString]

/-- The definitions of a copy are those of its columns, and that of a primary key of several
columns. -/
theorem exists_copyDefinitions_eq (columns : List ColumnInfo) :
    ∃ definitions tableKey, KeyPlacement (inKeyOrder columns) tableKey ∧
      List.Forall₂ (IsDefinedBy (inKeyOrder columns)) columns definitions ∧
      copyDefinitions columns = definitions ++ tableKey := by
  have hdefinitions : List.Forall₂ (IsDefinedBy (inKeyOrder columns)) columns
      (columns.map (copyDefinition ((keyNames columns).length == 1))) := by
    rw [List.forall₂_map_right_iff, List.forall₂_same]
    refine fun column hmem => ⟨copyDefinition_eq hmem, ?_⟩
    rw [copyDefinition_eq hmem, Text.intercalate_cons_inj, Text.trimEnd_eq_self_iff]
  refine ⟨_, _, ?_, hdefinitions, rfl⟩
  rw [keyNames_eq, List.length_map]
  match inKeyOrder columns with
  | [] => exact .none
  | [column] => exact .single column
  | first :: second :: others =>
      have hseveral : 1 < (first :: second :: others).length := by
        simp
      have hwords : s!"PRIMARY KEY ({listing ((first :: second :: others).map name)})" =
          "PRIMARY KEY (" ++ listing ((first :: second :: others).map name) ++ ")" := rfl
      rw [if_pos hseveral, hwords]
      exact .several first second others

end ColumnInfo

namespace Database

open ColumnInfo Telling

/-- A copy has one definition for each column of the source, in the same order, and declares
the primary key of the source where it belongs.  Blanks at the end of a name or a type are
lost. -/
theorem duplicate_columns {ω : Type} [Engine ω] {database : Database} {source : String}
    (target : String) {session last : Session ω} {survey : Survey}
    (hpositions : ∀ column ∈ survey.columns, 0 ≤ column.keyPosition)
    (hdistinct : ((survey.columns.filter fun column => 0 < column.keyPosition).map
      keyPosition).Nodup)
    (hsurveys : database.Surveys source session survey last) :
    ∃ (keys : List ColumnInfo) (definitions tableKey : List String),
      IsPrimaryKey survey.columns keys ∧ KeyPlacement keys tableKey ∧
      List.Forall₂ (IsDefinedBy keys) survey.columns definitions ∧
      database.Copies source target session survey.indexes
        (definitions ++ tableKey ++ ForeignKeyInfo.copyDefinitions survey.foreignKeys) last ∧
      (survey.columns ≠ [] → (∀ column ∈ survey.columns, column.IsClosed) →
        (∀ part ∈ survey.foreignKeys, part.IsClosed) →
        segments (listing
            (definitions ++ tableKey ++ ForeignKeyInfo.copyDefinitions survey.foreignKeys)) =
          definitions ++ tableKey ++ ForeignKeyInfo.copyDefinitions survey.foreignKeys) := by
  obtain ⟨definitions, tableKey, hplacement, hdefinitions, heq⟩ :=
    exists_copyDefinitions_eq survey.columns
  refine ⟨_, definitions, tableKey, isPrimaryKey_inKeyOrder hpositions hdistinct, hplacement,
    hdefinitions, ?_⟩
  rw [← heq]
  exact ⟨copies_of_surveys hsurveys, segments_copyDefinitions⟩

/-- The columns of a table of members.  The primary key is the person and the club, in this
order, and the last column has no type. -/
def memberColumns : List ColumnInfo :=
  [⟨"club", "TEXT", false, none, 2⟩, ⟨"person", "INTEGER", false, none, 1⟩,
    ⟨"since", "", true, some "0", 0⟩]

/-- The primary key of the members is declared behind all columns. -/
theorem duplicate_columns_members :
    ∃ (session last : Session (Script Unit)) (keys : List ColumnInfo)
      (definitions tableKey : List String),
      Surveys ⟨"app.db"⟩ "members" session ⟨memberColumns, [], []⟩ last ∧
      (∀ column ∈ memberColumns, 0 ≤ column.keyPosition) ∧
      ((memberColumns.filter fun column => 0 < column.keyPosition).map keyPosition).Nodup ∧
      IsPrimaryKey memberColumns keys ∧ KeyPlacement keys tableKey ∧
      List.Forall₂ (IsDefinedBy keys) memberColumns definitions ∧
      Copies ⟨"app.db"⟩ "members" "copy" session []
        (definitions ++ tableKey ++ ForeignKeyInfo.copyDefinitions []) last := by
  have hpositions : ∀ column ∈ memberColumns, 0 ≤ column.keyPosition := by decide
  have hdistinct : ((memberColumns.filter fun column => 0 < column.keyPosition).map
      keyPosition).Nodup := by decide
  obtain ⟨journal, hsurveys⟩ := surveys_telling "members" memberColumns [] []
  obtain ⟨keys, definitions, tableKey, hkeys, hplacement, hdefinitions, hcopies, -⟩ :=
    duplicate_columns "copy" hpositions hdistinct hsurveys
  exact ⟨_, _, keys, definitions, tableKey, hsurveys, hpositions, hdistinct, hkeys, hplacement,
    hdefinitions, hcopies⟩

/-- A column whose name ends with a space that is no blank to the engine. -/
def paddedColumn : ColumnInfo where
  name := "a\u00a0"
  type := ""

/-- The copy has a column of another name. -/
theorem duplicate_paddedColumn :
    ¬ Text.EndsInInk paddedColumn.heading ∧
    ∃ journal, duplicate ⟨"app.db"⟩ "t" "copy"
        (telling (tableReplies [paddedColumn] [] (answering {})) []) =
      (.ok (), telling [] (journal ++ asked (copyCreation "copy" ["a"]) {})) := by
  have hdefinitions : copyDefinitions [paddedColumn] ++ ForeignKeyInfo.copyDefinitions [] =
      ["a"] := by decide +kernel
  refine ⟨fun h => absurd (h '\u00a0' (by decide)) (by decide), ?_⟩
  rw [← hdefinitions]
  exact duplicate_telling "t" "copy" [paddedColumn] []

end Database

end SqlAccess
