import Mathlib.Data.List.DropRight
import Mathlib.Data.List.SplitBy
import SqlAccess.Proofs.Text.Segment
import SqlAccess.Schema.Copy
import SqlAccess.Text.Blank

/-!
# The text that creates a copy

What is told of a table goes into the text that creates its copy as it is: names, types,
default expressions and actions.  If each of them is closed, so that it opens no literal and
no parenthesis without closing it again and has commas only inside of these, the list of
definitions is taken apart into just the definitions that were listed
(`segments_copyDefinitions`).

The name and the type of a column lose the blanks at their end.  What is left is still
closed, since blanks mean nothing to the reader (`IsClosed.trimEnd`).
-/

namespace SqlAccess

namespace Text

/-! ## Closed texts -/

/-- A text belongs to one segment at whatever depth it stands. -/
def IsClosed (text : String) : Prop :=
  ∀ depth, Solid depth text

section

variable {text other : String} {texts : List String}

theorem IsClosed.append (h : IsClosed text) (hother : IsClosed other) : IsClosed (text ++ other) :=
  fun depth => (h depth).append (hother depth)

-- The characters of the text are gone through; bounded quantification over characters would be
-- decided by going through all characters that there are.
theorem isClosed_of_all_isOrdinary (h : text.toList.all (IsOrdinary ·)) : IsClosed text :=
  solid_of_forall_isOrdinary fun c hc => of_decide_eq_true (List.all_eq_true.mp h c hc)

/-- A listing in parentheses. -/
theorem isClosed_group (h : ∀ text ∈ texts, IsClosed text) :
    IsClosed ("(" ++ listing texts ++ ")") := fun depth =>
  ((solid_comma depth).intercalate fun text htext => h text htext (depth + 1)).enclosed

/-! ## Blanks at the end -/

theorem toList_trimEnd (text : String) :
    (trimEnd text).toList = text.toList.rdropWhile isBlank :=
  String.toList_ofList

theorem isOrdinary_of_isBlank {c : Char} (h : isBlank c = true) : IsOrdinary c := by
  refine ⟨?_, ?_, ?_, ?_, ?_⟩ <;>
    · rintro rfl
      exact absurd h (by decide)

theorem Place.after_of_forall_isOrdinary {chars : List Char} (h : ∀ c ∈ chars, IsOrdinary c)
    (place : Place) : place.after chars = place := by
  induction chars with
  | nil => rfl
  | cons c chars ih =>
      rw [List.forall_mem_cons] at h
      rw [after_cons, h.1.next_eq, ih h.2]

theorem IsClosed.trimEnd (h : IsClosed text) : IsClosed (trimEnd text) := by
  intro depth
  obtain ⟨hafter, hunseparated⟩ := h depth
  have hblanks : ∀ c ∈ text.toList.rtakeWhile isBlank, IsOrdinary c := fun c hc =>
    isOrdinary_of_isBlank (List.mem_rtakeWhile_imp hc)
  rw [← List.rdropWhile_append_rtakeWhile (p := isBlank) (l := text.toList)] at hafter hunseparated
  rw [Place.after_append, Place.after_of_forall_isOrdinary hblanks] at hafter
  rw [Place.unseparated_append, Bool.and_eq_true] at hunseparated
  rw [← toList_trimEnd] at hafter hunseparated
  exact ⟨hafter, hunseparated.1⟩

end

end Text

open Text (isClosed_group isClosed_of_all_isOrdinary listing)

/-! ## Definitions of a copy -/

/-- What is told of a column is closed. -/
structure ColumnInfo.IsClosed (column : ColumnInfo) : Prop where
  name : Text.IsClosed column.name
  type : Text.IsClosed column.type
  default : ∀ text ∈ column.default, Text.IsClosed text

/-- What is told of a column of a foreign key is closed. -/
structure ForeignKeyInfo.IsClosed (part : ForeignKeyInfo) : Prop where
  table : Text.IsClosed part.table
  fromColumn : Text.IsClosed part.fromColumn
  toColumn : ∀ text ∈ part.toColumn, Text.IsClosed text
  onUpdate : Text.IsClosed part.onUpdate
  onDelete : Text.IsClosed part.onDelete

theorem ColumnInfo.IsClosed.copyDefinition {column : ColumnInfo} (h : column.IsClosed)
    (keyAlone : Bool) : Text.IsClosed (copyDefinition keyAlone column) := by
  have hkeywords : ∀ word ∈ ["", " ", " NOT NULL", " DEFAULT ", " PRIMARY KEY"],
      Text.IsClosed word := by
    have hordinary : ∀ word ∈ ["", " ", " NOT NULL", " DEFAULT ", " PRIMARY KEY"],
        word.toList.all (Text.IsOrdinary ·) := by decide
    exact fun word hword => isClosed_of_all_isOrdinary (hordinary word hword)
  simp only [List.forall_mem_cons, List.not_mem_nil, false_implies, implies_true, and_true]
    at hkeywords
  obtain ⟨hempty, hblank, hnotNull, hkeyword, hprimary⟩ := hkeywords
  unfold ColumnInfo.copyDefinition
  refine ((((h.name.append hblank).append h.type).trimEnd.append ?_).append ?_).append ?_
  · split
    · exact hempty
    · exact hnotNull
  · split
    · rename_i text htext
      exact hkeyword.append (h.default text htext)
    · exact hempty
  · split
    · exact hprimary
    · exact hempty

theorem ColumnInfo.isClosed_copyDefinitions {columns : List ColumnInfo}
    (h : ∀ column ∈ columns, column.IsClosed) :
    ∀ text ∈ copyDefinitions columns, Text.IsClosed text := by
  refine List.forall_mem_append.mpr ⟨?_, ?_⟩
  · exact List.forall_mem_map.mpr fun column hcolumn => (h column hcolumn).copyDefinition _
  · split
    · refine List.forall_mem_singleton.mpr ?_
      have hkeyword : Text.IsClosed "PRIMARY KEY " := isClosed_of_all_isOrdinary (by decide)
      have hnames : ∀ name ∈ keyNames columns, Text.IsClosed name :=
        List.forall_mem_map.mpr fun column hcolumn =>
          (h column (mem_sortedBy.mp (List.mem_filter.mp hcolumn).1)).name
      have hwords : s!"PRIMARY KEY ({listing (keyNames columns)})" =
          "PRIMARY KEY " ++ ("(" ++ listing (keyNames columns) ++ ")") := by
        simp [← String.toList_inj, toString]
      rw [hwords]
      exact hkeyword.append (isClosed_group hnames)
    · exact List.forall_mem_nil _

/-- The columns that a foreign key refers to, in parentheses; they may be left out. -/
def ForeignKeyInfo.targets : Option (List String) → String
  | some names => " (" ++ listing names ++ ")"
  | none => ""

/-- The clause for a foreign key whose first column is given. -/
def ForeignKeyInfo.clause (first : ForeignKeyInfo) (fromColumns : List String)
    (toColumns : Option (List String)) : String :=
  "FOREIGN KEY (" ++ listing fromColumns ++ ") REFERENCES " ++ first.table ++ targets toColumns
    ++ " ON DELETE " ++ first.onDelete ++ " ON UPDATE " ++ first.onUpdate

theorem ForeignKeyInfo.copyDefinition_cons (first : ForeignKeyInfo)
    (others : List ForeignKeyInfo) :
    copyDefinition (first :: others) = some (first.clause ((first :: others).map fromColumn)
      (some ((first :: others).map fun part => part.toColumn.getD ""))) := by
  unfold copyDefinition clause targets
  simp [← String.toList_inj, toString]

theorem ForeignKeyInfo.IsClosed.clause {first : ForeignKeyInfo} {fromColumns : List String}
    {toColumns : Option (List String)} (h : first.IsClosed)
    (hfrom : ∀ name ∈ fromColumns, Text.IsClosed name)
    (hto : ∀ names ∈ toColumns, ∀ name ∈ names, Text.IsClosed name) :
    Text.IsClosed (first.clause fromColumns toColumns) := by
  have hkeywords : ∀ word ∈ ["FOREIGN KEY ", " REFERENCES ", " ", "", " ON DELETE ",
      " ON UPDATE "], Text.IsClosed word := by
    have hordinary : ∀ word ∈ ["FOREIGN KEY ", " REFERENCES ", " ", "", " ON DELETE ",
        " ON UPDATE "], word.toList.all (Text.IsOrdinary ·) := by decide
    exact fun word hword => isClosed_of_all_isOrdinary (hordinary word hword)
  simp only [List.forall_mem_cons, List.not_mem_nil, false_implies, implies_true, and_true]
    at hkeywords
  obtain ⟨hkey, hreferences, hblank, hempty, hdeletion, hupdate⟩ := hkeywords
  have htargets : Text.IsClosed (targets toColumns) := by
    cases toColumns with
    | none => exact hempty
    | some names =>
        have hgroup := hblank.append (isClosed_group (hto names rfl))
        rwa [← String.append_assoc, ← String.append_assoc] at hgroup
  have hcolumns := (hkey.append (isClosed_group hfrom)).append hreferences
  have hwords : "FOREIGN KEY " ++ ("(" ++ listing fromColumns ++ ")") ++ " REFERENCES " =
      "FOREIGN KEY (" ++ listing fromColumns ++ ") REFERENCES " := by
    simp [← String.toList_inj]
  rw [hwords] at hcolumns
  exact (((((hcolumns.append h.table).append htargets).append hdeletion).append
    h.onDelete).append hupdate).append h.onUpdate

theorem ForeignKeyInfo.isClosed_copyDefinition {parts : List ForeignKeyInfo} {text : String}
    (h : ∀ part ∈ parts, part.IsClosed) (hdefinition : copyDefinition parts = some text) :
    Text.IsClosed text := by
  cases parts with
  | nil => cases hdefinition
  | cons first others =>
      rw [copyDefinition_cons, Option.some.injEq] at hdefinition
      subst hdefinition
      refine (h first List.mem_cons_self).clause ?_ ?_
      · exact List.forall_mem_map.mpr fun part hpart => (h part hpart).fromColumn
      · rintro _ ⟨⟩
        refine List.forall_mem_map.mpr fun part hpart => ?_
        cases hcolumn : part.toColumn with
        | none => exact isClosed_of_all_isOrdinary (by decide)
        | some name => exact (h part hpart).toColumn name hcolumn

theorem ForeignKeyInfo.isClosed_copyDefinitions {parts : List ForeignKeyInfo}
    (h : ∀ part ∈ parts, part.IsClosed) : ∀ text ∈ copyDefinitions parts, Text.IsClosed text := by
  refine fun text htext => ?_
  obtain ⟨run, hrun, hdefinition⟩ := List.mem_filterMap.mp htext
  refine isClosed_copyDefinition (fun part hpart => h part ?_) hdefinition
  have hmem := List.mem_flatten.mpr ⟨run, hrun, hpart⟩
  rw [List.flatten_splitBy] at hmem
  exact mem_sortedBy.mp hmem

/-- The list of definitions is taken apart into just these definitions. -/
theorem segments_copyDefinitions {columns : List ColumnInfo} {parts : List ForeignKeyInfo}
    (hne : columns ≠ []) (hcolumns : ∀ column ∈ columns, column.IsClosed)
    (hparts : ∀ part ∈ parts, part.IsClosed) :
    Text.segments (listing (ColumnInfo.copyDefinitions columns ++
        ForeignKeyInfo.copyDefinitions parts)) =
      ColumnInfo.copyDefinitions columns ++ ForeignKeyInfo.copyDefinitions parts := by
  refine Text.segments_listing ?_ (List.forall_mem_append.mpr ⟨?_, ?_⟩)
  · simp [ColumnInfo.copyDefinitions, hne]
  · exact fun text htext => ColumnInfo.isClosed_copyDefinitions hcolumns text htext 0
  · exact fun text htext => ForeignKeyInfo.isClosed_copyDefinitions hparts text htext 0

end SqlAccess
