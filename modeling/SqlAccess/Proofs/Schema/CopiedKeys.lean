import Mathlib.Data.Int.Order.Basic
import SqlAccess.Proofs.Schema.CopiedText
import SqlAccess.Proofs.Schema.Telling
import SqlAccess.Proofs.Sorting.Keyed

/-!
# Foreign keys of a copy

The engine tells of the foreign keys of a table column by column.  The columns that share a
number are one foreign key, and they may come in any order and mixed with those of others.

A copy has one clause for each of the numbers, and the columns in the clause are those of
its foreign key (`IsClauseOf`).  The columns that a foreign key refers to may be left
unnamed, and then the clause has a list of empty names (`RefersAsWritten`), with which no
table can be created.
-/

namespace SqlAccess

open SqlAccess.Text (listing segments)

namespace ForeignKeyInfo

variable {parts others : List ForeignKeyInfo}

/-! ## Grouping -/

/-- A column comes before another one: its foreign key does, or it does in the same one. -/
def Precedes (part other : ForeignKeyInfo) : Prop :=
  part.id < other.id ∨ part.id = other.id ∧ part.position ≤ other.position

theorem orders_precedes :
    Orders (fun part : ForeignKeyInfo => [part.id, part.position]) Precedes where
  not_lt_iff x y := by
    rw [List.cons_lt_cons_iff, List.cons_lt_cons_iff, Precedes]
    simp only [List.not_lt_nil, and_false, or_false]
    omega
  trans x y z := by
    simp only [Precedes]
    omega
  total x y := by
    simp only [Precedes]
    omega

/-- The columns sorted by number and position. -/
def inOrder (parts : List ForeignKeyInfo) : List ForeignKeyInfo :=
  sortedBy (fun part => [part.id, part.position]) parts

theorem inOrder_perm (parts : List ForeignKeyInfo) : (inOrder parts).Perm parts :=
  sortedBy_perm _ parts

theorem copyDefinitions_eq (parts : List ForeignKeyInfo) :
    copyDefinitions parts =
      ((inOrder parts).splitBy fun x y => x.id == y.id).filterMap copyDefinition :=
  rfl

/-- No two columns have the same place in the same foreign key. -/
def Placed (parts : List ForeignKeyInfo) : Prop :=
  (parts.map fun part => (part.id, part.position)).Nodup

/-- The order in which the columns come is forgotten. -/
theorem inOrder_eq_of_perm (hplaced : Placed parts) (hperm : others.Perm parts) :
    inOrder others = inOrder parts := by
  refine orders_precedes.sortedBy_eq_of_perm (fun x hx y hy hxy hyx => ?_) hperm
  refine List.inj_on_of_nodup_map hplaced hx hy (Prod.ext ?_ ?_)
  · simp only [Precedes] at hxy hyx
    omega
  · simp only [Precedes] at hxy hyx
    omega

theorem copyDefinitions_eq_of_perm (hplaced : Placed parts) (hperm : others.Perm parts) :
    copyDefinitions others = copyDefinitions parts := by
  rw [copyDefinitions_eq, copyDefinitions_eq, inOrder_eq_of_perm hplaced hperm]

/-- A list holds the columns of the foreign key of a number, each of them once and in the
order of their positions. -/
structure IsKey (parts : List ForeignKeyInfo) (number : Int) (key : List ForeignKeyInfo) :
    Prop where
  perm : key.Perm (parts.filter fun part => part.id = number)
  ascending : key.Pairwise fun x y => x.position ≤ y.position

/-- Sorted columns that share a number are a foreign key. -/
theorem isKey_entriesOf (parts : List ForeignKeyInfo) (number : Int) :
    IsKey parts number (entriesOf id (inOrder parts) number) where
  perm := (inOrder_perm parts).filter _
  ascending := by
    refine ((orders_precedes.pairwise_sortedBy parts).filter _).imp_of_mem ?_
    intro x y hx hy hprecedes
    have hsame : x.id = y.id := (mem_entriesOf.mp hx).2.trans (mem_entriesOf.mp hy).2.symm
    simp only [Precedes] at hprecedes
    omega

/-- The numbers of the foreign keys, each of them once. -/
def numbers (parts : List ForeignKeyInfo) : List Int :=
  ((inOrder parts).map id).dedup

theorem mem_numbers {number : Int} :
    number ∈ numbers parts ↔ ∃ part ∈ parts, part.id = number := by
  simp [numbers, (inOrder_perm parts).mem_iff]

theorem pairwise_id_inOrder (parts : List ForeignKeyInfo) :
    (inOrder parts).Pairwise fun x y => x.id ≤ y.id :=
  (orders_precedes.pairwise_sortedBy parts).imp fun {x y} h => by
    simp only [Precedes] at h
    omega

theorem pairwise_numbers (parts : List ForeignKeyInfo) : (numbers parts).Pairwise (· < ·) :=
  pairwise_dedup_map (pairwise_id_inOrder parts)

theorem copyDefinitions_eq_filterMap (parts : List ForeignKeyInfo) :
    copyDefinitions parts = (numbers parts).filterMap fun number =>
      copyDefinition (entriesOf id (inOrder parts) number) := by
  have hruns : (inOrder parts).splitBy (fun x y => x.id == y.id) =
      (numbers parts).map (entriesOf id (inOrder parts)) :=
    splitBy_eq_map_entriesOf (pairwise_id_inOrder parts)
  rw [copyDefinitions_eq, hruns, List.filterMap_map]
  rfl

/-- A text is the clause that a copy has for the foreign key of a number.  The table and the
actions are those of the key's first column; a column that the key refers to is left empty
if the engine does not name it. -/
inductive IsClauseOf (parts : List ForeignKeyInfo) (number : Int) (clause : String) : Prop where
  | intro {first : ForeignKeyInfo} {others : List ForeignKeyInfo} :
      IsKey parts number (first :: others) →
      clause = first.clause ((first :: others).map fromColumn)
        (some ((first :: others).map fun part => part.toColumn.getD "")) →
      IsClauseOf parts number clause

/-- The definitions of foreign keys are one for each number. -/
theorem isClauseOf_copyDefinitions (parts : List ForeignKeyInfo) :
    List.Forall₂ (IsClauseOf parts) (numbers parts) (copyDefinitions parts) := by
  have hclause : ∀ number ∈ numbers parts, ∃ clause,
      copyDefinition (entriesOf id (inOrder parts) number) = some clause ∧
        IsClauseOf parts number clause := by
    intro number hnumber
    have hkey := isKey_entriesOf parts number
    obtain ⟨part, hpart, hid⟩ := mem_numbers.mp hnumber
    have hne : entriesOf id (inOrder parts) number ≠ [] :=
      List.ne_nil_of_mem (mem_entriesOf.mpr ⟨(inOrder_perm parts).mem_iff.mpr hpart, hid⟩)
    obtain ⟨first, others, heq⟩ := List.exists_cons_of_ne_nil hne
    rw [heq] at hkey ⊢
    exact ⟨_, copyDefinition_cons first others, hkey, rfl⟩
  rw [copyDefinitions_eq_filterMap]
  generalize numbers parts = numbers at hclause
  induction numbers with
  | nil => exact .nil
  | cons number numbers ih =>
      rw [List.forall_mem_cons] at hclause
      obtain ⟨⟨clause, hdefinition, hisClause⟩, hrest⟩ := hclause
      rw [List.filterMap_cons, hdefinition]
      exact .cons hisClause (ih hrest)

/-! ## The columns referred to -/

/-- The columns that a foreign key refers to: it names one for each of its own columns, or it
names none and refers to the primary key. -/
inductive Refers (key : List ForeignKeyInfo) : Option (List String) → Prop where
  | named {names : List String} : key.map toColumn = names.map some → Refers key (some names)
  | unnamed : (∀ part ∈ key, part.toColumn = none) → Refers key none

/-- The names that a clause has for the columns that a foreign key refers to.  If the foreign
key names none, the clause has an empty name for each of its columns. -/
structure IsWrittenFor (key : List ForeignKeyInfo) (names : List String) : Prop where
  length_eq : names.length = key.length
  named : ∀ columns, Refers key (some columns) → names = columns
  unnamed : Refers key none → ∀ name ∈ names, name = ""

theorem isWrittenFor_map_getD (key : List ForeignKeyInfo) :
    IsWrittenFor key (key.map fun part => part.toColumn.getD "") where
  length_eq := List.length_map _
  named := by
    rintro columns ⟨hnamed⟩
    have hmap : (key.map toColumn).map (fun column => column.getD "") = columns := by
      rw [hnamed, List.map_map]
      exact List.map_id columns
    rwa [List.map_map] at hmap
  unnamed := by
    rintro (_ | hunnamed)
    refine List.forall_mem_map.mpr fun part hpart => ?_
    rw [hunnamed part hpart, Option.getD_none]

theorem clause_some_ne_none (first : ForeignKeyInfo) (fromColumns names : List String) :
    first.clause fromColumns (some names) ≠ first.clause fromColumns none := by
  intro h
  unfold clause at h
  rw [String.append_left_inj, String.append_left_inj, String.append_left_inj,
    String.append_left_inj, String.append_right_inj] at h
  simp [targets] at h

/-- A clause of a copy refers to just the columns that its foreign key names.  If the foreign
key names none, the clause does not leave them out: it has a list of empty names. -/
inductive RefersAsWritten (parts : List ForeignKeyInfo) (number : Int) (clause : String) :
    Prop where
  | intro {first : ForeignKeyInfo} {others : List ForeignKeyInfo} {names : List String} :
      IsKey parts number (first :: others) → IsWrittenFor (first :: others) names →
      clause = first.clause ((first :: others).map fromColumn) (some names) →
      clause ≠ first.clause ((first :: others).map fromColumn) none →
      RefersAsWritten parts number clause

theorem IsClauseOf.refersAsWritten {parts : List ForeignKeyInfo} {number : Int}
    {clause : String} (h : IsClauseOf parts number clause) :
    RefersAsWritten parts number clause := by
  obtain ⟨hkey, rfl⟩ := h
  exact .intro hkey (isWrittenFor_map_getD _) (Eq.refl _) (clause_some_ne_none _ _ _)

end ForeignKeyInfo

namespace Database

/-! ## Copies -/

open ForeignKeyInfo Telling

/-- A copy has one clause for each number of a foreign key, in ascending order of the numbers
and behind all other definitions.  Each clause has the columns of its foreign key in the order
of their positions.  In which order the engine tells of them does not matter. -/
theorem duplicate_foreignKeys (columns : List ColumnInfo) {foreignKeys : List ForeignKeyInfo}
    (hplaced : Placed foreignKeys) :
    ∃ (numbers : List Int) (clauses : List String),
      numbers.Pairwise (· < ·) ∧
      (∀ number, number ∈ numbers ↔ ∃ part ∈ foreignKeys, part.id = number) ∧
      List.Forall₂ (IsClauseOf foreignKeys) numbers clauses ∧
      (columns ≠ [] → (∀ column ∈ columns, column.IsClosed) →
        (∀ part ∈ foreignKeys, part.IsClosed) →
        segments (listing (ColumnInfo.copyDefinitions columns ++ clauses)) =
          ColumnInfo.copyDefinitions columns ++ clauses) ∧
      ∀ {ω : Type} [Engine ω] {database : Database} {source target : String}
        {session last : Session ω} {survey : Survey}, survey.columns = columns →
        survey.foreignKeys.Perm foreignKeys → database.Surveys source session survey last →
        database.Copies source target session survey.indexes
          (ColumnInfo.copyDefinitions columns ++ clauses) last := by
  refine ⟨numbers foreignKeys, copyDefinitions foreignKeys, pairwise_numbers foreignKeys,
    fun _ => mem_numbers, isClauseOf_copyDefinitions foreignKeys, segments_copyDefinitions, ?_⟩
  rintro ω _ database source target session last survey rfl hperm hsurveys
  have hsame : copyDefinitions survey.foreignKeys = copyDefinitions foreignKeys :=
    copyDefinitions_eq_of_perm hplaced hperm
  rw [← hsame]
  exact copies_of_surveys hsurveys

/-- The columns of a table of visits. -/
def visitColumns : List ColumnInfo :=
  [⟨"guest", "INTEGER", true, none, 0⟩, ⟨"land", "TEXT", true, none, 0⟩,
    ⟨"city", "TEXT", true, none, 0⟩]

/-- Its foreign keys, the columns of the second one apart from each other.  The first one
refers to the primary key of the guests. -/
def visitKeys : List ForeignKeyInfo :=
  [⟨1, 1, "places", "city", some "name", "CASCADE", "CASCADE"⟩,
    ⟨0, 0, "guests", "guest", none, "NO ACTION", "SET NULL"⟩,
    ⟨1, 0, "places", "land", some "land", "CASCADE", "CASCADE"⟩]

theorem isClosed_visitColumns : ∀ column ∈ visitColumns, column.IsClosed := by
  have hordinary : ∀ column ∈ visitColumns, column.default = none ∧
      ∀ text ∈ [column.name, column.type], text.toList.all (Text.IsOrdinary ·) := by decide
  intro column hcolumn
  obtain ⟨hdefault, htexts⟩ := hordinary column hcolumn
  have hclosed : ∀ text ∈ [column.name, column.type], Text.IsClosed text := fun text htext =>
    Text.isClosed_of_all_isOrdinary (htexts text htext)
  rw [List.forall_mem_cons, List.forall_mem_singleton] at hclosed
  exact ⟨hclosed.1, hclosed.2, by simp [hdefault]⟩

theorem isClosed_visitKeys : ∀ part ∈ visitKeys, part.IsClosed := by
  have hordinary : ∀ part ∈ visitKeys, ∀ text ∈ [part.table, part.fromColumn, part.onUpdate,
      part.onDelete] ++ part.toColumn.toList, text.toList.all (Text.IsOrdinary ·) := by decide
  intro part hpart
  have hclosed : ∀ text ∈ [part.table, part.fromColumn, part.onUpdate, part.onDelete] ++
      part.toColumn.toList, Text.IsClosed text := fun text htext =>
    Text.isClosed_of_all_isOrdinary (hordinary part hpart text htext)
  simp only [List.cons_append, List.nil_append, List.forall_mem_cons, Option.mem_toList]
    at hclosed
  obtain ⟨htable, hfrom, honUpdate, honDelete, hto⟩ := hclosed
  exact ⟨htable, hfrom, hto, honUpdate, honDelete⟩

/-- The engine may tell of the foreign keys in any order. -/
theorem duplicate_foreignKeys_visits :
    Placed visitKeys ∧ ∃ (numbers : List Int) (clauses : List String),
      numbers.Pairwise (· < ·) ∧
      (∀ number, number ∈ numbers ↔ ∃ part ∈ visitKeys, part.id = number) ∧
      List.Forall₂ (IsClauseOf visitKeys) numbers clauses ∧
      segments (listing (ColumnInfo.copyDefinitions visitColumns ++ clauses)) =
        ColumnInfo.copyDefinitions visitColumns ++ clauses ∧
      ∀ told, told.Perm visitKeys → ∃ journal,
        Copies ⟨"app.db"⟩ "visits" "copy" (telling (tableReplies visitColumns told []) []) []
          (ColumnInfo.copyDefinitions visitColumns ++ clauses) (telling [] journal) := by
  have hplaced : Placed visitKeys := by unfold Placed; decide
  obtain ⟨numbers, clauses, hascending, hnumbers, hclauses, hsegments, hcopies⟩ :=
    duplicate_foreignKeys visitColumns hplaced
  refine ⟨hplaced, numbers, clauses, hascending, hnumbers, hclauses,
    hsegments (by decide) isClosed_visitColumns isClosed_visitKeys, fun told hperm => ?_⟩
  obtain ⟨journal, hsurveys⟩ := surveys_telling "visits" visitColumns told []
  exact ⟨journal, hcopies rfl hperm hsurveys⟩

/-- The clauses of a copy refer to the columns that the foreign keys name, and have empty names
where these name none. -/
theorem duplicate_references {ω : Type} [Engine ω] {database : Database} {source : String}
    (target : String) {session last : Session ω} {survey : Survey}
    (hsurveys : database.Surveys source session survey last) :
    ∃ (numbers : List Int) (clauses : List String),
      numbers.Pairwise (· < ·) ∧
      (∀ number, number ∈ numbers ↔ ∃ part ∈ survey.foreignKeys, part.id = number) ∧
      List.Forall₂ (RefersAsWritten survey.foreignKeys) numbers clauses ∧
      database.Copies source target session survey.indexes
        (ColumnInfo.copyDefinitions survey.columns ++ clauses) last :=
  ⟨numbers survey.foreignKeys, copyDefinitions survey.foreignKeys,
    pairwise_numbers survey.foreignKeys, fun _ => mem_numbers,
    (isClauseOf_copyDefinitions survey.foreignKeys).imp fun _ _ h => h.refersAsWritten,
    copies_of_surveys hsurveys⟩

/-- Of the foreign keys of the visits, the second one names the columns it refers to. -/
theorem duplicate_references_visits :
    ∃ (session last : Session (Script Unit)) (numbers : List Int) (clauses : List String),
      Surveys ⟨"app.db"⟩ "visits" session ⟨visitColumns, visitKeys, []⟩ last ∧
      numbers.Pairwise (· < ·) ∧
      (∀ number, number ∈ numbers ↔ ∃ part ∈ visitKeys, part.id = number) ∧
      List.Forall₂ (RefersAsWritten visitKeys) numbers clauses ∧
      Copies ⟨"app.db"⟩ "visits" "copy" session []
        (ColumnInfo.copyDefinitions visitColumns ++ clauses) last := by
  obtain ⟨journal, hsurveys⟩ := surveys_telling "visits" visitColumns visitKeys []
  obtain ⟨numbers, clauses, hascending, hnumbers, hclauses, hcopies⟩ :=
    duplicate_references "copy" hsurveys
  exact ⟨_, _, numbers, clauses, hsurveys, hascending, hnumbers, hclauses, hcopies⟩

/-- The definitions of a copy of the visits. -/
def visitDefinitions : List String :=
  ["guest INTEGER", "land TEXT", "city TEXT",
    "FOREIGN KEY (guest) REFERENCES guests () ON DELETE SET NULL ON UPDATE NO ACTION",
    "FOREIGN KEY (land, city) REFERENCES places (land, name) ON DELETE CASCADE ON UPDATE CASCADE"]

theorem copyDefinitions_visits :
    ColumnInfo.copyDefinitions visitColumns ++ copyDefinitions visitKeys = visitDefinitions := by
  have hsorted : inOrder visitKeys =
      [⟨0, 0, "guests", "guest", none, "NO ACTION", "SET NULL"⟩,
        ⟨1, 0, "places", "land", some "land", "CASCADE", "CASCADE"⟩,
        ⟨1, 1, "places", "city", some "name", "CASCADE", "CASCADE"⟩] :=
    (inOrder_eq_of_perm (by unfold Placed; decide) (by decide)).trans
      (orders_precedes.sortedBy_eq_self (by simp [Precedes]))
  have hkeys : ColumnInfo.keyNames visitColumns = [] := by
    refine List.map_eq_nil_iff.mpr (List.filter_eq_nil_iff.mpr fun column hcolumn => ?_)
    have hnone : ∀ column ∈ visitColumns, column.keyPosition = 0 := by decide
    simp [hnone column (mem_sortedBy.mp hcolumn)]
  rw [ColumnInfo.copyDefinitions, hkeys, copyDefinitions_eq, hsorted]
  decide +kernel

/-- The first one does not: it is the one column `guest`, which refers to the primary key of
the guests.  The copy is created with a list that has just an empty name. -/
theorem duplicate_unnamed :
    IsKey visitKeys 0 [⟨0, 0, "guests", "guest", none, "NO ACTION", "SET NULL"⟩] ∧
    Refers [⟨0, 0, "guests", "guest", none, "NO ACTION", "SET NULL"⟩] none ∧
    ∃ journal,
      duplicate ⟨"app.db"⟩ "visits" "copy"
        (telling (tableReplies visitColumns visitKeys (answering {})) []) =
      (.ok (), telling [] (journal ++ asked (copyCreation "copy" visitDefinitions) {})) := by
  refine ⟨⟨by decide, by simp⟩, .unnamed (by simp), ?_⟩
  rw [← copyDefinitions_visits]
  exact duplicate_telling "visits" "copy" visitColumns visitKeys

end Database

end SqlAccess
