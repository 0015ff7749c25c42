import SqlAccess.Engine.Script
import SqlAccess.Proofs.Registry.Handle
import SqlAccess.Proofs.Row.Lookup
import SqlAccess.Proofs.Schema.Survey
import SqlAccess.Proofs.Statement.FirstWord

/-!
# Engines that tell of a table

A scripted engine can tell of a table whatever there is to be told: for each list of
columns and each list of columns of foreign keys there are replies from which just these
are read (`surveys_telling`).  The creation of the copy is then submitted to it, as a
transaction of its own (`duplicate_telling`).
-/

namespace SqlAccess

open Statement (IsPlain)

/-! ## Statements that are answered -/

/-- A statement that is neither an insertion nor part of a bracket. -/
structure Statement.IsSimple (statement : Statement) : Prop where
  isPlain : statement.IsPlain
  isInsertion_eq : statement.isInsertion = false

/-- Questions and creations are simple. -/
theorem isSimple_of_word (word rest : String) (arguments : List Value)
    (hword : word ∈ ["SELECT", "CREATE", "PRAGMA"]) :
    Statement.IsSimple ⟨word ++ " " ++ rest, arguments⟩ := by
  have hopens : ∀ word ∈ ["SELECT", "CREATE", "PRAGMA"], Opens (word ++ " ") := by decide
  have hwords : ∀ word ∈ ["SELECT", "CREATE", "PRAGMA"],
      Text.wordsOf word.toList = [word.toList] := by decide +kernel
  have hinsertion : ∀ word ∈ ["SELECT", "CREATE", "PRAGMA"],
      ["INSERT", "REPLACE"].contains (Text.capitals (String.ofList word.toList)) = false := by
    decide +kernel
  refine ⟨isPlain_of_opens ((hopens word hword).append rest), ?_⟩
  have hread : Text.wordsOf (word ++ " " ++ rest).toList =
      word.toList :: Text.wordsOf rest.toList := by
    rw [String.toList_append, String.toList_append, List.append_assoc, ← List.singleton_append,
      ← hwords word hword]
    exact Text.wordsFrom_append_of_blank (show Text.isBlank ' ' = true by decide)
  unfold Statement.isInsertion Text.words
  rw [hread]
  exact hinsertion word hword

namespace Telling

/-- A session whose only connection is open, with the replies that its engine has left. -/
def telling (replies : List Reply) (journal : List (Event Unit)) : Session (Script Unit) where
  registry := { connections := [{ name := "app.db", path := "", handle := some ⟨1⟩ }] }
  outside := { connected := 1, replies, journal }

/-- The replies to a statement in a transaction of its own. -/
def answering (result : ResultSet) : List Reply :=
  [{}, { result }, {}]

/-- What the journal tells of it. -/
def asked (statement : Statement) (result : ResultSet) : List (Event Unit) :=
  [.call (.execute ⟨1⟩ .beginning) {}, .call (.execute ⟨1⟩ statement) { result },
    .call (.execute ⟨1⟩ .commit) {}]

variable {statement : Statement}

/-- The session within the transaction. -/
def begun (replies : List Reply) (journal : List (Event Unit)) : Session (Script Unit) where
  registry := { connections := [{ name := "app.db", path := "", handle := some ⟨1⟩ }] }
  outside := { connected := 1, replies, journal, active := [⟨1⟩] }

theorem execute_begun (h : statement.IsPlain) (result : ResultSet) (replies : List Reply)
    (journal : List (Event Unit)) :
    Action.execute ⟨1⟩ statement (begun ({ result } :: replies) journal) =
      (.ok result, begun replies (journal ++ [.call (.execute ⟨1⟩ statement) { result }])) := by
  obtain ⟨hbeginning, hcommit, hrollback⟩ := Statement.isPlain_iff.mp h
  have hfollow : ∀ script : Script Unit, script.follow ⟨1⟩ statement = script := fun script => by
    rw [Script.follow, if_neg hbeginning, if_neg (not_or.mpr ⟨hcommit, hrollback⟩)]
  have hexecute : (begun ({ result } :: replies) journal).outside.execute ⟨1⟩ statement =
      (.ok result,
        (begun replies (journal ++ [.call (.execute ⟨1⟩ statement) { result }])).outside) := by
    unfold Script.execute
    simp only [hfollow]
    rfl
  exact congrArg (fun answer => (answer.1, { begun [] [] with outside := answer.2 })) hexecute

theorem runFrom_begun (h : statement.IsSimple) (result : ResultSet) (replies : List Reply)
    (journal : List (Event Unit)) :
    Action.runFrom ⟨1⟩ 0 [statement] (begun ({ result } :: replies) journal) =
      (.ok [.ofResult false result],
        begun replies (journal ++ [.call (.execute ⟨1⟩ statement) { result }])) := by
  have hanswered := execute_begun h.isPlain result replies journal
  generalize journal ++ [.call (.execute ⟨1⟩ statement) { result }] = longer at hanswered ⊢
  have hstatement : Action.runStatement ⟨1⟩ statement (begun ({ result } :: replies) journal) =
      (.ok (.ofResult false result), begun replies longer) := by
    unfold Action.runStatement
    rw [h.isInsertion_eq, if_neg Bool.false_ne_true]
    exact Action.bind_apply_of_ok hanswered rfl
  have hconverted : (Action.runStatement ⟨1⟩ statement).converting
      (Action.statementFault 0 statement) (begun ({ result } :: replies) journal) =
        (.ok (.ofResult false result), begun replies longer) := by
    rw [Action.converting, hstatement]
  exact Action.bind_apply_of_ok hconverted rfl

/-- A batch of one statement takes the three replies of its transaction. -/
theorem runBatch_telling (h : statement.IsSimple) (result : ResultSet) (replies : List Reply)
    (journal : List (Event Unit)) :
    Action.runBatch "app.db" [statement] (telling (answering result ++ replies) journal) =
      (.ok [.ofResult false result], telling replies (journal ++ asked statement result)) := by
  have hjournal : journal ++ asked statement result =
      journal ++ [.call (.execute ⟨1⟩ .beginning) {}] ++
        [.call (.execute ⟨1⟩ statement) { result }] ++ [.call (.execute ⟨1⟩ .commit) {}] := by
    simp [asked]
  have hbegun : Action.execute ⟨1⟩ .beginning (telling (answering result ++ replies) journal) =
      (.ok {}, begun ({ result } :: {} :: replies)
        (journal ++ [.call (.execute ⟨1⟩ .beginning) {}])) := rfl
  have hrun := runFrom_begun h result ({} :: replies)
    (journal ++ [.call (.execute ⟨1⟩ .beginning) {}])
  rw [hjournal]
  generalize journal ++ [.call (.execute ⟨1⟩ .beginning) {}] ++
    [.call (.execute ⟨1⟩ statement) { result }] = longer at hrun ⊢
  have hcommitted : Action.execute ⟨1⟩ .commit (begun ({} :: replies) longer) =
      (.ok {}, telling replies (longer ++ [.call (.execute ⟨1⟩ .commit) {}])) := rfl
  have hbracketed : Action.transaction ⟨1⟩ (Action.runFrom ⟨1⟩ 0 [statement])
      (telling (answering result ++ replies) journal) =
        (.ok [.ofResult false result],
          telling replies (longer ++ [.call (.execute ⟨1⟩ .commit) {}])) := by
    refine Action.bind_apply_of_ok hbegun ?_
    rw [Action.cleaning, Action.bind_apply_of_ok hrun (Action.bind_apply_of_ok hcommitted rfl)]
    rfl
  refine Action.bind_apply_of_ok (Action.opened_of_handle rfl) ?_
  rw [Action.converting, hbracketed]

theorem rows_telling (h : statement.IsSimple) (result : ResultSet) (replies : List Reply)
    (journal : List (Event Unit)) :
    (⟨"app.db"⟩ : Database).rows statement (telling (answering result ++ replies) journal) =
      (.ok (Outcome.rowsOf result), telling replies (journal ++ asked statement result)) :=
  Action.bind_apply_of_ok (Action.bind_apply_of_ok (runBatch_telling h _ _ _) rfl) rfl

/-! ## Answers about a table -/

/-- The answer to the question whether a table exists. -/
def presence : ResultSet where
  columns := ["_count_"]
  rows := [[.int 1]]

/-- What the answer for columns has columns for. -/
def columnFields : List String :=
  ["name", "type", "notnull", "dflt_value", "pk"]

/-- The answer that tells of columns. -/
def columnAnswer (columns : List ColumnInfo) : ResultSet where
  columns := columnFields
  rows := columns.map fun column => [.text column.name, .text column.type,
    .int (if column.nullable then 0 else 1), .ofText? column.default, .int column.keyPosition]

/-- What the answer for foreign keys has columns for. -/
def foreignKeyFields : List String :=
  ["id", "seq", "table", "from", "to", "on_update", "on_delete"]

/-- The answer that tells of the columns of foreign keys. -/
def foreignKeyAnswer (parts : List ForeignKeyInfo) : ResultSet where
  columns := foreignKeyFields
  rows := parts.map fun part => [.int part.id, .int part.position, .text part.table,
    .text part.fromColumn, .ofText? part.toColumn, .text part.onUpdate, .text part.onDelete]

/-- The replies that tell of a table without indexes, before others. -/
def tableReplies (columns : List ColumnInfo) (parts : List ForeignKeyInfo)
    (others : List Reply) : List Reply :=
  answering presence ++ (answering (columnAnswer columns) ++
    (answering (foreignKeyAnswer parts) ++ (answering {} ++ others)))

theorem isToldBy_columnAnswer (columns : List ColumnInfo) :
    List.Forall₂ ColumnInfo.IsToldBy columns (Outcome.rowsOf (columnAnswer columns)) := by
  have hfields : columnFields.Pairwise fun first second => Row.answersTo first second = false := by
    decide +kernel
  change List.Forall₂ _ columns ((columns.map _).map (Row.ofCells columnFields))
  rw [List.map_map, List.forall₂_map_right_iff, List.forall₂_same]
  intro column _
  rw [Function.comp, Row.ofCells_eq_zip hfields rfl]
  exact ⟨rfl, .inl rfl, ⟨_, rfl, by cases column.nullable <;> rfl⟩, rfl, rfl⟩

theorem isToldBy_foreignKeyAnswer (parts : List ForeignKeyInfo) :
    List.Forall₂ ForeignKeyInfo.IsToldBy parts (Outcome.rowsOf (foreignKeyAnswer parts)) := by
  have hfields : foreignKeyFields.Pairwise fun first second =>
      Row.answersTo first second = false := by
    decide +kernel
  change List.Forall₂ _ parts ((parts.map _).map (Row.ofCells foreignKeyFields))
  rw [List.map_map, List.forall₂_map_right_iff, List.forall₂_same]
  intro part _
  rw [Function.comp, Row.ofCells_eq_zip hfields rfl]
  exact ⟨rfl, rfl, rfl, rfl, rfl, rfl, rfl⟩

theorem isSimple_pragma (start name : String) :
    Statement.IsSimple ⟨"PRAGMA " ++ (start ++ name ++ ")"), []⟩ :=
  isSimple_of_word "PRAGMA" _ [] (by decide)

theorem hasTable_telling (table : String) (replies : List Reply) :
    (⟨"app.db"⟩ : Database).hasTable table (telling (answering presence ++ replies) []) =
      (.ok true, telling replies (asked (Database.tableCount table) presence)) := by
  have hcount : Statement.IsSimple (Database.tableCount table) :=
    isSimple_of_word "SELECT"
      "COUNT(*) AS _count_ FROM sqlite_master WHERE type = 'table' AND name = ?" [.text table]
      (by decide)
  refine Action.bind_apply_of_ok (rows_telling hcount _ _ _) ?_
  rfl

/-- Whatever the columns and the foreign keys of a table are, an engine can tell of them. -/
theorem surveys_telling (source : String) (columns : List ColumnInfo)
    (parts : List ForeignKeyInfo) (others : List Reply) :
    ∃ journal, Database.Surveys ⟨"app.db"⟩ source
      (telling (tableReplies columns parts others) []) ⟨columns, parts, []⟩
      (telling others journal) :=
  ⟨_, .intro (hasTable_telling source _)
    (rows_telling (isSimple_pragma "table_info(" source) _ _ _) (isToldBy_columnAnswer columns)
    (rows_telling (isSimple_pragma "foreign_key_list(" source) _ _ _)
    (isToldBy_foreignKeyAnswer parts)
    (Action.bind_apply_of_ok (rows_telling (isSimple_pragma "index_list(" source) _ _ _) rfl)⟩

theorem isSimple_copyCreation (target : String) (definitions : List String) :
    Statement.IsSimple (copyCreation target definitions) := by
  have hstart : "CREATE" ++ " " ++ "TABLE IF NOT EXISTS " = "CREATE TABLE IF NOT EXISTS " := by
    decide
  have hwords : (copyCreation target definitions).sql = "CREATE" ++ " " ++
      ("TABLE IF NOT EXISTS " ++ (target ++ " (" ++ Text.listing definitions ++ ")")) := by
    rw [← String.append_assoc, hstart, ← String.append_assoc, ← String.append_assoc,
      ← String.append_assoc]
    rfl
  have hsimple := isSimple_of_word "CREATE"
    ("TABLE IF NOT EXISTS " ++ (target ++ " (" ++ Text.listing definitions ++ ")")) []
    (by decide)
  rw [← hwords] at hsimple
  exact hsimple

/-- The creation of the copy is all that is submitted after the questions. -/
theorem duplicate_telling (source target : String) (columns : List ColumnInfo)
    (parts : List ForeignKeyInfo) :
    ∃ journal, (⟨"app.db"⟩ : Database).duplicate source target
      (telling (tableReplies columns parts (answering {})) []) =
        (.ok (), telling [] (journal ++ asked (copyCreation target
          (ColumnInfo.copyDefinitions columns ++ ForeignKeyInfo.copyDefinitions parts)) {})) := by
  obtain ⟨journal, hsurveys⟩ := surveys_telling source columns parts (answering {})
  have hrun : ∀ definitions, Action.runBatch "app.db" [copyCreation target definitions]
      (telling (answering {}) journal) = (.ok [.ofResult false {}],
        telling [] (journal ++ asked (copyCreation target definitions) {})) := fun definitions =>
    runBatch_telling (isSimple_copyCreation target definitions) {} [] journal
  have hstatements : copyStatements target columns parts [] = .ok [copyCreation target
      (ColumnInfo.copyDefinitions columns ++ ForeignKeyInfo.copyDefinitions parts)] := rfl
  refine ⟨journal, ?_⟩
  rw [Database.duplicate_of_surveys hsurveys]
  refine Action.lift_bind_apply_of_ok hstatements ?_
  exact congrArg (fun ending => Action.after ending fun _ => pure ()) (hrun _)

end Telling

end SqlAccess
