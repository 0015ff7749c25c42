import SqlAccess.Proofs.Row.Sorted
import SqlAccess.Proofs.Schema.Telling
import SqlAccess.Proofs.Validation.PlainData

/-!
# Indexes of a copy

The engine lists the indexes of a table, and tells of the columns of each of them when it is
asked for them in turn.  It may tell of the columns of an index in any order, since each has
its place in it (`IndexInfo.IsToldBy`).

A copy has one index for each of those that come from a statement of their own, in the order
of the list, and nothing else of what is told of the indexes has a part in it
(`duplicate_indexes`).  So the rules of uniqueness that were declared with the table itself
are lost (`duplicate_uniqueRule`).
-/

namespace SqlAccess

open SqlAccess.Text (listing)

/-! ## Indexes that are told of -/

/-- The question for the indexes of a table. -/
def indexListQuestion (table : String) : Statement :=
  ⟨s!"PRAGMA index_list({table})", []⟩

/-- The question for the columns of an index. -/
def indexQuestion (index : String) : Statement :=
  ⟨s!"PRAGMA index_info({index})", []⟩

/-- A row tells of a column and its place in an index. -/
structure IsPlaceOf (place : Int × String) (row : Row) : Prop where
  position : row.get? "seqno" = some (.int place.1)
  name : row.get? "name" = some (.text place.2)

/-- Places hold the columns of an index, in the ascending order of the places. -/
inductive IndexInfo.HasPlaces (index : IndexInfo) (places : List (Int × String)) : Prop where
  | intro {ordered : List (Int × String)} :
      ordered.Perm places → ordered.Pairwise (fun x y => x.1 < y.1) →
      index.columns = ordered.map Prod.snd → index.columns ≠ [] → HasPlaces index places

theorem IndexInfo.hasPlaces_singleton {index : IndexInfo} {column : String}
    (h : index.columns = [column]) : index.HasPlaces [(0, column)] :=
  .intro (.refl _) (List.pairwise_singleton _ _) h (by simp [h])

/-- A row and the rows of its details tell of an index. -/
inductive IndexInfo.IsToldBy (index : IndexInfo) (row : Row) (details : List Row) : Prop where
  | intro {unique : Value} {places : List (Int × String)} :
      row.get? "name" = some (.text index.name) →
      row.get? "unique" = some unique → index.unique = unique.truth →
      row.get? "origin" = some (.text index.origin) →
      List.Forall₂ IsPlaceOf places details → index.HasPlaces places →
      IsToldBy index row details

theorem sortedBy_eq_of_ascending {places ordered : List (Int × String)}
    (hperm : ordered.Perm places) (hascending : ordered.Pairwise fun x y => x.1 < y.1) :
    sortedBy Prod.fst places = ordered := by
  have hnodup : (ordered.map Prod.fst).Nodup :=
    List.pairwise_map.mpr (hascending.imp fun h => h.ne)
  rw [sortedBy_eq_of_perm hnodup hperm.symm]
  exact (orders_le Prod.fst).sortedBy_eq_self (hascending.imp fun h => h.le)

/-- The rows that tell of places are put in the order of the places. -/
theorem exists_sortedBy_eq {places ordered : List (Int × String)} {details : List Row}
    (hdetails : List.Forall₂ IsPlaceOf places details) (hperm : ordered.Perm places)
    (hascending : ordered.Pairwise fun x y => x.1 < y.1) :
    ∃ sorted, Row.sortedBy "seqno" details = .ok sorted ∧
      List.Forall₂ IsPlaceOf ordered sorted := by
  have hnumbers : List.Forall₂ (fun number row => row.get? "seqno" = some (.int number))
      (places.map Prod.fst) details :=
    List.forall₂_map_left_iff.mpr (hdetails.imp fun _ _ h => h.position)
  obtain ⟨hlength, htells⟩ := List.forall₂_iff_zip.mp hdetails
  -- each place stays with the row that tells of it
  let sorted := sortedBy (fun entry => entry.1.1) (places.zip details)
  have hplaces : sorted.map Prod.fst = ordered := by
    rw [← sortedBy_eq_of_ascending hperm hascending]
    conv_rhs => rw [← List.map_fst_zip hlength.le, sortedBy_map]
    rfl
  have hrows : (sortedBy Prod.fst ((places.map Prod.fst).zip details)).map Prod.snd =
      sorted.map Prod.snd := by
    have hzip : (places.map Prod.fst).zip details =
        (places.zip details).map fun entry => (entry.1.1, entry.2) := by
      rw [← List.map_id details, List.zip_map, List.map_id]
      rfl
    rw [hzip, sortedBy_map, List.map_map]
    rfl
  refine ⟨_, Row.sortedBy_eq hnumbers, ?_⟩
  rw [hrows, ← hplaces, List.forall₂_map_left_iff, List.forall₂_map_right_iff, List.forall₂_same]
  exact fun entry hentry => htells (mem_sortedBy.mp hentry)

theorem IndexInfo.IsToldBy.ofRow_eq {index : IndexInfo} {row : Row} {details : List Row}
    (h : index.IsToldBy row details) : ofRow row details = .ok index := by
  obtain ⟨name, unique, origin, columns⟩ := index
  obtain @⟨told, places, hname, hunique, rfl, horigin, hdetails, hplaces⟩ := h
  obtain @⟨ordered, hperm, hascending, rfl, -⟩ := hplaces
  obtain ⟨sorted, hsorted, htells⟩ := exists_sortedBy_eq hdetails hperm hascending
  have hcolumns : Row.column "name" sorted = .ok ((ordered.map Prod.snd).map .text) := by
    refine Row.column_eq (List.forall₂_map_left_iff.mpr (List.forall₂_map_left_iff.mpr ?_))
    exact htells.imp fun _ _ h => h.name
  unfold ofRow
  rw [Row.lookup_of_get? hname, Row.lookup_of_get? hunique, Row.lookup_of_get? horigin, hsorted]
  change (Row.column "name" sorted >>= _) = _
  rw [hcolumns]
  change Checked.toExcept (IndexInfo.mk <$> .valid name <*> .valid told.truth <*> .valid origin <*>
    (Reader.list Reader.text (.list ((ordered.map Prod.snd).map .text))).under "columns") = _
  rw [list_text_eq]
  rfl

namespace Database

variable {ω : Type} [Engine ω] {database : Database} {source target : String}
  {session last : Session ω} {survey : Survey}

/-- The engine tells of the indexes that are listed, one after the other. -/
inductive TellsIndexes (database : Database) :
    List IndexInfo → List Row → Session ω → Session ω → Prop where
  | nil (session : Session ω) : TellsIndexes database [] [] session session
  | cons {index : IndexInfo} {row : Row} {details : List Row} {indexes : List IndexInfo}
      {rows : List Row} {session next last : Session ω} :
      index.IsToldBy row details →
      database.rows (indexQuestion index.name) session = (.ok details, next) →
      TellsIndexes database indexes rows next last →
      TellsIndexes database (index :: indexes) (row :: rows) session last

theorem TellsIndexes.indexInfosOf_eq {indexes : List IndexInfo} {rows : List Row}
    (h : TellsIndexes database indexes rows session last) :
    database.indexInfosOf rows session = (.ok indexes, last) := by
  induction h with
  | nil session => rfl
  | @cons index row details indexes rows session next last htold hdetails _ ih =>
      have hname : row.lookup "name" = .ok (.text index.name) := by
        obtain ⟨hname, -⟩ := htold
        exact Row.lookup_of_get? hname
      unfold indexInfosOf
      refine Action.lift_bind_apply_of_ok hname ?_
      refine Action.lift_bind_apply_of_ok rfl (Action.bind_apply_of_ok hdetails ?_)
      refine Action.lift_bind_apply_of_ok htold.ofRow_eq (Action.bind_apply_of_ok ih ?_)
      rfl

/-- The engine tells of a table that exists and of each of its indexes. -/
inductive SurveysEach (database : Database) (table : String) (session : Session ω)
    (survey : Survey) (last : Session ω) : Prop where
  | intro {found first second third : Session ω} {columnRows keyRows indexRows : List Row} :
      database.hasTable table session = (.ok true, found) →
      database.rows (columnQuestion table) found = (.ok columnRows, first) →
      List.Forall₂ ColumnInfo.IsToldBy survey.columns columnRows →
      database.rows (foreignKeyQuestion table) first = (.ok keyRows, second) →
      List.Forall₂ ForeignKeyInfo.IsToldBy survey.foreignKeys keyRows →
      database.rows (indexListQuestion table) second = (.ok indexRows, third) →
      database.TellsIndexes survey.indexes indexRows third last →
      SurveysEach database table session survey last

theorem SurveysEach.surveys (h : database.SurveysEach source session survey last) :
    database.Surveys source session survey last := by
  obtain ⟨hthere, hcolumnRows, hcolumns, hkeyRows, hkeys, hindexRows, hindexes⟩ := h
  exact .intro hthere hcolumnRows hcolumns hkeyRows hkeys
    (Action.bind_apply_of_ok hindexRows hindexes.indexInfosOf_eq)

theorem TellsIndexes.columns_ne_nil {indexes : List IndexInfo} {rows : List Row}
    (h : database.TellsIndexes indexes rows session last) :
    ∀ index ∈ indexes, index.columns ≠ [] := by
  induction h with
  | nil session => exact List.forall_mem_nil _
  | cons htold _ _ ih =>
      obtain ⟨-, -, -, -, -, -, -, -, hne⟩ := htold
      exact List.forall_mem_cons.mpr ⟨hne, ih⟩

end Database

/-! ## Indexes that are copied -/

/-- The statement that creates an index of a table. -/
def indexCreation (unique : Bool) (name table : String) (columns : List String) : Statement :=
  ⟨"CREATE " ++ (if unique then "UNIQUE " else "") ++ "INDEX IF NOT EXISTS " ++ name ++ " ON "
    ++ table ++ " (" ++ listing columns ++ ")", []⟩

/-- The statement that gives a copy an index like one of its source. -/
def IndexInfo.copyCreation (target : String) (index : IndexInfo) : Statement :=
  indexCreation index.unique (index.name ++ "_" ++ target) target index.columns

/-- The indexes that come from a statement of their own. -/
def Survey.ownIndexes (survey : Survey) : List IndexInfo :=
  survey.indexes.filter fun index => index.origin = "c"

/-- The statements that create a copy. -/
def Survey.copyCreations (survey : Survey) (target : String) : List Statement :=
  copyCreation target survey.definitions ::
    survey.ownIndexes.map (IndexInfo.copyCreation target)

/-- A statement demands that no two rows of a table agree in some columns. -/
def Statement.MakesUnique (table : String) (columns : List String) (statement : Statement) :
    Prop :=
  ∃ name, statement = indexCreation true name table columns

theorem IndexInfo.creation_copy (target : String) {index : IndexInfo} (hne : index.columns ≠ []) :
    (index.copy target).creation = .ok (index.copyCreation target).sql := by
  have hcolumns : ¬ (index.copy target).columns.isEmpty := by simpa [IndexInfo.copy] using hne
  unfold Index.creation
  rw [if_neg hcolumns]
  unfold copyCreation indexCreation copy
  cases index.unique <;> simp [toString]

theorem copyStatements_eq (target : String) {survey : Survey}
    (hne : ∀ index ∈ survey.ownIndexes, index.columns ≠ []) :
    copyStatements target survey.columns survey.foreignKeys survey.indexes =
      .ok (survey.copyCreations target) := by
  have hcreations : (survey.ownIndexes.map (IndexInfo.copy target)).mapM Index.creation =
      .ok (survey.ownIndexes.map fun index => (index.copyCreation target).sql) := by
    rw [mapM_eq_ok_iff, List.forall₂_map_left_iff, List.forall₂_map_right_iff, List.forall₂_same]
    exact fun index hindex => IndexInfo.creation_copy target (hne index hindex)
  unfold copyStatements
  dsimp only
  change (List.mapM Index.creation (survey.ownIndexes.map (IndexInfo.copy target)) >>= _) = _
  rw [hcreations]
  change Except.ok (List.map _ (_ :: List.map _ _)) = _
  rw [List.map_cons, List.map_map]
  rfl

namespace Database

variable {ω : Type} [Engine ω] {database : Database} {source : String}
  {session last : Session ω} {survey : Survey}

theorem duplicate_of_surveysEach (target : String)
    (h : database.SurveysEach source session survey last) :
    database.duplicate source target session =
      Action.after (Action.runBatch database.name (survey.copyCreations target) last)
        (fun _ => pure ()) := by
  rw [duplicate_of_surveys h.surveys]
  obtain ⟨-, -, -, -, -, -, hindexes⟩ := h
  have hne : ∀ index ∈ survey.ownIndexes, index.columns ≠ [] := fun index hindex =>
    hindexes.columns_ne_nil index (List.mem_filter.mp hindex).1
  exact Action.lift_bind_apply_of_ok (copyStatements_eq target hne) rfl

/-- A copy is created by one batch.  Behind the creation of the table it creates an index for
each index of the source that comes from a statement of its own, in the same order, as unique
and on the same columns.  The other indexes have no part in it. -/
theorem duplicate_indexes (target : String)
    (hsurveys : database.SurveysEach source session survey last) :
    database.duplicate source target session =
        Action.after (Action.runBatch database.name (survey.copyCreations target) last)
          (fun _ => pure ()) ∧
      (∀ index ∈ survey.indexes, index.origin = "c" → index.unique = true →
        ∃ statement ∈ survey.copyCreations target, statement.MakesUnique target index.columns) ∧
      ∀ {others : List IndexInfo} {session' last' : Session ω},
        others.filter (fun index => index.origin = "c") = survey.ownIndexes →
        database.SurveysEach source session' { survey with indexes := others } last' →
        database.duplicate source target session' =
          Action.after (Action.runBatch database.name (survey.copyCreations target) last')
            (fun _ => pure ()) := by
  refine ⟨duplicate_of_surveysEach target hsurveys,
    fun index hindex horigin hunique => ?_, fun hsame h => ?_⟩
  · have hown : index ∈ survey.ownIndexes :=
      List.mem_filter.mpr ⟨hindex, decide_eq_true horigin⟩
    refine ⟨index.copyCreation target, List.mem_cons_of_mem _ (List.mem_map_of_mem hown),
      index.name ++ "_" ++ target, ?_⟩
    rw [IndexInfo.copyCreation, hunique]
  · rw [duplicate_of_surveysEach target h]
    unfold Survey.copyCreations Survey.ownIndexes at *
    rw [← hsame]
    rfl

end Database

/-! ## Engines that tell of indexes -/

namespace Telling

/-- What the list of indexes has columns for. -/
def indexListFields : List String :=
  ["name", "unique", "origin"]

/-- The answer that lists indexes. -/
def indexListAnswer (indexes : List IndexInfo) : ResultSet where
  columns := indexListFields
  rows := indexes.map fun index => [.text index.name, .int (if index.unique then 1 else 0),
    .text index.origin]

/-- What the details of an index have columns for. -/
def placeFields : List String :=
  ["seqno", "name"]

/-- The answer that tells of the columns of an index, in the given order. -/
def placeAnswer (places : List (Int × String)) : ResultSet where
  columns := placeFields
  rows := places.map fun place => [.int place.1, .text place.2]

/-- Indexes with the places that are told of them, in the order in which they are told. -/
abbrev ToldIndexes := List (IndexInfo × List (Int × String))

/-- The replies that tell of the places, before others. -/
def placeReplies (told : ToldIndexes) (others : List Reply) : List Reply :=
  told.foldr (fun index replies => answering (placeAnswer index.2) ++ replies) others

/-- The replies that tell of a table with indexes, before others. -/
def indexedReplies (columns : List ColumnInfo) (parts : List ForeignKeyInfo) (told : ToldIndexes)
    (others : List Reply) : List Reply :=
  answering presence ++ (answering (columnAnswer columns) ++
    (answering (foreignKeyAnswer parts) ++
      (answering (indexListAnswer (told.map Prod.fst)) ++ placeReplies told others)))

/-- What the journal tells of the questions. -/
def surveyed (source : String) (columns : List ColumnInfo) (parts : List ForeignKeyInfo)
    (told : ToldIndexes) : List (Event Unit) :=
  asked (Database.tableCount source) presence
    ++ asked (Database.columnQuestion source) (columnAnswer columns)
    ++ asked (Database.foreignKeyQuestion source) (foreignKeyAnswer parts)
    ++ asked (indexListQuestion source) (indexListAnswer (told.map Prod.fst))
    ++ told.flatMap fun index => asked (indexQuestion index.1.name) (placeAnswer index.2)

theorem isPlaceOf_placeAnswer (places : List (Int × String)) :
    List.Forall₂ IsPlaceOf places (Outcome.rowsOf (placeAnswer places)) := by
  have hfields : placeFields.Pairwise fun first second => Row.answersTo first second = false := by
    decide +kernel
  change List.Forall₂ _ places ((places.map _).map (Row.ofCells placeFields))
  rw [List.map_map, List.forall₂_map_right_iff, List.forall₂_same]
  intro place _
  rw [Function.comp, Row.ofCells_eq_zip hfields rfl]
  exact ⟨rfl, rfl⟩

theorem tellsIndexes_telling {told : ToldIndexes}
    (htold : ∀ index ∈ told, index.1.HasPlaces index.2) (others : List Reply)
    (journal : List (Event Unit)) :
    Database.TellsIndexes ⟨"app.db"⟩ (told.map Prod.fst)
      (Outcome.rowsOf (indexListAnswer (told.map Prod.fst)))
      (telling (placeReplies told others) journal)
      (telling others (journal ++ told.flatMap fun index =>
        asked (indexQuestion index.1.name) (placeAnswer index.2))) := by
  have hfields : indexListFields.Pairwise fun first second =>
      Row.answersTo first second = false := by
    decide +kernel
  induction told generalizing journal with
  | nil =>
      rw [List.flatMap_nil, List.append_nil]
      exact .nil _
  | cons index told ih =>
      rw [List.forall_mem_cons] at htold
      have hrest := ih htold.2 (journal ++ asked (indexQuestion index.1.name) (placeAnswer index.2))
      rw [List.append_assoc] at hrest
      rw [List.flatMap_cons]
      refine .cons ?_ (rows_telling (isSimple_pragma "index_info(" index.1.name) _ _ _) hrest
      change index.1.IsToldBy (Row.ofCells indexListFields _) _
      rw [Row.ofCells_eq_zip hfields rfl]
      refine .intro rfl rfl ?_ rfl (isPlaceOf_placeAnswer index.2) htold.1
      cases index.1.unique <;> rfl

/-- Whatever the indexes of a table are, and in whatever order their columns are told, an engine
can tell of them. -/
theorem surveysEach_telling (source : String) (columns : List ColumnInfo)
    (parts : List ForeignKeyInfo) {told : ToldIndexes}
    (htold : ∀ index ∈ told, index.1.HasPlaces index.2) (others : List Reply) :
    Database.SurveysEach ⟨"app.db"⟩ source (telling (indexedReplies columns parts told others) [])
      ⟨columns, parts, told.map Prod.fst⟩
      (telling others (surveyed source columns parts told)) :=
  .intro (hasTable_telling source _)
    (rows_telling (isSimple_pragma "table_info(" source) _ _ _) (isToldBy_columnAnswer columns)
    (rows_telling (isSimple_pragma "foreign_key_list(" source) _ _ _)
    (isToldBy_foreignKeyAnswer parts)
    (rows_telling (isSimple_pragma "index_list(" source) _ _ _)
    (tellsIndexes_telling htold others _)

end Telling

namespace Database

open Telling

/-- The columns of a table of guests. -/
def guestColumns : List ColumnInfo :=
  [⟨"first", "TEXT", true, none, 0⟩, ⟨"last", "TEXT", true, none, 0⟩,
    ⟨"email", "TEXT", true, none, 0⟩]

/-- Its indexes.  The rule that no two guests have the same address is part of the table, and
the columns of the name are told backwards. -/
def guestIndexes : ToldIndexes :=
  [(⟨"by_name", true, "c", ["last", "first"]⟩, [(1, "first"), (0, "last")]),
    (⟨"sqlite_autoindex_guests_1", true, "u", ["email"]⟩, [(0, "email")]),
    (⟨"by_first", false, "c", ["first"]⟩, [(0, "first")])]

theorem hasPlaces_guestIndexes : ∀ index ∈ guestIndexes, index.1.HasPlaces index.2 := by
  have hname : IndexInfo.HasPlaces ⟨"by_name", true, "c", ["last", "first"]⟩
      [(1, "first"), (0, "last")] :=
    have hperm : [((0 : Int), "last"), (1, "first")].Perm [(1, "first"), (0, "last")] := .swap ..
    .intro hperm (by decide) rfl (by simp)
  unfold guestIndexes
  simp only [List.forall_mem_cons]
  exact ⟨hname, IndexInfo.hasPlaces_singleton rfl, IndexInfo.hasPlaces_singleton rfl,
    List.forall_mem_nil _⟩

/-- The copy of the guests has the indexes that have statements of their own. -/
theorem duplicate_indexes_guests :
    SurveysEach ⟨"app.db"⟩ "guests"
        (telling (indexedReplies guestColumns [] guestIndexes (answering {})) [])
        ⟨guestColumns, [], guestIndexes.map Prod.fst⟩
        (telling (answering {}) (surveyed "guests" guestColumns [] guestIndexes)) ∧
      ∃ statements,
        duplicate ⟨"app.db"⟩ "guests" "copy"
            (telling (indexedReplies guestColumns [] guestIndexes (answering {})) []) =
          Action.after (Action.runBatch "app.db" statements
            (telling (answering {}) (surveyed "guests" guestColumns [] guestIndexes)))
            (fun _ => pure ()) ∧
        statements.map Statement.sql =
          ["CREATE TABLE IF NOT EXISTS copy (first TEXT, last TEXT, email TEXT)",
            "CREATE UNIQUE INDEX IF NOT EXISTS by_name_copy ON copy (last, first)",
            "CREATE INDEX IF NOT EXISTS by_first_copy ON copy (first)"] := by
  have hsurveys :=
    surveysEach_telling "guests" guestColumns [] hasPlaces_guestIndexes (answering {})
  refine ⟨hsurveys, _, (duplicate_indexes "copy" hsurveys).1, ?_⟩
  have hkeys : ColumnInfo.keyNames guestColumns = [] := by
    unfold ColumnInfo.keyNames
    rw [(orders_le ColumnInfo.keyPosition).sortedBy_eq_self (by decide)]
    rfl
  have hdefinitions : Survey.definitions ⟨guestColumns, [], guestIndexes.map Prod.fst⟩ =
      ["first TEXT", "last TEXT", "email TEXT"] := by
    unfold Survey.definitions ColumnInfo.copyDefinitions
    rw [hkeys]
    decide +kernel
  unfold Survey.copyCreations
  rw [hdefinitions]
  decide +kernel

/-- The only column of a table of members. -/
def memberAddress : ColumnInfo where
  name := "email"
  type := "TEXT"

/-- Its rule of uniqueness, which is part of the table. -/
def uniqueAddress : IndexInfo where
  name := "sqlite_autoindex_t_1"
  unique := true
  origin := "u"
  columns := ["email"]

/-- A rule of uniqueness that is part of the source is lost: no statement of the copy, which is
only the creation of the table, says that anything is unique. -/
theorem duplicate_uniqueRule :
    ∃ last, SurveysEach ⟨"app.db"⟩ "t"
        (telling (indexedReplies [memberAddress] [] [(uniqueAddress, [(0, "email")])]
          (answering {})) []) ⟨[memberAddress], [], [uniqueAddress]⟩ last ∧
      duplicate ⟨"app.db"⟩ "t" "copy"
          (telling (indexedReplies [memberAddress] [] [(uniqueAddress, [(0, "email")])]
            (answering {})) []) =
        (.ok (), telling [] (surveyed "t" [memberAddress] [] [(uniqueAddress, [(0, "email")])] ++
          asked ⟨"CREATE TABLE IF NOT EXISTS copy (email TEXT)", []⟩ {})) := by
  have hplaces : ∀ index ∈ [(uniqueAddress, [((0 : Int), "email")])],
      IndexInfo.HasPlaces index.1 index.2 :=
    List.forall_mem_singleton.mpr (.intro (.refl _) (by simp) rfl (by simp [uniqueAddress]))
  have hsurveys := surveysEach_telling "t" [memberAddress] [] hplaces (answering {})
  have hdefinitions : ColumnInfo.copyDefinitions [memberAddress] ++
      ForeignKeyInfo.copyDefinitions [] = ["email TEXT"] := by decide +kernel
  have hsql : (copyCreation "copy" ["email TEXT"]).sql =
      "CREATE TABLE IF NOT EXISTS copy (email TEXT)" := by decide +kernel
  have hcreation : copyCreation "copy" ["email TEXT"] =
      ⟨"CREATE TABLE IF NOT EXISTS copy (email TEXT)", []⟩ :=
    congrArg (fun sql => (⟨sql, []⟩ : Statement)) hsql
  have hstatements : Survey.copyCreations ⟨[memberAddress], [], [uniqueAddress]⟩ "copy" =
      [⟨"CREATE TABLE IF NOT EXISTS copy (email TEXT)", []⟩] := by
    have hown : Survey.ownIndexes ⟨[memberAddress], [], [uniqueAddress]⟩ = [] := by decide
    rw [Survey.copyCreations, hown, Survey.definitions, hdefinitions, hcreation]
    rfl
  have hrun := runBatch_telling (isSimple_copyCreation "copy" ["email TEXT"]) {} []
    (surveyed "t" [memberAddress] [] [(uniqueAddress, [(0, "email")])])
  rw [hcreation] at hrun
  have hduplicate := duplicate_of_surveysEach "copy" hsurveys
  refine ⟨_, hsurveys, hduplicate.trans ?_⟩
  change Action.after (Action.runBatch "app.db" (Survey.copyCreations
    ⟨[memberAddress], [], [uniqueAddress]⟩ "copy") _) _ = _
  rw [hstatements]
  exact congrArg (fun ending => Action.after ending fun _ => pure ()) hrun

end Database

end SqlAccess
