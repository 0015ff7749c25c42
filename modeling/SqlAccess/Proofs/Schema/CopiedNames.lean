import SqlAccess.Proofs.Schema.CopiedIndexes

/-!
# Names of copied indexes

The names of indexes are common to all tables, and an index whose name is taken is passed over
without an error.  So the index of a copy gets the name of the copy behind its own, with a mark
between them (`IndexInfo.copyName`).

This keeps the indexes of one copy apart, and those of copies that are made of one index.  But
the mark may also be part of a name, and then a part of the one name can move over to the other
one (`MovesOver`).  This is how two names become the same, and the only way
(`copyName_eq_iff`); a copy then loses an index to another copy (`duplicate_nameTaken`).

Main result: a copy submits the creation of its indexes under these names or nothing at all,
and of any two copies it is known which indexes get the same name (`duplicate_indexNames`).
-/

namespace SqlAccess

/-! ## A mark between two names -/

/-- Lists with a mark in them are equal if the marks stand at one place, and otherwise the one
list has the mark of the other one in front of its own, or behind it. -/
theorem append_cons_eq_append_cons_iff {α : Type} {mark : α} {front front' back back' : List α} :
    front ++ mark :: back = front' ++ mark :: back' ↔
      (front = front' ∧ back = back') ∨
        (∃ part, front = front' ++ mark :: part ∧ back' = part ++ mark :: back) ∨
        ∃ part, front' = front ++ mark :: part ∧ back = part ++ mark :: back' := by
  constructor
  · intro h
    obtain ⟨rest, hfront, hback⟩ | ⟨rest, hfront, hback⟩ := List.append_eq_append_iff.mp h
    · cases rest with
      | nil => exact .inl ⟨by simpa using hfront.symm, by simpa using hback⟩
      | cons c part =>
          obtain ⟨rfl, hrest⟩ := List.cons.inj hback
          exact .inr (.inr ⟨part, hfront, hrest⟩)
    · cases rest with
      | nil => exact .inl ⟨by simpa using hfront, by simpa using hback.symm⟩
      | cons c part =>
          obtain ⟨rfl, hrest⟩ := List.cons.inj hback
          exact .inr (.inl ⟨part, hfront, hrest⟩)
  · rintro (⟨rfl, rfl⟩ | ⟨part, rfl, rfl⟩ | ⟨part, rfl, rfl⟩) <;> simp

/-- A part of the name of an index, behind a mark, moves over to the name of the copy. -/
def MovesOver (name target name' target' : String) : Prop :=
  ∃ part, name = name' ++ "_" ++ part ∧ target' = part ++ "_" ++ target

/-- The name of the index that a copy has for one of its source. -/
def IndexInfo.copyName (target : String) (index : IndexInfo) : String :=
  index.name ++ "_" ++ target

section

variable {name target name' target' : String}

theorem movesOver_iff_toList : MovesOver name target name' target' ↔
    ∃ part, name.toList = name'.toList ++ '_' :: part ∧
      target'.toList = part ++ '_' :: target.toList := by
  constructor
  · rintro ⟨part, rfl, rfl⟩
    exact ⟨part.toList, by simp, by simp⟩
  · rintro ⟨part, hname, htarget⟩
    refine ⟨String.ofList part, ?_, ?_⟩ <;> rw [← String.toList_inj] <;> simpa

theorem MovesOver.name_ne (h : MovesOver name target name' target') : name ≠ name' := by
  obtain ⟨part, hname, -⟩ := movesOver_iff_toList.mp h
  intro heq
  have hlength := congrArg List.length hname
  rw [heq, List.length_append, List.length_cons] at hlength
  omega

theorem MovesOver.target_ne (h : MovesOver name target name' target') : target ≠ target' := by
  obtain ⟨part, -, htarget⟩ := movesOver_iff_toList.mp h
  intro heq
  have hlength := congrArg List.length htarget
  rw [heq, List.length_append, List.length_cons] at hlength
  omega

theorem MovesOver.mark_mem (h : MovesOver name target name' target') :
    '_' ∈ name.toList ∧ '_' ∈ target'.toList := by
  obtain ⟨part, hname, htarget⟩ := movesOver_iff_toList.mp h
  exact ⟨by simp [hname], by simp [htarget]⟩

end

namespace IndexInfo

variable {index index' : IndexInfo} {target target' : String}

theorem copyName_eq_iff : index.copyName target = index'.copyName target' ↔
    (index.name = index'.name ∧ target = target') ∨
      MovesOver index.name target index'.name target' ∨
      MovesOver index'.name target' index.name target := by
  have hmark : ∀ name behind : String,
      (name ++ "_" ++ behind).toList = name.toList ++ '_' :: behind.toList := fun name behind => by
    simp
  unfold copyName
  rw [movesOver_iff_toList, movesOver_iff_toList, ← String.toList_inj, hmark, hmark,
    append_cons_eq_append_cons_iff, String.toList_inj, String.toList_inj]

theorem name_eq_iff_of_copyName_eq (h : index.copyName target = index'.copyName target') :
    index.name = index'.name ↔ target = target' := by
  obtain ⟨hname, htarget⟩ | hmoves | hmoves := copyName_eq_iff.mp h
  · exact iff_of_true hname htarget
  · exact iff_of_false hmoves.name_ne hmoves.target_ne
  · exact iff_of_false hmoves.name_ne.symm hmoves.target_ne.symm

theorem eq_of_copyName_eq (h : index.copyName target = index'.copyName target')
    (hmark : '_' ∉ index.name.toList ∧ '_' ∉ index'.name.toList ∨
      '_' ∉ target.toList ∧ '_' ∉ target'.toList) :
    index.name = index'.name ∧ target = target' := by
  obtain hsame | hmoves | hmoves := copyName_eq_iff.mp h
  · exact hsame
  · obtain ⟨hname, htarget⟩ := hmoves.mark_mem
    exact (hmark.elim (fun h => h.1 hname) fun h => h.2 htarget).elim
  · obtain ⟨hname, htarget⟩ := hmoves.mark_mem
    exact (hmark.elim (fun h => h.2 hname) fun h => h.1 htarget).elim

end IndexInfo

/-! ## Copies -/

namespace Database

section

variable {ω : Type} [Engine ω]

/-- What becomes of a copy, and of which indexes of the source it gets copies. -/
inductive CopiesOwn (database : Database) (source target : String) (session : Session ω) :
    List IndexInfo → Prop where
  /-- There is no such table, or the engine does not tell of it. -/
  | untold {fault : Fault} {last : Session ω} :
      database.readSurvey source session = (.error fault, last) →
      database.duplicate source target session = (.error fault, last) →
        CopiesOwn database source target session []
  /-- There is no statement for an index without columns. -/
  | refused {survey : Survey} {index : IndexInfo} {fault : Fault} {last : Session ω} :
      database.readSurvey source session = (.ok survey, last) →
      index ∈ survey.ownIndexes → index.columns = [] →
      database.duplicate source target session = (.error fault, last) →
        CopiesOwn database source target session []
  | submitted {survey : Survey} {last : Session ω} :
      database.readSurvey source session = (.ok survey, last) →
      (∀ index ∈ survey.ownIndexes, index.columns ≠ []) →
      database.duplicate source target session =
        Action.after (Action.runBatch database.name
          (copyCreation target survey.definitions :: survey.ownIndexes.map fun index =>
            indexCreation index.unique (index.copyName target) target index.columns) last)
          (fun _ => pure ()) →
        CopiesOwn database source target session survey.ownIndexes

theorem exists_copiesOwn (database : Database) (source target : String) (session : Session ω) :
    ∃ indexes, database.CopiesOwn source target session indexes := by
  rcases hsurvey : database.readSurvey source session with ⟨fault | survey, last⟩
  · exact ⟨[], .untold hsurvey (duplicate_of_readSurvey_error target hsurvey)⟩
  · have hstatements := duplicate_of_readSurvey_ok target hsurvey
    by_cases hne : ∀ index ∈ survey.ownIndexes, index.columns ≠ []
    · refine ⟨_, .submitted hsurvey hne (hstatements.trans ?_)⟩
      exact Action.lift_bind_apply_of_ok (copyStatements_eq target hne) rfl
    · obtain ⟨index, hindex, hnone⟩ : ∃ index ∈ survey.ownIndexes, index.columns = [] := by
        simpa using hne
      obtain ⟨hmem, horigin⟩ := List.mem_filter.mp hindex
      cases hcopies : copyStatements target survey.columns survey.foreignKeys survey.indexes with
      | ok statements =>
          have hcolumns := exists_copyStatements_iff.mp ⟨statements, hcopies⟩
          exact absurd hnone (hcolumns index hmem (of_decide_eq_true horigin))
      | error fault =>
          rw [hcopies] at hstatements
          exact ⟨[], .refused hsurvey hindex hnone hstatements⟩

/-- Whatever the engine tells, a copy submits the creation of its indexes in one batch, under
their names in the copy, or nothing.  Two indexes of any two copies get the same name if both
their own names and those of the copies are the same, and otherwise exactly if a part of a name
moves over.  Then both differ, so it cannot be if the one or the other is the same, and neither
if the mark is not in the names of the indexes or not in those of the copies. -/
theorem duplicate_indexNames (database other : Database) (source target source' target' : String)
    (session session' : Session ω) :
    ∃ indexes indexes', database.CopiesOwn source target session indexes ∧
      other.CopiesOwn source' target' session' indexes' ∧
      ∀ index ∈ indexes, ∀ index' ∈ indexes',
        (index.copyName target = index'.copyName target' ↔
          (index.name = index'.name ∧ target = target') ∨
            MovesOver index.name target index'.name target' ∨
            MovesOver index'.name target' index.name target) ∧
        (index.copyName target = index'.copyName target' →
          (index.name = index'.name ↔ target = target') ∧
          ('_' ∉ index.name.toList ∧ '_' ∉ index'.name.toList ∨
            '_' ∉ target.toList ∧ '_' ∉ target'.toList →
              index.name = index'.name ∧ target = target')) := by
  obtain ⟨indexes, hcopies⟩ := exists_copiesOwn database source target session
  obtain ⟨indexes', hcopies'⟩ := exists_copiesOwn other source' target' session'
  refine ⟨indexes, indexes', hcopies, hcopies', fun index _ index' _ => ?_⟩
  exact ⟨IndexInfo.copyName_eq_iff, fun h =>
    ⟨IndexInfo.name_eq_iff_of_copyName_eq h, IndexInfo.eq_of_copyName_eq h⟩⟩

end

open Telling

/-- A unique index on one column. -/
def uniqueIndex (name column : String) : IndexInfo where
  name := name
  unique := true
  origin := "c"
  columns := [column]

/-- An engine that tells of a table with one column and a unique index on it. -/
def indexedTable (name column : String) : Session (Script Unit) :=
  telling (indexedReplies [⟨column, "TEXT", true, none, 0⟩] []
    [(uniqueIndex name column, [(0, column)])] (answering {})) []

theorem copiesOwn_indexedTable (source target name column : String) :
    CopiesOwn ⟨"app.db"⟩ source target (indexedTable name column) [uniqueIndex name column] := by
  have hplaces : ∀ index ∈ [(uniqueIndex name column, [((0 : Int), column)])],
      IndexInfo.HasPlaces index.1 index.2 :=
    List.forall_mem_singleton.mpr (IndexInfo.hasPlaces_singleton rfl)
  let survey : Survey := ⟨[⟨column, "TEXT", true, none, 0⟩], [], [uniqueIndex name column]⟩
  have hsurveys : SurveysEach ⟨"app.db"⟩ source (indexedTable name column) survey _ :=
    surveysEach_telling source [⟨column, "TEXT", true, none, 0⟩] [] hplaces (answering {})
  have hown : survey.ownIndexes = [uniqueIndex name column] := by
    simp [survey, Survey.ownIndexes, uniqueIndex]
  have hne : ∀ index ∈ survey.ownIndexes, index.columns ≠ [] := by
    simp [hown, uniqueIndex]
  have hduplicate := duplicate_of_surveysEach target hsurveys
  exact hown ▸ .submitted hsurveys.surveys.readSurvey_eq hne hduplicate

/-- The index `a` of one table and the index `a_b` of another one get the same name in copies
that are called `b_c` and `c`, so the second copy is left without its index. -/
theorem duplicate_nameTaken :
    let first := uniqueIndex "a" "x"
    let second := uniqueIndex "a_b" "y"
    CopiesOwn ⟨"app.db"⟩ "t" "b_c" (indexedTable "a" "x") [first] ∧
      CopiesOwn ⟨"app.db"⟩ "u" "c" (indexedTable "a_b" "y") [second] ∧
      first.name ≠ second.name ∧ "b_c" ≠ "c" ∧
      first.copyName "b_c" = second.copyName "c" ∧
      (first.copyCreation "b_c").sql = "CREATE UNIQUE INDEX IF NOT EXISTS a_b_c ON b_c (x)" ∧
      (second.copyCreation "c").sql = "CREATE UNIQUE INDEX IF NOT EXISTS a_b_c ON c (y)" := by
  refine ⟨copiesOwn_indexedTable .., copiesOwn_indexedTable .., ?_⟩
  decide +kernel

end Database

end SqlAccess
