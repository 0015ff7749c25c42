import SqlAccess.Proofs.Engine.Versioned
import SqlAccess.Proofs.Statement.Plain

/-!
# An engine in memory

A shelf keeps a sheet under each path: a version, and the texts of the statements
that were carried out, in order.  Each connection has a desk.  What a transaction
has made of the sheet lies on the desk as a draft, and committing it puts it in
the place of the sheet on the shelf.  Only one desk at a time has a draft.

The shelf meets the laws of a versioned engine (`Shelf.versioned`), so the laws
do not contradict each other.  It knows little SQL: the empty text is refused, and
every other text is carried out by writing it down.
-/

namespace SqlAccess

/-! ## Sheets -/

/-- The data under a path. -/
structure Sheet where
  version : Int := 0
  /-- The texts that were carried out. -/
  lines : List String := []
  deriving DecidableEq, Repr

namespace Sheet

/-- What the texts that store a version start with. -/
def updateStart : String := "PRAGMA user_version = "

/-- The number that digits with an optional minus denote. -/
def numberOf : List Char → Int
  | '-' :: digits => -(Nat.ofDigitChars 10 digits 0 : Int)
  | digits => Nat.ofDigitChars 10 digits 0

/-- The version that a text stores, if it is an update of the version. -/
def versionOf? (sql : String) : Option Int :=
  if updateStart.toList <+: sql.toList then
    some (numberOf (sql.toList.drop updateStart.length))
  else none

/-- Carries a text out; the empty text is refused. -/
def carryOut (sql : String) (sheet : Sheet) : Option (ResultSet × Sheet) :=
  if sql = "" then none
  else if sql = Statement.rowMarker.sql then some ({}, sheet)
  else if sql = Database.versionQuestion.sql then
    some ({ columns := ["user_version"], rows := [[.int sheet.version]] }, sheet)
  else
    match versionOf? sql with
    | some number => some ({}, { sheet with version := number })
    | none => some ({}, { sheet with lines := sheet.lines ++ [sql] })

theorem numberOf_repr (number : Int) : numberOf number.repr.toList = number := by
  have hdigits : ∀ magnitude : Nat, numberOf magnitude.repr.toList = magnitude := by
    intro magnitude
    rw [Nat.toList_repr]
    unfold numberOf
    split
    · -- there is no minus among the digits
      rename_i digits hminus
      have hmem : '-' ∈ Nat.toDigits 10 magnitude := by
        rw [hminus]
        exact List.mem_cons_self
      exact absurd (Nat.isDigit_of_mem_toDigits (by decide) (by decide) hmem) (by decide)
    · rw [Nat.ofDigitChars_ten_toDigits]
  rw [Int.repr_eq_if]
  split
  · rw [hdigits]
    omega
  · have hminus : numberOf ("-" ++ (-number).toNat.repr).toList =
        -numberOf (-number).toNat.repr.toList := by
      rw [hdigits, String.toList_append, Nat.toList_repr]
      change (-(Nat.ofDigitChars 10 (Nat.toDigits 10 _) 0 : Int)) = _
      rw [Nat.ofDigitChars_ten_toDigits]
    rw [hminus, hdigits]
    omega

theorem toList_versionUpdate (number : Int) :
    (Database.versionUpdate number).sql.toList = updateStart.toList ++ number.repr.toList := by
  unfold Database.versionUpdate
  rw [Int.toString_eq_repr]
  exact String.toList_append

theorem versionOf?_versionUpdate (number : Int) :
    versionOf? (Database.versionUpdate number).sql = some number := by
  unfold versionOf?
  rw [toList_versionUpdate, if_pos (List.prefix_append _ _), ← String.length_toList,
    List.drop_left, numberOf_repr]

/-- An update of the version is none of the texts that do not start like one. -/
theorem versionUpdate_ne {number : Int} {sql : String} (h : ¬ updateStart.toList <+: sql.toList) :
    (Database.versionUpdate number).sql ≠ sql := by
  rintro rfl
  exact h (toList_versionUpdate number ▸ List.prefix_append _ _)

theorem carryOut_versionUpdate (number : Int) (sheet : Sheet) :
    carryOut (Database.versionUpdate number).sql sheet =
      some ({}, { sheet with version := number }) := by
  unfold carryOut
  rw [if_neg (versionUpdate_ne (by decide)), if_neg (versionUpdate_ne (by decide)),
    if_neg (versionUpdate_ne (by decide)), versionOf?_versionUpdate]

theorem carryOut_rowMarker (sheet : Sheet) :
    carryOut Statement.rowMarker.sql sheet = some ({}, sheet) := by
  unfold carryOut
  rw [if_neg (by decide), if_pos rfl]

theorem carryOut_versionQuestion (sheet : Sheet) :
    carryOut Database.versionQuestion.sql sheet =
      some ({ columns := ["user_version"], rows := [[.int sheet.version]] }, sheet) := by
  unfold carryOut
  rw [if_neg (by decide), if_neg (by decide), if_pos rfl]

/-- Only the updates of the version change the version. -/
theorem version_carryOut {sql : String} {sheet changed : Sheet} {result : ResultSet}
    (hplain : ¬ updateStart.toList <+: sql.toList)
    (h : carryOut sql sheet = some (result, changed)) : changed.version = sheet.version := by
  unfold carryOut versionOf? at h
  rw [if_neg hplain] at h
  split at h
  · cases h
  · split at h
    · cases h
      rfl
    · split at h <;> cases h <;> rfl

end Sheet

/-! ## Desks -/

/-- The place of a connection. -/
structure Desk where
  path : String
  /-- What the transaction has made of the sheet, if there is one. -/
  draft : Option Sheet := none

/-- An engine that keeps sheets in memory. -/
structure Shelf where
  /-- The desks of the connections, by their numbers. -/
  desks : List Desk := []
  sheets : String → Sheet := fun _ => {}

namespace Shelf

variable {handle other : Handle} {shelf : Shelf} {desk : Desk} {draft : Option Sheet}

/-- The desk of a connection. -/
def desk? (shelf : Shelf) (handle : Handle) : Option Desk :=
  shelf.desks[handle.number]?

/-- Lays a draft on a desk, or takes it away. -/
def setDraft (shelf : Shelf) (handle : Handle) (draft : Option Sheet) : Shelf :=
  { shelf with desks := shelf.desks.modify handle.number fun desk => { desk with draft } }

/-- Puts a sheet on the shelf. -/
def putSheet (shelf : Shelf) (path : String) (sheet : Sheet) : Shelf :=
  { shelf with sheets := fun place => if place = path then sheet else shelf.sheets place }

theorem desk?_setDraft_self (h : shelf.desk? handle = some desk) :
    (shelf.setDraft handle draft).desk? handle = some { desk with draft } := by
  unfold desk? setDraft at *
  rw [List.getElem?_modify_eq, h]
  rfl

theorem desk?_setDraft_of_ne (h : other ≠ handle) :
    (shelf.setDraft handle draft).desk? other = shelf.desk? other := by
  have hnumber : handle.number ≠ other.number := by
    intro hsame
    exact h (congrArg Handle.mk hsame.symm)
  exact List.getElem?_modify_ne _ _ hnumber

theorem map_path_desk?_setDraft (shelf : Shelf) (handle other : Handle) (draft : Option Sheet) :
    ((shelf.setDraft handle draft).desk? other).map Desk.path =
      (shelf.desk? other).map Desk.path := by
  unfold desk? setDraft
  rw [List.getElem?_modify]
  cases shelf.desks[other.number]? with
  | none => rfl
  | some desk =>
      simp only [Option.map_eq_map, Option.map_some]
      split <;> rfl

/-! ## Requests -/

/-- Why a request is refused. -/
def refusal : Fault := .reported (.engine .operational) "refused"

/-- Runs a statement in a transaction. -/
def runInside (handle : Handle) (path : String) (draft : Sheet) (statement : Statement)
    (shelf : Shelf) : Except Fault ResultSet × Shelf :=
  if statement.sql = Statement.commit.sql then
    (.ok {}, (shelf.putSheet path draft).setDraft handle none)
  else if statement.sql = Statement.rollback.sql then (.ok {}, shelf.setDraft handle none)
  else
    match draft.carryOut statement.sql with
    | some (result, changed) => (.ok result, shelf.setDraft handle (some changed))
    | none => (.error refusal, shelf)

/-- Runs a statement outside of a transaction; only a beginning means anything
there, and it has to wait for all other transactions. -/
def runOutside (handle : Handle) (path : String) (statement : Statement) (shelf : Shelf) :
    Except Fault ResultSet × Shelf :=
  if statement.sql = Statement.beginning.sql then
    if shelf.desks.any fun desk => desk.draft.isSome then (.error refusal, shelf)
    else (.ok {}, shelf.setDraft handle (some (shelf.sheets path)))
  else (.ok {}, shelf)

instance : Engine Shelf where
  connect path _ shelf :=
    (.ok ⟨shelf.desks.length⟩, { shelf with desks := shelf.desks ++ [{ path }] })
  execute handle statement shelf :=
    match shelf.desk? handle with
    | some ⟨path, some draft⟩ => shelf.runInside handle path draft statement
    | some ⟨path, none⟩ => shelf.runOutside handle path statement
    | none => (.error refusal, shelf)
  close _ shelf := (.ok (), shelf)
  inTransaction handle shelf := ((shelf.desk? handle).bind Desk.draft).isSome

theorem execute_of_draft {path : String} {sheet : Sheet} (statement : Statement)
    (h : shelf.desk? handle = some ⟨path, some sheet⟩) :
    Engine.execute handle statement shelf = shelf.runInside handle path sheet statement := by
  simp only [Engine.execute, h]

theorem execute_of_no_draft {path : String} (statement : Statement)
    (h : shelf.desk? handle = some ⟨path, none⟩) :
    Engine.execute handle statement shelf = shelf.runOutside handle path statement := by
  simp only [Engine.execute, h]

theorem execute_of_no_desk (statement : Statement) (h : shelf.desk? handle = none) :
    Engine.execute handle statement shelf = (.error refusal, shelf) := by
  simp only [Engine.execute, h]

/-! ## The laws -/

/-- What a connection sees. -/
def state (handle : Handle) (shelf : Shelf) : TransactionState Sheet :=
  match shelf.desk? handle with
  | some ⟨path, some draft⟩ => .active (shelf.sheets path) draft
  | some ⟨path, none⟩ => .idle (shelf.sheets path)
  | none => .idle {}

/-- What a statement answers and makes of a sheet. -/
def effect (statement : Statement) (sheet : Sheet) (result : ResultSet) (changed : Sheet) : Prop :=
  sheet.carryOut statement.sql = some (result, changed)

theorem state_of_draft {path : String} {sheet : Sheet}
    (h : shelf.desk? handle = some ⟨path, some sheet⟩) :
    shelf.state handle = .active (shelf.sheets path) sheet := by
  simp only [state, h]

theorem state_of_no_draft {path : String} (h : shelf.desk? handle = some ⟨path, none⟩) :
    shelf.state handle = .idle (shelf.sheets path) := by
  simp only [state, h]

theorem desk?_of_active {snapshot sheet : Sheet}
    (h : shelf.state handle = .active snapshot sheet) :
    ∃ path, shelf.desk? handle = some ⟨path, some sheet⟩ ∧ shelf.sheets path = snapshot := by
  unfold state at h
  split at h
  · rename_i path draft hdesk
    cases h
    exact ⟨path, hdesk, rfl⟩
  · cases h
  · cases h

theorem begins {sheet : Sheet} (h : shelf.state handle = .idle sheet) :
    Ends (fun _ after => after.state handle = .active sheet sheet)
      (fun _ after => after.state handle = .idle sheet)
      (Engine.execute handle Statement.beginning shelf) := by
  cases hdesk : shelf.desk? handle with
  | none =>
      rw [execute_of_no_desk _ hdesk]
      exact h
  | some desk =>
      obtain ⟨path, _ | draft⟩ := desk
      · rw [execute_of_no_draft _ hdesk, runOutside, if_pos rfl]
        split
        · exact h
        · rw [state_of_no_draft hdesk] at h
          cases h
          exact state_of_draft (desk?_setDraft_self hdesk)
      · rw [state_of_draft hdesk] at h
        cases h

theorem runs {snapshot sheet : Sheet} {statement : Statement}
    (h : shelf.state handle = .active snapshot sheet) (hplain : statement.IsPlain) :
    Ends (fun result after => ∃ changed, effect statement sheet result changed ∧
        after.state handle = .active snapshot changed)
      (fun _ after => (after.state handle).FailedFrom snapshot sheet)
      (Engine.execute handle statement shelf) := by
  obtain ⟨path, hdesk, rfl⟩ := desk?_of_active h
  obtain ⟨-, hcommit, hrollback⟩ := Statement.isPlain_iff.mp hplain
  rw [execute_of_draft _ hdesk, runInside, if_neg hcommit, if_neg hrollback]
  split
  · rename_i result changed heffect
    exact ⟨changed, heffect, state_of_draft (desk?_setDraft_self hdesk)⟩
  · exact .inl h

theorem commits {snapshot sheet : Sheet} (h : shelf.state handle = .active snapshot sheet) :
    Ends (fun _ after => after.state handle = .idle sheet)
      (fun _ after => (after.state handle).FailedFrom snapshot sheet)
      (Engine.execute handle Statement.commit shelf) := by
  obtain ⟨path, hdesk, rfl⟩ := desk?_of_active h
  rw [execute_of_draft _ hdesk, runInside, if_pos rfl]
  -- putting the sheet on the shelf moves no desk
  have hdesk' : ((shelf.putSheet path sheet).setDraft handle none).desk? handle =
      some ⟨path, none⟩ := desk?_setDraft_self hdesk
  rw [ends_ok, state_of_no_draft hdesk']
  exact congrArg _ (if_pos rfl)

theorem rollsBack {snapshot sheet : Sheet} (h : shelf.state handle = .active snapshot sheet) :
    Ends (fun _ after => after.state handle = .idle snapshot) (fun _ _ => False)
      (Engine.execute handle Statement.rollback shelf) := by
  obtain ⟨path, hdesk, rfl⟩ := desk?_of_active h
  rw [execute_of_draft _ hdesk, runInside, if_neg (by decide), if_pos rfl]
  exact state_of_no_draft (desk?_setDraft_self hdesk)

theorem inTransaction_eq (handle : Handle) (shelf : Shelf) :
    Engine.inTransaction handle shelf = (shelf.state handle).isActive := by
  simp only [Engine.inTransaction, state]
  rcases shelf.desk? handle with _ | ⟨path, _ | draft⟩ <;> rfl

/-- The path of a connection. -/
def file (handle : Handle) (shelf : Shelf) : Option String :=
  (shelf.desk? handle).map Desk.path

/-- A statement does nothing but to change the draft of its own connection and the
sheet that it is a draft of. -/
theorem execute_eq (handle : Handle) (statement : Statement) (shelf : Shelf) :
    ∃ sheets, (∀ path, shelf.file handle ≠ some path → sheets path = shelf.sheets path) ∧
      ((Engine.execute handle statement shelf).2 = shelf ∨
        ∃ draft, (Engine.execute handle statement shelf).2 =
          ({ shelf with sheets } : Shelf).setDraft handle draft) := by
  cases hdesk : shelf.desk? handle with
  | none => exact ⟨shelf.sheets, fun _ _ => rfl, .inl (by rw [execute_of_no_desk _ hdesk])⟩
  | some desk =>
      obtain ⟨path, _ | draft⟩ := desk
      · refine ⟨shelf.sheets, fun _ _ => rfl, ?_⟩
        rw [execute_of_no_draft _ hdesk, runOutside]
        split
        · split
          · exact .inl rfl
          · exact .inr ⟨_, rfl⟩
        · exact .inl rfl
      · rw [execute_of_draft _ hdesk, runInside]
        split
        · refine ⟨(shelf.putSheet path draft).sheets, ?_, .inr ⟨none, rfl⟩⟩
          intro place hplace
          refine if_neg ?_
          rintro rfl
          exact hplace (by rw [file, hdesk]; rfl)
        · refine ⟨shelf.sheets, fun _ _ => rfl, ?_⟩
          split
          · exact .inr ⟨none, rfl⟩
          · split
            · exact .inr ⟨_, rfl⟩
            · exact .inl rfl

theorem file_execute (handle other : Handle) (statement : Statement) (shelf : Shelf) :
    file other (Engine.execute handle statement shelf).2 = file other shelf := by
  obtain ⟨sheets, -, hsame | ⟨draft, hdraft⟩⟩ := execute_eq handle statement shelf
  · rw [hsame]
  · rw [hdraft]
    exact map_path_desk?_setDraft _ _ _ _

theorem undisturbed_execute (statement : Statement) (shelf : Shelf) (h : other ≠ handle) :
    Undisturbed file other shelf (Engine.execute handle statement shelf).2 := by
  refine ⟨file_execute handle other statement shelf, ?_⟩
  obtain ⟨sheets, -, hsame | ⟨draft, hdraft⟩⟩ := execute_eq handle statement shelf
  · rw [hsame]
  · rw [hdraft]
    simp only [Engine.inTransaction]
    rw [desk?_setDraft_of_ne h]
    rfl

theorem sheets_execute {path : String} (statement : Statement) (shelf : Shelf)
    (h : shelf.file handle ≠ some path) :
    (Engine.execute handle statement shelf).2.sheets path = shelf.sheets path := by
  obtain ⟨sheets, hsheets, hsame | ⟨draft, hdraft⟩⟩ := execute_eq handle statement shelf
  · rw [hsame]
  · rw [hdraft]
    exact hsheets path h

theorem not_updates_setup (config : Config) :
    ∀ statement ∈ config.setup, ¬ Sheet.updateStart.toList <+: statement.sql.toList := by
  refine forall_mem_setup ?_ config
  rintro (_ | _) (_ | (_ | _ | _ | _ | _ | _)) <;> decide

/-- Nothing but a beginning begins a transaction. -/
theorem not_inTransaction_execute {statement : Statement}
    (hsql : statement.sql ≠ Statement.beginning.sql)
    (h : Engine.inTransaction handle shelf = false) :
    Engine.inTransaction handle (Engine.execute handle statement shelf).2 = false := by
  cases hdesk : shelf.desk? handle with
  | none =>
      rw [execute_of_no_desk _ hdesk]
      exact h
  | some desk =>
      obtain ⟨path, _ | draft⟩ := desk
      · rw [execute_of_no_draft _ hdesk, runOutside, if_neg hsql]
        exact h
      · simp only [Engine.inTransaction, hdesk] at h
        cases h

theorem commit_ends (handle : Handle) (shelf : Shelf) :
    Ends (fun _ after => Engine.inTransaction handle after = false) (fun _ _ => True)
      (Engine.execute handle Statement.commit shelf) := by
  cases hdesk : shelf.desk? handle with
  | none =>
      rw [execute_of_no_desk _ hdesk]
      trivial
  | some desk =>
      obtain ⟨path, _ | draft⟩ := desk
      · rw [execute_of_no_draft _ hdesk, runOutside, if_neg (by decide)]
        simp only [ends_ok, Engine.inTransaction, hdesk]
        rfl
      · have hcommitted := commits (state_of_draft hdesk)
        rw [execute_of_draft _ hdesk, runInside, if_pos rfl, ends_ok] at hcommitted ⊢
        rw [inTransaction_eq, hcommitted]
        rfl

/-- If the sheet and its draft have the same version, they still have it after a
statement that does not update the version. -/
theorem version_kept {statement : Statement} {number : Int}
    (hplain : ¬ Sheet.updateStart.toList <+: statement.sql.toList)
    (h : (shelf.state handle).All fun sheet => sheet.version = number) :
    ((Engine.execute handle statement shelf).2.state handle).All fun sheet =>
      sheet.version = number := by
  cases hdesk : shelf.desk? handle with
  | none =>
      rw [execute_of_no_desk _ hdesk]
      exact h
  | some desk =>
      obtain ⟨path, _ | draft⟩ := desk
      · rw [execute_of_no_draft _ hdesk, runOutside]
        rw [state_of_no_draft hdesk] at h
        have hsame : shelf.state handle = .idle (shelf.sheets path) := state_of_no_draft hdesk
        split
        · split
          · exact hsame ▸ h
          · rw [state_of_draft (desk?_setDraft_self hdesk)]
            exact ⟨h, h⟩
        · exact hsame ▸ h
      · have hactive := state_of_draft hdesk
        rw [execute_of_draft _ hdesk, runInside]
        rw [hactive] at h
        split
        · have hput : (shelf.putSheet path draft).desk? handle = some ⟨path, some draft⟩ := hdesk
          rw [state_of_no_draft (desk?_setDraft_self hput)]
          exact (congrArg Sheet.version (if_pos rfl)).trans h.2
        · split
          · rw [state_of_no_draft (desk?_setDraft_self hdesk)]
            exact h.1
          · split
            · rename_i result changed heffect
              rw [state_of_draft (desk?_setDraft_self hdesk)]
              exact ⟨h.1, (Sheet.version_carryOut hplain heffect).trans h.2⟩
            · exact hactive ▸ h

/-- A new connection gets a desk after all the others. -/
theorem desk?_connect (path : String) (shelf : Shelf) (other : Handle) :
    ({ shelf with desks := shelf.desks ++ [{ path }] } : Shelf).desk? other =
      if other = ⟨shelf.desks.length⟩ then some { path } else shelf.desk? other := by
  obtain ⟨number⟩ := other
  simp only [desk?, List.getElem?_append, Handle.mk.injEq]
  split
  · rw [if_neg (by omega)]
  · split
    · simp_all
    · rw [List.getElem?_eq_none (by simp; omega), List.getElem?_eq_none (by omega)]

theorem connects (path : String) (shelf : Shelf) :
    let handle : Handle := ⟨shelf.desks.length⟩
    let after : Shelf := { shelf with desks := shelf.desks ++ [{ path }] }
    file handle shelf = none ∧ file handle after = some path ∧
      Engine.inTransaction handle after = false ∧
      ∀ other, other ≠ handle → Undisturbed file other shelf after := by
  refine ⟨?_, ?_, ?_, ?_⟩
  · exact congrArg (Option.map Desk.path) (List.getElem?_eq_none (Nat.le_refl _))
  · rw [file, desk?_connect, if_pos rfl]
    rfl
  · simp only [Engine.inTransaction]
    rw [desk?_connect, if_pos rfl]
    rfl
  · intro other hother
    simp only [Undisturbed, file, Engine.inTransaction]
    rw [desk?_connect, if_neg hother]
    exact ⟨rfl, rfl⟩

theorem durable_of_file {path : String} (h : shelf.file handle = some path) :
    (shelf.state handle).durable = shelf.sheets path := by
  obtain ⟨⟨place, draft⟩, hdesk, rfl⟩ := Option.map_eq_some_iff.mp h
  cases draft with
  | none => rw [state_of_no_draft hdesk, TransactionState.durable]
  | some draft => rw [state_of_draft hdesk, TransactionState.durable]

/-- The shelf meets the laws, whichever path the version is asked for at. -/
def versioned (path : String) : VersionedEngine Shelf Sheet where
  state := state
  controls := Statement.Controls
  effect := effect
  inTransaction_eq := inTransaction_eq
  begins := begins
  runs := runs
  commits := commits
  rollsBack := rollsBack
  not_controls_rowMarker := isPlain_rowMarker
  eq_of_effect_rowMarker h := by
    rw [effect, Sheet.carryOut_rowMarker] at h
    cases h
    rfl
  file := file
  leads place := place = path
  stored shelf := shelf.sheets path
  version := Sheet.version
  writesVersion statement := Sheet.updateStart.toList <+: statement.sql.toList
  durable_eq_stored := by
    rintro handle shelf _ hfile rfl
    exact durable_of_file hfile
  commit_ends := commit_ends
  file_execute handle statement shelf := file_execute handle handle statement shelf
  undisturbed_execute statement shelf := undisturbed_execute statement shelf
  stored_execute := by
    intro handle shelf place statement hfile hplace
    refine sheets_execute statement shelf fun hsame => hplace ?_
    exact Option.some.inj (hfile.symm.trans hsame)
  sets_up h hsetup :=
    not_inTransaction_execute (Statement.isPlain_iff.mp (isPlain_setup _ _ hsetup)).1 h
  connects opened _ shelf := connects opened shelf
  stored_connect _ _ _ := rfl
  undisturbed_close _ _ := ⟨rfl, rfl⟩
  stored_close _ _ := rfl
  version_kept _ _ hplain h := version_kept hplain h
  version_told h := by
    rw [effect, Sheet.carryOut_versionQuestion] at h
    cases h
    exact ⟨rfl, rfl⟩
  version_updated h := by
    rw [effect, Sheet.carryOut_versionUpdate] at h
    cases h
    rfl
  not_controls_versionQuestion := isPlain_versionQuestion
  not_controls_versionUpdate := isPlain_versionUpdate
  not_writesVersion_versionQuestion := by decide
  not_writesVersion_own := by decide
  not_writesVersion_setup config statement hsetup := not_updates_setup config statement hsetup

end Shelf

end SqlAccess
