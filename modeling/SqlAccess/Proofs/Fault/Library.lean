import SqlAccess.Catalog.Info
import SqlAccess.Cursor
import SqlAccess.Entity.Saving
import SqlAccess.Proofs.Fault.Cause
import SqlAccess.Proofs.Sorting.Failing
import SqlAccess.Proofs.Statement.Plain
import SqlAccess.Schema
import SqlAccess.Schema.Copy
import SqlAccess.Table.Script

/-!
# What the library fails with of its own

What the library works out by itself, without the engine, fails with no error of the
engine: what it reads and converts, the statements that it words, and what it makes of
answers.  Scripts are another matter, since their steps may fail with anything that
the client gives them, and these faults are passed on as they are.

So all of this is said for any law that every fault satisfies that is no error of the
engine (`hlaw`), and where a script is involved it has to hold of its steps too.
-/

namespace SqlAccess

open Fault

variable {α : Type} {law : Fault → Prop} (hlaw : ∀ fault, NotEngine fault → law fault)

include hlaw

/-! ## Values -/

theorem failsOnly_toExcept (checked : Checked α) : FailsOnly law checked.toExcept := by
  cases checked with
  | valid value => exact failsOnly_ok value
  | invalid issues => exact failsOnly_error (hlaw _ rfl)

namespace Value

theorem failsOnly_checkWritable (value : Value) : FailsOnly law value.checkWritable :=
  failsOnly_ite (failsOnly_ok _) (failsOnly_error (hlaw _ rfl))

theorem failsOnly_sequence (value : Value) : FailsOnly law value.sequence := by
  unfold sequence
  split
  · exact failsOnly_ok _
  · exact failsOnly_error (hlaw _ rfl)

theorem failsOnly_sized (value : Value) : FailsOnly law value.sized := by
  unfold sized
  split
  · exact failsOnly_ok _
  · exact failsOnly_error (hlaw _ rfl)

theorem failsOnly_pair (value : Value) : FailsOnly law value.pair := by
  unfold pair
  split
  · exact failsOnly_ok _
  · exact failsOnly_error (hlaw _ rfl)
  · exact failsOnly_error (hlaw _ rfl)

theorem failsOnly_listedFrom (position : Nat) (items : List Value) :
    FailsOnly law (listedFrom position items) := by
  induction items generalizing position with
  | nil => exact failsOnly_ok []
  | cons item items ih =>
      refine failsOnly_bind ?_ fun _ => failsOnly_bind (ih (position + 1)) fun _ => failsOnly_ok _
      unfold listed
      split
      · exact failsOnly_ok _
      · exact failsOnly_error (hlaw _ rfl)

theorem failsOnly_ofReading (quoted : String) (reading : Number.IntegerReading) :
    FailsOnly law (ofReading quoted reading) := by
  cases reading with
  | number number => exact failsOnly_ok number
  | malformed => exact failsOnly_error (hlaw _ rfl)
  | oversize size => exact failsOnly_error (hlaw _ rfl)

theorem failsOnly_toInteger (value : Value) : FailsOnly law value.toInteger := by
  unfold toInteger
  split
  · exact failsOnly_ok _
  · exact failsOnly_ok _
  · exact failsOnly_ok _
  · exact failsOnly_error (hlaw _ rfl)
  · exact failsOnly_error (hlaw _ rfl)
  · exact failsOnly_ofReading hlaw _ _
  · exact failsOnly_ofReading hlaw _ _
  · exact failsOnly_error (hlaw _ rfl)

theorem failsOnly_lessThan (value : Value) (bound : Int) :
    FailsOnly law (value.lessThan bound) := by
  unfold lessThan
  split
  · exact failsOnly_ok _
  · exact failsOnly_error (hlaw _ rfl)

theorem failsOnly_greaterThan (value : Value) (bound : Int) :
    FailsOnly law (value.greaterThan bound) := by
  unfold greaterThan
  split
  · exact failsOnly_ok _
  · exact failsOnly_error (hlaw _ rfl)

theorem failsOnly_operator (value : Value) : FailsOnly law value.operator := by
  unfold operator
  split
  · split
    · exact failsOnly_ok _
    · exact failsOnly_error (hlaw _ rfl)
  · exact failsOnly_ite (failsOnly_error (hlaw _ rfl)) (failsOnly_error (hlaw _ rfl))
  · exact failsOnly_error (hlaw _ rfl)

omit hlaw

mutual

theorem failsOnly_isBelow (hlaw : ∀ fault, NotEngine fault → law fault) (x y : Value) :
    FailsOnly law (x.isBelow y) := by
  unfold isBelow
  split
  · exact failsOnly_ok _
  · exact failsOnly_ok _
  · exact failsOnly_itemsBelow hlaw _ _
  · split
    · exact failsOnly_ok _
    · exact failsOnly_error (hlaw _ rfl)

theorem failsOnly_itemsBelow (hlaw : ∀ fault, NotEngine fault → law fault)
    (xs ys : List Value) : FailsOnly law (itemsBelow xs ys) := by
  unfold itemsBelow
  split
  · exact failsOnly_ite (failsOnly_itemsBelow hlaw _ _) (failsOnly_isBelow hlaw _ _)
  · exact failsOnly_ok true
  · exact failsOnly_ok false

end

end Value

/-! ## Rows and records -/

namespace Row

theorem failsOnly_lookup (row : Row) (name : String) : FailsOnly law (row.lookup name) := by
  unfold lookup
  split
  · exact failsOnly_ok _
  · exact failsOnly_error (hlaw _ rfl)

theorem failsOnly_pick (row : Row) (key : Value) : FailsOnly law (row.pick key) := by
  cases key with
  | text name => exact failsOnly_lookup hlaw row name
  | _ => exact failsOnly_error (hlaw _ rfl)

theorem failsOnly_column (name : String) (rows : List Row) : FailsOnly law (column name rows) :=
  failsOnly_mapM fun row => failsOnly_lookup hlaw row name

theorem failsOnly_sortedBy (name : String) (rows : List Row) : FailsOnly law (sortedBy name rows) :=
  failsOnly_bind (failsOnly_column hlaw name rows) fun _ =>
    failsOnly_bind (Sorting.failsOnly_sortedWith (fun _ _ => Value.failsOnly_isBelow hlaw _ _) _)
      fun _ => failsOnly_ok _

end Row

theorem Record.failsOnly_items (record : Record) : FailsOnly law record.items := by
  unfold items
  split
  · exact failsOnly_ok _
  · exact failsOnly_ok _
  · refine failsOnly_bind (Value.failsOnly_sequence hlaw _) fun elements => ?_
    exact failsOnly_mapM fun value =>
      failsOnly_bind (Value.failsOnly_pair hlaw value) fun pair =>
        failsOnly_bind (pair.1.failsOnly_checkWritable hlaw) fun _ => failsOnly_ok _

/-! ## Answers to questions about the catalog -/

theorem ColumnInfo.failsOnly_ofRows (rows : List Row) : FailsOnly law (ofRows rows) := by
  refine failsOnly_mapM fun row => ?_
  have hlookup := Row.failsOnly_lookup hlaw row
  exact failsOnly_bind (hlookup _) fun _ => failsOnly_bind (hlookup _) fun _ =>
    failsOnly_bind (hlookup _) fun _ => failsOnly_bind (hlookup _) fun _ =>
      failsOnly_bind (hlookup _) fun _ => failsOnly_toExcept hlaw _

theorem ForeignKeyInfo.failsOnly_ofRows (rows : List Row) : FailsOnly law (ofRows rows) := by
  refine failsOnly_mapM fun row => ?_
  have hlookup := Row.failsOnly_lookup hlaw row
  exact failsOnly_bind (hlookup _) fun _ => failsOnly_bind (hlookup _) fun _ =>
    failsOnly_bind (hlookup _) fun _ => failsOnly_bind (hlookup _) fun _ =>
      failsOnly_bind (hlookup _) fun _ => failsOnly_bind (hlookup _) fun _ =>
        failsOnly_bind (hlookup _) fun _ => failsOnly_toExcept hlaw _

theorem IndexInfo.failsOnly_ofRow (row : Row) (details : List Row) :
    FailsOnly law (ofRow row details) := by
  have hlookup := Row.failsOnly_lookup hlaw row
  refine failsOnly_bind (hlookup _) fun _ => failsOnly_bind (hlookup _) fun _ =>
    failsOnly_bind (hlookup _) fun _ => ?_
  exact failsOnly_bind (Row.failsOnly_sortedBy hlaw _ _) fun _ =>
    failsOnly_bind (Row.failsOnly_column hlaw _ _) fun _ => failsOnly_toExcept hlaw _

theorem Database.failsOnly_versionOf (row : Option Row) : FailsOnly law (versionOf row) := by
  unfold versionOf
  split
  · exact failsOnly_ite (Value.failsOnly_toInteger hlaw _) (failsOnly_ok _)
  · exact failsOnly_ok _

theorem Database.failsOnly_checkTarget (target : Value) : FailsOnly law (checkTarget target) := by
  refine failsOnly_bind (Value.failsOnly_lessThan hlaw target 1) fun _ => ?_
  refine failsOnly_ite (failsOnly_bind (Value.failsOnly_checkWritable hlaw target) fun _ => ?_)
    (failsOnly_ok _)
  exact failsOnly_error (hlaw _ rfl)

/-! ## Definitions of tables -/

theorem Column.failsOnly_definition (column : Column) : FailsOnly law column.definition := by
  refine failsOnly_bind (failsOnly_ite (failsOnly_ok _) (failsOnly_bind ?_ fun _ => failsOnly_ok _))
    fun _ => failsOnly_ok _
  unfold Value.defaultLiteral
  split
  · exact failsOnly_ok _
  · exact failsOnly_bind (Value.failsOnly_checkWritable hlaw _) fun _ => failsOnly_ok _
  · exact failsOnly_ite (failsOnly_ok _) (failsOnly_error (hlaw _ rfl))
  · exact failsOnly_bind (Value.failsOnly_checkWritable hlaw _) fun _ => failsOnly_ok _

theorem Index.failsOnly_creation (index : Index) : FailsOnly law index.creation :=
  failsOnly_ite (failsOnly_error (hlaw _ rfl)) (failsOnly_ok _)

theorem ForeignKey.failsOnly_definition (key : ForeignKey) : FailsOnly law key.definition := by
  unfold definition
  split
  · exact failsOnly_error (hlaw _ rfl)
  · exact failsOnly_ite (failsOnly_error (hlaw _ rfl)) (failsOnly_ok _)

namespace Table

theorem failsOnly_creationStatements (table : Table) :
    FailsOnly law table.creationStatements := by
  have hcreation : FailsOnly law table.creation := by
    unfold creation
    refine failsOnly_guard (hlaw _ rfl) ?_
    exact failsOnly_bind (failsOnly_mapM (Column.failsOnly_definition hlaw)) fun _ =>
      failsOnly_bind (failsOnly_mapM (ForeignKey.failsOnly_definition hlaw)) fun _ =>
        failsOnly_ok _
  exact failsOnly_bind hcreation fun _ =>
    failsOnly_bind (failsOnly_mapM (Index.failsOnly_creation hlaw)) fun _ => failsOnly_ok _

theorem failsOnly_alterationStatements (table : Table) (missing : List Column) :
    FailsOnly law (table.alterationStatements missing) := by
  refine failsOnly_bind (failsOnly_mapM fun column => ?_) fun _ =>
    failsOnly_bind (failsOnly_mapM fun index => ?_) fun _ => failsOnly_ok _
  · exact failsOnly_bind (Column.failsOnly_definition hlaw column) fun _ => failsOnly_ok _
  · exact failsOnly_bind (Index.failsOnly_creation hlaw index) fun _ => failsOnly_ok _

end Table

theorem failsOnly_copyStatements (target : String) (columns : List ColumnInfo)
    (foreignKeys : List ForeignKeyInfo) (indexes : List IndexInfo) :
    FailsOnly law (copyStatements target columns foreignKeys indexes) :=
  failsOnly_bind (failsOnly_mapM (Index.failsOnly_creation hlaw)) fun _ => failsOnly_ok _

/-! ## Scripts that declare tables -/

omit hlaw in
theorem Interface.notEngine_refusal (interface : Interface) (call : Invocation) :
    (interface.refusal call).NotEngine := by
  unfold refusal
  split <;> rfl

/-- The faults with which the client lets a step fail. -/
def Step.raised : Step → List Fault
  | .call _ => []
  | .fail fault => [fault]

omit hlaw in
theorem Step.failsOnly_meaning {understand : Invocation → Except Fault α} {step : Step}
    (hunderstand : ∀ call, FailsOnly law (understand call))
    (hstep : ∀ fault ∈ step.raised, law fault) : FailsOnly law (step.meaning understand) := by
  cases step with
  | call call => exact hunderstand call
  | fail fault => exact failsOnly_error (hstep fault (List.mem_singleton_self fault))

omit hlaw in
theorem failsOnly_changesOf {δ β : Type} {understand : Invocation → Except Fault (Option α)}
    {change : δ → α → δ} {build : δ → Except Fault β}
    (hunderstand : ∀ call, FailsOnly law (understand call))
    (hbuild : ∀ draft, FailsOnly law (build draft)) {steps : List Step}
    (hsteps : ∀ step ∈ steps, ∀ fault ∈ step.raised, law fault) (draft : δ) :
    FailsOnly law (changesOf understand change build draft steps) := by
  induction steps generalizing draft with
  | nil => exact failsOnly_ok []
  | cons step steps ih =>
      rw [List.forall_mem_cons] at hsteps
      refine failsOnly_bind (Step.failsOnly_meaning hunderstand hsteps.1) fun change? => ?_
      cases change? with
      | some c => exact failsOnly_bind (ih hsteps.2 _) fun _ => failsOnly_ok _
      | none => exact failsOnly_bind (hbuild draft) fun _ => ih hsteps.2 draft

section

variable {chain : List Step} (hchain : ∀ step ∈ chain, ∀ fault ∈ step.raised, law fault)

include hchain

theorem ColumnChange.failsOnly_ofChain (name type : Value) :
    FailsOnly law (ofChain name type chain) := by
  refine failsOnly_changesOf (fun call => ?_) (fun _ => failsOnly_toExcept hlaw _) hchain _
  unfold ofInvocation
  split <;> first
    | exact failsOnly_ok _
    | exact failsOnly_error (hlaw _ (Interface.notEngine_refusal _ call))

theorem ForeignKeyChange.failsOnly_ofChain (columns : List Value) :
    FailsOnly law (ofChain columns chain) := by
  refine failsOnly_changesOf (fun call => ?_) (fun _ => failsOnly_toExcept hlaw _) hchain _
  unfold ofInvocation
  split <;> first
    | exact failsOnly_ok _
    | exact failsOnly_error (hlaw _ (Interface.notEngine_refusal _ call))

theorem IndexChange.failsOnly_ofChain (table name : Value) :
    FailsOnly law (ofChain table name chain) := by
  refine failsOnly_changesOf (fun call => ?_) (fun _ => failsOnly_toExcept hlaw _) hchain _
  unfold ofInvocation
  split <;> first
    | exact failsOnly_ok _
    | exact failsOnly_error (hlaw _ (Interface.notEngine_refusal _ call))

theorem Declaration.failsOnly_ofInvocation (table : Value) (call : Invocation) :
    FailsOnly law (ofInvocation table call chain) := by
  unfold ofInvocation
  split
  · exact failsOnly_bind (ColumnChange.failsOnly_ofChain hlaw hchain _ _) fun _ => failsOnly_ok _
  · exact failsOnly_bind (ColumnChange.failsOnly_ofChain hlaw hchain _ _) fun _ => failsOnly_ok _
  · exact failsOnly_bind (ForeignKeyChange.failsOnly_ofChain hlaw hchain _) fun _ =>
      failsOnly_ok _
  · exact failsOnly_bind (ForeignKeyChange.failsOnly_ofChain hlaw hchain _) fun _ =>
      failsOnly_ok _
  · exact failsOnly_bind (IndexChange.failsOnly_ofChain hlaw hchain _ _) fun _ => failsOnly_ok _
  · exact failsOnly_bind (IndexChange.failsOnly_ofChain hlaw hchain _ _) fun _ => failsOnly_ok _
  · exact failsOnly_error (hlaw _ (Interface.notEngine_refusal _ call))

end

omit hlaw in
/-- What a call on a table asks for can be declared. -/
theorem Declaration.exists_declare_eq_ok {table : Value} {call : Invocation} {chain : List Step}
    {declaration : Declaration} (h : ofInvocation table call chain = .ok declaration)
    (draft : TableDraft) : ∃ after, draft.declare declaration = .ok after := by
  unfold ofInvocation at h
  split at h
  case h_1 form name hform _ =>
    obtain ⟨changes, -, h⟩ := exists_of_bind_eq_ok h
    cases h
    unfold shortForm? at hform
    split at hform <;> cases hform <;> exact ⟨_, rfl⟩
  case h_7 => cases h
  all_goals
    obtain ⟨changes, -, h⟩ := exists_of_bind_eq_ok h
    cases h
    exact ⟨_, rfl⟩

namespace TableDraft

theorem failsOnly_finish (name : Value) (draft : TableDraft) :
    FailsOnly law (draft.finish name) := by
  have hread : ∀ {β γ : Type} (read : β → Checked γ) (parts : List β),
      FailsOnly law (parts.mapM fun part => (read part).toExcept) :=
    fun read _ => failsOnly_mapM fun part => failsOnly_toExcept hlaw (read part)
  exact failsOnly_bind (hread _ _) fun _ => failsOnly_bind (hread _ _) fun _ =>
    failsOnly_bind (hread _ _) fun _ => failsOnly_bind (failsOnly_toExcept hlaw _) fun _ =>
      failsOnly_ok _

theorem failsOnly_take (name : Value) (draft : TableDraft) {step : Step} {chain : List Step}
    (hstep : ∀ fault ∈ step.raised, law fault)
    (hchain : ∀ step ∈ chain, ∀ fault ∈ step.raised, law fault) :
    FailsOnly law (draft.take name (step, chain)) := by
  unfold take
  split
  · rename_i heq
    cases heq
    refine failsOnly_bind (failsOnly_finish hlaw name draft) fun _ =>
      failsOnly_bind (failsOnly_forM fun step hmem => ?_) fun _ => failsOnly_ok draft
    refine Step.failsOnly_meaning (fun call => ?_) (hchain step hmem)
    exact failsOnly_ite (failsOnly_ok _)
      (failsOnly_error (hlaw _ (Interface.notEngine_refusal _ call)))
  · rename_i heq
    cases heq
    have hmeaning := Step.failsOnly_meaning
      (Declaration.failsOnly_ofInvocation hlaw hchain name) hstep
    unfold Declaration.ofStep
    split
    · rename_i declaration hdeclaration
      cases step with
      | fail fault => cases hdeclaration
      | call call =>
          obtain ⟨after, hafter⟩ := Declaration.exists_declare_eq_ok hdeclaration draft
          rw [hafter]
          exact failsOnly_ok after
    · rename_i fault hfault
      exact failsOnly_error (hmeaning fault hfault)

end TableDraft

/-- The faults with which the client lets a script fail. -/
def raisedIn (script : List (Step × List Step)) : List Fault :=
  script.flatMap fun entry => (entry.1 :: entry.2).flatMap Step.raised

theorem Table.failsOnly_scripted (name : Value) {script : List (Step × List Step)}
    (hscript : ∀ fault ∈ raisedIn script, law fault) : FailsOnly law (scripted name script) := by
  refine failsOnly_bind (failsOnly_foldlM fun entry hentry draft => ?_) fun draft =>
    TableDraft.failsOnly_finish hlaw name draft
  have hraised : ∀ step ∈ entry.1 :: entry.2, ∀ fault ∈ step.raised, law fault := by
    intro step hstep fault hfault
    have hmem := List.mem_flatMap.mpr ⟨step, hstep, hfault⟩
    exact hscript fault (List.mem_flatMap.mpr ⟨entry, hentry, hmem⟩)
  rw [List.forall_mem_cons] at hraised
  exact TableDraft.failsOnly_take hlaw name draft hraised.1 hraised.2

/-! ## Statements about rows -/

namespace Statement

theorem failsOnly_withParams (sql : String) (params : Value) :
    FailsOnly law (withParams sql params) :=
  failsOnly_bind (Value.failsOnly_sequence hlaw params) fun _ => failsOnly_ok _

theorem failsOnly_select (table : String) (query : Query) :
    FailsOnly law (select table query) := by
  have hnumeral : ∀ number, FailsOnly law (Query.numeral number) := fun number =>
    failsOnly_bind (Value.failsOnly_checkWritable hlaw _) fun _ => failsOnly_ok _
  refine failsOnly_bind (failsOnly_bind (failsOnly_optionMapM fun _ => hnumeral _) fun _ => ?_)
    fun _ => failsOnly_ok _
  exact failsOnly_bind (failsOnly_optionMapM hnumeral) fun _ => failsOnly_ok _

theorem failsOnly_insert (table : String) (record : Record) :
    FailsOnly law (insert table record) :=
  failsOnly_bind (Record.failsOnly_items hlaw record) fun _ =>
    failsOnly_guard (hlaw _ rfl) (failsOnly_ok _)

theorem failsOnly_insertMany (table : String) (fields rows : Value) :
    FailsOnly law (insertMany table fields rows) := by
  have hrowsFrom : ∀ position rows, FailsOnly law (rowsFrom fields position rows) := by
    intro position rows
    induction rows generalizing position with
    | nil => exact failsOnly_ok []
    | cons row rows ih =>
        refine failsOnly_bind (Value.failsOnly_sized hlaw _) fun _ =>
          failsOnly_bind (Value.failsOnly_sized hlaw _) fun _ => failsOnly_guard (hlaw _ rfl) ?_
        exact failsOnly_bind (ih _) fun _ => failsOnly_ok _
  unfold insertMany
  refine failsOnly_guard (hlaw _ rfl) (failsOnly_guard (hlaw _ rfl) ?_)
  refine failsOnly_bind (Value.failsOnly_sequence hlaw _) fun _ =>
    failsOnly_bind (hrowsFrom _ _) fun _ => ?_
  exact failsOnly_bind (Value.failsOnly_sequence hlaw _) fun _ =>
    failsOnly_bind (Value.failsOnly_listedFrom hlaw _ _) fun _ => failsOnly_ok _

theorem failsOnly_update (table : String) (record : Record) (clause args : Value) :
    FailsOnly law (update table record clause args) := by
  have hclause : FailsOnly law (Condition.clauseOf clause) := by
    unfold Condition.clauseOf
    split
    · exact failsOnly_ok _
    · exact failsOnly_ok _
    · exact failsOnly_ok _
    · exact failsOnly_error (hlaw _ rfl)
  refine failsOnly_bind (Record.failsOnly_items hlaw record) fun _ =>
    failsOnly_guard (hlaw _ rfl) ?_
  exact failsOnly_bind hclause fun _ =>
    failsOnly_bind (Value.failsOnly_sequence hlaw args) fun _ => failsOnly_ok _

end Statement

/-! ## Queries -/

/-- The faults with which the client lets a refinement fail. -/
def Refinement.raised : Refinement → List Fault
  | .fail fault => [fault]
  | _ => []

theorem Query.failsOnly_refineAll (query : Query) {steps : List Refinement}
    (hsteps : ∀ step ∈ steps, ∀ fault ∈ step.raised, law fault) :
    FailsOnly law (query.refineAll steps) := by
  refine failsOnly_foldlM fun step hstep query => ?_
  cases step with
  | fail fault => exact failsOnly_error (hsteps _ hstep fault (List.mem_singleton_self fault))
  | select | distinct | group | limit | page => exact failsOnly_toExcept hlaw _
  | join | filter | having | order =>
      exact failsOnly_bind (failsOnly_toExcept hlaw _) fun _ => failsOnly_toExcept hlaw _

/-! ## Entities -/

namespace Instance

theorem failsOnly_checkCall (item : Instance) (call : String) :
    FailsOnly law (item.checkCall call) := by
  unfold checkCall
  split
  · exact failsOnly_error (hlaw _ rfl)
  · exact failsOnly_ok _

theorem failsOnly_record (item : Instance) : FailsOnly law item.record :=
  failsOnly_bind (failsOnly_checkCall hlaw item _) fun _ => failsOnly_ok _

theorem failsOnly_set (item : Instance) (name : String) (value : Value) :
    FailsOnly law (item.set name value) := by
  unfold set
  split
  · exact failsOnly_ok _
  · exact failsOnly_error (hlaw _ rfl)
  · exact failsOnly_error (hlaw _ rfl)
  · exact failsOnly_error (hlaw _ rfl)
  · exact failsOnly_ok _

theorem failsOnly_same (first second : Instance) : FailsOnly law (first.same second) := by
  refine failsOnly_ite (failsOnly_ok false) ?_
  exact failsOnly_bind (failsOnly_record hlaw first) fun _ =>
    failsOnly_bind (failsOnly_record hlaw second) fun _ => failsOnly_ok _

theorem failsOnly_describe (item : Instance) : FailsOnly law item.describe := by
  refine failsOnly_bind (failsOnly_record hlaw item) fun _ => ?_
  refine failsOnly_bind (failsOnly_mapM fun field => ?_) fun _ => failsOnly_ok _
  exact failsOnly_bind (field.2.failsOnly_checkWritable hlaw) fun _ => failsOnly_ok _

end Instance

namespace Entity

theorem failsOnly_instantiate (entity : Entity) (fields : Row) :
    FailsOnly law (entity.instantiate fields) :=
  failsOnly_ite (failsOnly_error (hlaw _ rfl)) (failsOnly_ok _)

theorem failsOnly_bound (entity : Entity) : FailsOnly law entity.bound := by
  refine failsOnly_ite (failsOnly_error (hlaw _ rfl)) ?_
  split
  · exact failsOnly_ok _
  · exact failsOnly_error (hlaw _ rfl)

theorem failsOnly_countOf (row? : Option Row) : FailsOnly law (countOf row?) := by
  unfold countOf
  split
  · exact failsOnly_ok 0
  · refine failsOnly_ite (failsOnly_ok 0) ?_
    exact failsOnly_bind (Row.failsOnly_lookup hlaw _ _) fun value =>
      Value.failsOnly_toInteger hlaw value

end Entity

end SqlAccess
