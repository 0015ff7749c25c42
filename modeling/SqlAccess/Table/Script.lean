import SqlAccess.Invocation
import SqlAccess.Table.Draft

/-!
# Scripts that declare tables

A declaration can be given as calls by name: each call adds a part to the table,
and a chain of calls on that part changes it.  A call that is refused, or a step
that fails, ends the declaration there.
-/

namespace SqlAccess

/-! ## Changes of a part -/

/-- The changes of a part that a chain of steps asks for.  A step that is no
change builds the part as it is by then, and ends the chain if it has an issue. -/
def changesOf {α δ β : Type} (understand : Invocation → Except Fault (Option α))
    (change : δ → α → δ) (build : δ → Except Fault β) : δ → List Step → Except Fault (List α)
  | _, [] => .ok []
  | draft, step :: steps => do
    match ← step.meaning understand with
    | some c => return c :: (← changesOf understand change build (change draft c) steps)
    | none =>
      let _ ← build draft
      changesOf understand change build draft steps

/-- What a column of a name can be asked for. -/
def ColumnChange.interface (name : Value) : Interface where
  owner := "ColumnBuilder"
  calls := [("primary_key", .none), ("auto_increment", .none), ("nullable", .none),
    ("default", .of ["value"]), ("build", .none)]
  parts := [("name", name.kindName)]

/-- The change of a column that a call asks for, if it is not to be built. -/
def ColumnChange.ofInvocation (name : Value) (call : Invocation) :
    Except Fault (Option ColumnChange) :=
  match call.name, call.args with
  | "primary_key", [] => .ok (some .primaryKey)
  | "auto_increment", [] => .ok (some .autoIncrement)
  | "nullable", [] => .ok (some .nullable)
  | "default", [value] => .ok (some (.default value))
  | "build", [] => .ok none
  | _, _ => .error ((interface name).refusal call)

/-- The changes of a column that a chain asks for. -/
def ColumnChange.ofChain (name type : Value) : List Step → Except Fault (List ColumnChange) :=
  changesOf (ofInvocation name) ColumnDraft.change ColumnDraft.finish { name, type }

/-- What a foreign key can be asked for. -/
def ForeignKeyChange.interface : Interface where
  owner := "ForeignKeyBuilder"
  calls := [("foreign", .any), ("references", .any), ("on", .of ["table"]),
    ("on_delete", { optional := 1 }), ("build", .none)]

/-- The change of a foreign key that a call asks for, if it is not to be built. -/
def ForeignKeyChange.ofInvocation (call : Invocation) :
    Except Fault (Option ForeignKeyChange) :=
  match call.name, call.args with
  | "foreign", names => .ok (some (.columns names))
  | "references", names => .ok (some (.references names))
  | "on", [name] => .ok (some (.table name))
  | "on_delete", [] => .ok (some .cascade)
  | "on_delete", [action] => .ok (some (.onDelete action))
  | "build", [] => .ok none
  | _, _ => .error (interface.refusal call)

/-- The changes of a foreign key over some columns that a chain asks for. -/
def ForeignKeyChange.ofChain (columns : List Value) :
    List Step → Except Fault (List ForeignKeyChange) :=
  changesOf ofInvocation ForeignKeyDraft.change ForeignKeyDraft.finish { columns }

/-- What an index can be asked for. -/
def IndexChange.interface : Interface where
  owner := "IndexBuilder"
  calls := [("columns", .any), ("unique", .any), ("build", .none)]

/-- The change of an index that a call asks for, if it is not to be built. -/
def IndexChange.ofInvocation (call : Invocation) : Except Fault (Option IndexChange) :=
  match call.name, call.args with
  | "columns", names => .ok (some (.columns names))
  | "unique", names => .ok (some (.unique names))
  | "build", [] => .ok none
  | _, _ => .error (interface.refusal call)

/-- The changes of an index of a table that a chain asks for. -/
def IndexChange.ofChain (table name : Value) : List Step → Except Fault (List IndexChange) :=
  changesOf ofInvocation IndexDraft.change (IndexDraft.finish table) { name }

/-! ## Declarations -/

namespace Declaration

/-- What a table of a name can be asked for. -/
def interface (table : Value) : Interface where
  owner := "TableSpecBuilder"
  calls := [("add_column", .of ["name", "type_"]), ("add_constraint", .none),
    ("add_index", .of ["name"]), ("index", .of ["name"]), ("foreign", .any), ("build", .none)]
    ++ ["increments", "integer", "float", "real", "numeric", "text", "blob"].map
      fun name => (name, .of ["column"])
  parts := [("name", table.kindName)]

/-- The short form of a column declaration that a name stands for. -/
def shortForm? : String → Option (Value → List ColumnChange → Declaration)
  | "increments" => some increments
  | "integer" => some integer
  | "float" => some float
  | "real" => some real
  | "numeric" => some numeric
  | "text" => some text
  | "blob" => some blob
  | _ => none

/-- The declaration that a call on a table asks for, with the chain of steps on
the part that it adds. -/
def ofInvocation (table : Value) (call : Invocation) (chain : List Step) :
    Except Fault Declaration := do
  match shortForm? call.name, call.name, call.args with
  | some form, _, [name] => return form name (← ColumnChange.ofChain name (.text "") chain)
  | none, "add_column", [name, type] =>
    return .column name type (← ColumnChange.ofChain name type chain)
  | none, "foreign", names =>
    return .foreignKey (.columns names :: (← ForeignKeyChange.ofChain names chain))
  | none, "add_constraint", [] => return .foreignKey (← ForeignKeyChange.ofChain [] chain)
  | none, "index", [name] | none, "add_index", [name] =>
    return .index name (← IndexChange.ofChain table name chain)
  | _, _, _ => throw ((interface table).refusal call)

/-- The declaration that a step of a script asks for. -/
def ofStep (table : Value) (step : Step) (chain : List Step) : Declaration :=
  match step.meaning (ofInvocation table · chain) with
  | .ok declaration => declaration
  | .error fault => .fail fault

end Declaration

/-- What a table that is built can be asked for. -/
def Table.interface : Interface where
  owner := "TableSpec"
  calls := [("get_column", .of ["name"])]
  parts := [("name", "str"), ("columns", "tuple"), ("constraints", "tuple"), ("indexes", "tuple"),
    ("column_names", "list")]

/-- Takes one step of a script.  A step that builds the table leaves the draft as
it is, and ends the script if the draft has an issue. -/
def TableDraft.take (name : Value) (draft : TableDraft) :
    Step × List Step → Except Fault TableDraft
  | (.call ⟨"build", []⟩, chain) => do
    let _ ← draft.finish name
    chain.forM (Step.meaning fun call =>
      if Table.interface.answers call then .ok () else .error (Table.interface.refusal call))
    return draft
  | (step, chain) => draft.declare (Declaration.ofStep name step chain)

/-- The table of a name that a script declares: steps, each of them with the
chain of steps on the part that it adds. -/
def Table.scripted (name : Value) (script : List (Step × List Step)) : Except Fault Table := do
  let draft ← script.foldlM (TableDraft.take name) {}
  draft.finish name

end SqlAccess
