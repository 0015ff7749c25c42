import SqlAccess.Fault

/-!
# Calls by name

A call names what is wanted of its owner and lists the arguments for it.  What
an owner can be asked for is a list of names with their signatures.
-/

namespace SqlAccess

/-- A call by name. -/
structure Invocation where
  name : String
  args : List Value := []

/-- One step of a script: a call, or a failure. -/
inductive Step where
  | call (call : Invocation)
  | fail (fault : Fault)

/-- What a step means to an owner that understands calls. -/
def Step.meaning {α : Type} (understand : Invocation → Except Fault α) : Step → Except Fault α
  | call c => understand c
  | fail fault => .error fault

/-- The arguments that a call takes. -/
structure Signature where
  /-- The names of those that have to be there. -/
  required : List String := []
  /-- The number of those that may follow. -/
  optional : Nat := 0
  /-- Whether any number of further ones may follow. -/
  isOpen : Bool := false

namespace Signature

/-- The signature of a call without arguments. -/
def none : Signature := {}

/-- The signature of a call with exactly the named arguments. -/
def of (required : List String) : Signature := { required }

/-- The signature of a call with any number of arguments. -/
def any : Signature := { isOpen := true }

/-- Why a call does not fit its signature.  Its owner counts as an argument. -/
def mismatch (signature : Signature) (owner : String) (call : Invocation) : Mistake :=
  let name := s!"{owner}.{call.name}"
  let least := signature.required.length
  if call.args.length < least then
    .missingArguments name (signature.required.drop call.args.length)
  else .surplusArguments name (least + 1) (least + signature.optional + 1) (call.args.length + 1)

/-- Whether a number of arguments fits a signature. -/
def fits (signature : Signature) (count : Nat) : Bool :=
  signature.required.length ≤ count
    && (signature.isOpen || count ≤ signature.required.length + signature.optional)

/-- Checks that a call fits its signature. -/
def check (signature : Signature) (owner : String) (call : Invocation) : Except Fault Unit :=
  if signature.fits call.args.length then .ok ()
  else .error (.mistake (signature.mismatch owner call))

end Signature

/-- What an owner can be asked for. -/
structure Interface where
  /-- The name under which messages speak of the owner. -/
  owner : String
  calls : List (String × Signature)
  /-- What it has besides, with the name of its kind; it cannot be called. -/
  parts : List (String × String) := []

/-- Whether an owner answers a call. -/
def Interface.answers (interface : Interface) (call : Invocation) : Bool :=
  (interface.calls.lookup call.name).any fun signature => signature.fits call.args.length

/-- Why an owner does not answer a call. -/
def Interface.refusal (interface : Interface) (call : Invocation) : Fault :=
  match interface.calls.lookup call.name, interface.parts.lookup call.name with
  | some signature, _ => .mistake (signature.mismatch interface.owner call)
  | none, some kind => .mistake (.notCallable kind)
  | none, none => .unknownCall interface.owner call.name

/-- Sees that arguments given by name are among the known ones. -/
def checkNames (call : String) (known given : List String) : Except Fault Unit :=
  match given.find? fun name => !known.contains name with
  | some name => .error (.mistake (.unknownArgument call name))
  | none => .ok ()

/-- The particulars of a given up migration from named values. -/
def Fault.MigrationDetails.ofList (fields : List (String × Value)) :
    Except Fault Fault.MigrationDetails := do
  checkNames "MigrationError.__init__" ["hook", "from_version", "to_version"]
    (fields.map Prod.fst)
  let field := fun name => (fields.lookup name).getD .null
  return {
    hook := field "hook"
    fromVersion := field "from_version"
    toVersion := field "to_version" }

end SqlAccess
