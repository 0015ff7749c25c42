import SqlAccess.Migration
import SqlAccess.Proofs.Action.Keeps
import SqlAccess.Proofs.Engine.Transactional

/-!
# Engines that keep a version

A transactional engine with files, one of which holds a version among its data.
Some paths lead to that file.  The data that a connection to it sees are those of
the file; connecting, closing, and the statements on other connections leave them
alone, and they leave each other's transactions alone too.

The version behaves like a register: the question for it tells it, the update sets
it within the transaction, and no other statement changes it unless it writes the
version.  What the other statements are, and whether they control transactions,
does not matter.
-/

namespace SqlAccess

/-- A connection is to the same file and as much in a transaction as before. -/
def Undisturbed {ω : Type} [Engine ω] (file : Handle → ω → Option String) (handle : Handle)
    (before after : ω) : Prop :=
  file handle after = file handle before ∧
    Engine.inTransaction handle after = Engine.inTransaction handle before

/-- An engine that keeps a version in one of its files. -/
structure VersionedEngine (ω δ : Type) [Engine ω] extends TransactionalEngine ω δ where
  /-- Where the file of a connection lies, if it is to one. -/
  file : Handle → ω → Option String
  /-- Which paths lead to the file with the version. -/
  leads : String → Prop
  /-- The data that this file holds durably. -/
  stored : ω → δ
  version : δ → Int
  writesVersion : Statement → Prop
  /-- A connection to the file with the version sees its data. -/
  durable_eq_stored : ∀ {handle world path}, file handle world = some path → leads path →
    (state handle world).durable = stored world
  /-- A commit that succeeds leaves no transaction. -/
  commit_ends : ∀ handle (world : ω),
    Ends (fun _ after => Engine.inTransaction handle after = false) (fun _ _ => True)
      (Engine.execute handle .commit world)
  file_execute : ∀ handle statement world,
    file handle (Engine.execute handle statement world).2 = file handle world
  undisturbed_execute : ∀ {handle other} statement world, other ≠ handle →
    Undisturbed file other world (Engine.execute handle statement world).2
  stored_execute : ∀ {handle world path} statement, file handle world = some path →
    ¬ leads path → stored (Engine.execute handle statement world).2 = stored world
  /-- The statements that set a connection up begin no transaction. -/
  sets_up : ∀ {handle} {world : ω} {config statement}, Engine.inTransaction handle world = false →
    statement ∈ Config.setup config →
    Engine.inTransaction handle (Engine.execute handle statement world).2 = false
  /-- A new connection is to the file that was asked for, and in no transaction. -/
  connects : ∀ path timeout (world : ω),
    Ends (fun handle after => file handle world = none ∧ file handle after = some path ∧
        Engine.inTransaction handle after = false ∧
        ∀ other, other ≠ handle → Undisturbed file other world after)
      (fun _ after => ∀ other, Undisturbed file other world after)
      (Engine.connect path timeout world)
  stored_connect : ∀ path timeout world,
    stored (Engine.connect path timeout world).2 = stored world
  undisturbed_close : ∀ {handle other} world, other ≠ handle →
    Undisturbed file other world (Engine.close handle world).2
  stored_close : ∀ handle world, stored (Engine.close handle world).2 = stored world
  /-- If all the data have the same version, they still have it after a statement that
  does not write the version. -/
  version_kept : ∀ {handle world path statement number}, file handle world = some path →
    leads path → ¬ writesVersion statement →
    (state handle world).All (fun data => version data = number) →
    (state handle (Engine.execute handle statement world).2).All fun data =>
      version data = number
  /-- The question for the version is answered by the version. -/
  version_told : ∀ {data result changed},
    effect Database.versionQuestion data result changed →
    result.columns = ["user_version"] ∧ result.rows = [[.int (version data)]]
  /-- The update stores the version that it names. -/
  version_updated : ∀ {number data result changed},
    effect (Database.versionUpdate number) data result changed → version changed = number
  not_controls_versionQuestion : ¬ controls Database.versionQuestion
  not_controls_versionUpdate : ∀ number, ¬ controls (Database.versionUpdate number)
  not_writesVersion_versionQuestion : ¬ writesVersion Database.versionQuestion
  not_writesVersion_own : ∀ statement ∈ Action.ownStatements, ¬ writesVersion statement
  not_writesVersion_setup : ∀ config, ∀ statement ∈ Config.setup config,
    ¬ writesVersion statement

end SqlAccess
