import CatalogAdmin.Disk.Program
import CatalogAdmin.UuidChange
import CatalogAdmin.Proofs.Purge.Calls
import CatalogAdmin.Proofs.TableError

/-!
# What sessions fail with

An operation on a table fails with errors of the server, of files, of disks and of the coordination
service, and with conditions on the request. The former are plain: they name no table. `FailsAs` says
what all errors of an operation are, and goes from the steps of an operation to the whole.

Results:
1. `FailsAs.bind`: what the errors of each step are, the errors of a run are.
2. `plain_asTask`, `plain_expandFor`, `plain_removePath` and the like: steps that fail with plain errors.
3. `concernsOnly_validateUuidChange`, `concernsOnly_removeFromDisk`: steps that check conditions name no
   table but the one they are about.
-/

namespace CatalogAdmin

namespace TableError

/-- An error that names no table and is no condition on the request. -/
structure Plain (e : TableError) : Prop where
  nameless : e.table? = none
  notRefused : e.kind ≠ .validation

/-- An error that names no table but this one and leaves nothing half done. -/
structure ConcernsOnly (table : TableName) (e : TableError) : Prop where
  names : ∀ other, e.table? = some other → other = table
  notHalfDone : e.kind ≠ .inconsistentState

/-- What names no table is not half done: a half-done change names its own. -/
theorem concernsOnly_of_nameless {e : TableError} (h : e.table? = none) (table : TableName) :
    e.ConcernsOnly table := by
  refine ⟨fun other hother => absurd (h.symm.trans hother) nofun, fun hkind => ?_⟩
  obtain ⟨s, hs⟩ := kind_eq_inconsistentState_iff.1 hkind
  cases e with
  | inconsistentState | onTable => cases h
  | _ => cases hs

theorem Plain.concernsOnly {e : TableError} (h : e.Plain) (table : TableName) :
    e.ConcernsOnly table :=
  concernsOnly_of_nameless h.nameless table

/-- A condition on a request for a table. -/
theorem concernsOnly_validation {v : ValidationError} {table : TableName}
    (h : v.table? = some table) : (validation v).ConcernsOnly table :=
  ⟨fun _ hother => Option.some.inj (hother.symm.trans h), nofun⟩

theorem plain_ofClient (task : Task) (e : ClientError) : (ofClient task e).Plain := by
  cases e <;> exact ⟨rfl, nofun⟩

theorem plain_metadata (e : Catalog.FileError) : (metadata e).Plain := by
  cases e <;> exact ⟨rfl, nofun⟩

end TableError

/-! ## Errors of runs -/

/-- Every error that an operation fails with is of this kind. -/
def FailsAs {ε α : Type} (P : ε → Prop) (x : EStateM ε World α) : Prop :=
  ∀ w e w', x w = .error e w' → P e

namespace FailsAs

open Session (error_of_bind error_of_adaptExcept)

variable {ε α β : Type} {P Q : ε → Prop} {x : EStateM ε World α} {g : α → EStateM ε World β}

theorem pure (a : α) : FailsAs P (pure a : EStateM ε World α) := by
  intro w e w' h
  cases h

theorem throw {e : ε} (he : P e) : FailsAs P (throw e : EStateM ε World α) := by
  intro w e' w' h
  cases h
  exact he

theorem tell (event : Event) : FailsAs P (Session.tell event : EStateM ε World Unit) := by
  intro w e w' h
  cases h

theorem bind (hx : FailsAs P x) (hg : ∀ a, FailsAs P (g a)) : FailsAs P (x >>= g) := by
  intro w e w' h
  rcases error_of_bind h with hfirst | ⟨a, v, -, hthen⟩
  · exact hx w e w' hfirst
  · exact hg a v e w' hthen

theorem check {c : Prop} [Decidable c] {e : ε} {h : Unit → EStateM ε World β} (he : P e)
    (hh : FailsAs P (h ())) : FailsAs P (if c then MonadExcept.throw e >>= h else h ()) := by
  split
  · exact (throw he).bind fun _ => hh
  · exact hh

theorem adaptExcept {ε' : Type} {y : EStateM ε' World α} {adapt : ε' → ε}
    (h : ∀ cause, P (adapt cause)) : FailsAs P (y.adaptExcept adapt) := by
  intro w e w' hrun
  obtain ⟨cause, -, rfl⟩ := error_of_adaptExcept hrun
  exact h cause

theorem mono (hx : FailsAs P x) (h : ∀ e, P e → Q e) : FailsAs Q x :=
  fun w e w' hrun => h e (hx w e w' hrun)

theorem concernsOnly {x : Session α} (hx : FailsAs TableError.Plain x) (table : TableName) :
    FailsAs (TableError.ConcernsOnly table) x :=
  hx.mono fun _ he => he.concernsOnly table

end FailsAs

namespace Session

open TableError (Plain ConcernsOnly)

variable {α : Type} {site : Site} {table : TableName}

/-! ## Steps with plain errors -/

theorem plain_asTask (task : Task) (y : EStateM ClientError World α) :
    FailsAs Plain (asTask task y) :=
  .adaptExcept (TableError.plain_ofClient task)

theorem plain_io {action : FileAction} {p : Path} {y : EStateM IoError World α} :
    FailsAs Plain (y.adaptExcept (TableError.io action p)) :=
  .adaptExcept fun _ => ⟨rfl, nofun⟩

theorem plain_readRecord (p : Path) :
    FailsAs Plain ((look (Catalog.readRecord · p)).adaptExcept TableError.metadata) :=
  .adaptExcept TableError.plain_metadata

theorem plain_isAttached (site : Site) (table : TableName) : FailsAs Plain (isAttached site table) :=
  (plain_asTask _ _).bind fun _ => .pure _

theorem plain_tableInfo? (site : Site) (table : TableName) : FailsAs Plain (tableInfo? site table) :=
  (plain_asTask _ _).bind fun _ => .pure _

theorem plain_listDisks (site : Site) : FailsAs Plain (listDisks site) := by
  refine (plain_asTask _ _).bind fun rows => ?_
  split
  · exact .pure _
  · exact .throw ⟨rfl, nofun⟩

theorem plain_commandForm (site : Site) : FailsAs Plain (commandForm site) :=
  (plain_asTask _ _).bind fun _ => .pure _

theorem plain_expandFor (site : Site) (template : Text) (table : TableName) (uuid : Uuid) :
    FailsAs Plain (expandFor site template table uuid) := by
  unfold expandFor
  split
  · refine (plain_asTask _ _).bind fun values => ?_
    split
    · exact .pure _
    · exact .throw ⟨rfl, nofun⟩
  · exact .pure _

theorem plain_sharedId (site : Site) (path : Text) : FailsAs Plain (sharedId site path) := by
  refine (plain_asTask _ _).bind fun values => ?_
  split
  · exact .throw ⟨rfl, nofun⟩
  · split
    · exact .pure _
    · exact .throw ⟨rfl, nofun⟩

theorem plain_dropReplica (site : Site) (cleanup : ReplicaCleanup) :
    FailsAs Plain (dropReplica site cleanup) := by
  unfold dropReplica
  split
  · exact .throw ⟨rfl, nofun⟩
  · exact plain_asTask _ _

theorem plain_removePath (p : Path) : FailsAs Plain (removePath p) := by
  intro w e w' h
  unfold removePath at h
  split at h
  · cases h
  · cases h
    exact ⟨rfl, nofun⟩
  · have hremoval : ∀ y : EStateM IoError FileTree Unit, FailsAs Plain (do
        (onTree y).adaptExcept (TableError.io .remove p)
        return true) := fun y => plain_io.bind fun _ => .pure _
    exact hremoval _ w e w' h

end Session

/-! ## Steps that check conditions -/

/-- The errors of the remover itself name no table: it knows of none. -/
def Remover.NamesNoTable (remover : Remover) : Prop :=
  ∀ before r t e, (remover.run before r t).1 = .error e → e.table? = none

/-- A program of the host that is run as the remover does not start, or runs out of time. -/
theorem Host.plain_remover (host : Host) (disks : DiskSettings) {before : List Removal} {r : Removal}
    {t : FileTree} {e : TableError} (h : ((host.remover disks).run before r t).1 = .error e) :
    e.Plain := by
  simp only [Host.remover] at h
  split at h
  · cases h
    exact ⟨rfl, nofun⟩
  · split at h
    · cases h
      exact ⟨rfl, nofun⟩
    · cases h

theorem Host.remover_namesNoTable (host : Host) (disks : DiskSettings) :
    (host.remover disks).NamesNoTable :=
  fun _ _ _ _ h => (host.plain_remover disks h).nameless

namespace Session

open TableError (Plain ConcernsOnly)

variable {site : Site}

theorem concernsOnly_checkDetached (site : Site) (table : TableName) :
    FailsAs (ConcernsOnly table) (checkDetached site table) := by
  refine ((plain_isAttached site table).concernsOnly table).bind fun attached => ?_
  split
  · exact .throw (TableError.concernsOnly_validation rfl)
  · exact .pure _

theorem concernsOnly_detachedRecord (site : Site) (table : TableName) :
    FailsAs (ConcernsOnly table) (detachedRecord site table) := by
  refine (plain_io.concernsOnly table).bind fun present => ?_
  split
  · exact .bind (.throw (TableError.concernsOnly_validation rfl)) fun _ =>
      (plain_readRecord _).concernsOnly table
  · exact (plain_readRecord _).concernsOnly table

theorem concernsOnly_remove (hremover : site.remover.NamesNoTable) (r : Removal)
    (table : TableName) : FailsAs (ConcernsOnly table) (remove site.remover r) := by
  intro w e w' h
  unfold remove at h
  cases hrun : site.remover.run w.removals r w.tree with
  | mk outcome tree =>
    rw [hrun] at h
    cases outcome with
    | ok o => cases h
    | error cause =>
      cases h
      exact TableError.concernsOnly_of_nameless (hremover _ _ _ _ (congrArg Prod.fst hrun)) table

theorem concernsOnly_removeFromDisk (hremover : site.remover.NamesNoTable) (disk : Disk)
    (path : Text) (form : CommandForm) (table : TableName) :
    FailsAs (ConcernsOnly table) (removeFromDisk site disk path form) := by
  have houtcome : FailsAs (ConcernsOnly table) (do
      let outcome ← remove site.remover
        ⟨disk.name, path, site.settings.disks.configFor disk.name, form⟩
      if !outcome.succeeded then
        throw (.externalTool site.remover.name disk.name path outcome.exitCode
          (Text.decodeLossy outcome.stderr).trim)) := by
    refine (concernsOnly_remove hremover _ table).bind fun outcome => ?_
    split
    · exact .throw (TableError.concernsOnly_of_nameless rfl table)
    · exact .pure _
  unfold removeFromDisk
  refine (plain_io.concernsOnly table).bind fun present => ?_
  split
  · refine .check ?_ ?_
    · exact TableError.concernsOnly_of_nameless rfl table
    · exact (FailsAs.tell _).bind fun _ => houtcome
  · exact houtcome

theorem concernsOnly_removeFromDisks (hremover : site.remover.NamesNoTable) (path : Text)
    (form : CommandForm) (disks : List Disk) (table : TableName) :
    FailsAs (ConcernsOnly table) (removeFromDisks site path form disks) := by
  induction disks with
  | nil => exact .pure ()
  | cons disk more ih =>
    exact (concernsOnly_removeFromDisk hremover disk path form table).bind fun _ => ih

theorem plain_dropReplicaOf (site : Site) (table : TableName) (record : Catalog.Record) :
    FailsAs Plain (dropReplicaOf site table record) := by
  unfold dropReplicaOf
  split
  · exact .pure _
  · exact (plain_expandFor _ _ _ _).bind fun root => (plain_expandFor _ _ _ _).bind fun name =>
      (plain_dropReplica _ _).bind fun _ => .pure _

/-- A purge fails with errors that name no table but its own. -/
theorem concernsOnly_attemptPurge (hremover : site.remover.NamesNoTable) (table : TableName) :
    FailsAs (ConcernsOnly table) (attemptPurge site table) := by
  rw [attemptPurge_eq]
  refine (concernsOnly_checkDetached site table).bind fun _ =>
    (concernsOnly_detachedRecord site table).bind fun record =>
    ((plain_listDisks site).concernsOnly table).bind fun disks =>
    ((plain_commandForm site).concernsOnly table).bind fun form =>
    (concernsOnly_removeFromDisks hremover _ form disks table).bind fun _ =>
    FailsAs.concernsOnly ?_ table
  exact (plain_dropReplicaOf site table record).bind fun replicaPath =>
    (plain_removePath _).bind fun _ => (plain_removePath _).bind fun _ => plain_io.bind fun _ => .pure _

/-- A change of UUID is refused with errors that name no table but its own. -/
theorem concernsOnly_validateUuidChange (site : Site) (table : TableName) (catalogFile : Path)
    (newUuid : Uuid) :
    FailsAs (ConcernsOnly table) (validateUuidChange site table catalogFile newUuid) := by
  unfold validateUuidChange
  refine ((plain_readRecord catalogFile).concernsOnly table).bind fun record =>
    .check (TableError.concernsOnly_validation rfl) ?_
  split
  · exact .pure record
  · next replica _ =>
    refine .check (TableError.concernsOnly_validation rfl) ?_
    refine ((plain_expandFor site replica.path table record.uuid).concernsOnly table).bind fun path =>
      ((plain_sharedId site path).concernsOnly table).bind fun shared => ?_
    exact .check (TableError.concernsOnly_validation rfl) (.pure record)

end Session

end CatalogAdmin
