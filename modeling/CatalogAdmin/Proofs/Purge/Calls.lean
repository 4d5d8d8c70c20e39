import CatalogAdmin.Purge
import CatalogAdmin.Proofs.Session.Runs

/-!
# The calls of a purge

A purge makes its calls in one order, and each needs what the calls before it found out. The order is
a list (`purgeCalls`), in which the disks and the replica are those that were found; a call runs with
all that the purge finds out, and has to find its own part of it again (`PurgeCall.run`).

Results:
1. `interrupted_attemptPurge`: a purge that fails makes the calls of the list, up to one that fails.
2. `Interrupted.eq_append`: the calls made before that one are the ones before it in the list.
3. `attemptPurge_stages`: a purge is a survey, the removal of data, of the replica and of the files.
-/

namespace CatalogAdmin

open Session

/-! ## Calls -/

/-- What a purge finds out on its way. -/
structure PurgeFindings where
  record : Catalog.Record
  disks : List Disk
  form : CommandForm
  root : Text
  name : Text

/-- What stands for findings before there are any. -/
instance : Inhabited PurgeFindings where
  default :=
    { record := ⟨.table, ⟨List.replicate 32 ⟨0, by decide⟩, List.length_replicate⟩, [], .plain⟩
      disks := [], form := .query, root := [], name := [] }

/-- A call that a purge makes. -/
inductive PurgeCall
  | presence
  | catalogFile
  | inventory
  | version
  | disk (disk : Disk)
  | replicaPath (template : Text)
  | replicaName (template : Text)
  | replica
  | dataLink
  | detachedFlag
  | removal
deriving DecidableEq

/-- The calls that change nothing. -/
def surveyCalls : List PurgeCall := [.presence, .catalogFile, .inventory, .version]

/-- The calls that drop the replica of a table that has one. -/
def replicaCalls (record : Catalog.Record) : List PurgeCall :=
  match record.engine.replica? with
  | none => []
  | some replica => [.replicaPath replica.path, .replicaName replica.name, .replica]

/-- The calls that remove a table's files, the catalog file last. -/
def removalCalls : List PurgeCall := [.dataLink, .detachedFlag, .removal]

/-- All calls of a purge, in their order. -/
def purgeCalls (f : PurgeFindings) : List PurgeCall :=
  surveyCalls ++ (f.disks.map .disk ++ (replicaCalls f.record ++ removalCalls))

namespace Session

/-- Makes sure that a table is not attached. -/
def checkDetached (site : Site) (table : TableName) : Session Unit := do
  if ← isAttached site table then throw (.validation (.tableAttached table))

/-- The record in the catalog file of a table that is not attached. -/
def detachedRecord (site : Site) (table : TableName) : Session Catalog.Record := do
  let catalogFile := site.layout.tableFile table
  let present ← (look (·.isPresent catalogFile)).adaptExcept (TableError.io .inspect catalogFile)
  if !present then throw (.validation (.missingCatalogFile table catalogFile))
  (look (Catalog.readRecord · catalogFile)).adaptExcept TableError.metadata

/-- Removes a table's catalog file. -/
def removeCatalogFile (site : Site) (table : TableName) : Session Unit :=
  let catalogFile := site.layout.tableFile table
  (onTree (FileTree.removeFile catalogFile)).adaptExcept (TableError.io .removeCatalogFile catalogFile)

end Session

/-- Makes a call, given what the purge finds out, with what this call finds out in the place of what
was given. -/
def PurgeCall.run (site : Site) (table : TableName) (f : PurgeFindings) :
    PurgeCall → Session PurgeFindings
  | .presence => do
    checkDetached site table
    return f
  | .catalogFile => do
    let record ← detachedRecord site table
    return { f with record }
  | .inventory => do
    let disks ← listDisks site
    return { f with disks }
  | .version => do
    let form ← commandForm site
    return { f with form }
  | .disk d => do
    removeFromDisk site d f.record.uuid.storePath f.form
    return f
  | .replicaPath template => do
    let root ← expandFor site template table f.record.uuid
    return { f with root }
  | .replicaName template => do
    let name ← expandFor site template table f.record.uuid
    return { f with name }
  | .replica => do
    dropReplica site { root := f.root, name := f.name }
    return f
  | .dataLink => do
    let _ ← removePath (site.layout.dataLink table)
    return f
  | .detachedFlag => do
    let _ ← removePath (site.layout.detachedFlag table)
    return f
  | .removal => do
    removeCatalogFile site table
    return f

/-! ## Runs of calls -/

/-- Of some calls, those in `done` end well, one after the other, and find what `f` says. The next one
fails. -/
inductive Interrupted (site : Site) (table : TableName) (f : PurgeFindings) :
    List PurgeCall → List PurgeCall → PurgeCall → World → TableError → World → Prop
  | here {c : PurgeCall} {rest : List PurgeCall} {w w' : World} {e : TableError} :
      c.run site table f w = .error e w' → Interrupted site table f (c :: rest) [] c w e w'
  | later {c failing : PurgeCall} {rest done : List PurgeCall} {w v w' : World} {e : TableError} :
      c.run site table f w = .ok f v → Interrupted site table f rest done failing v e w' →
      Interrupted site table f (c :: rest) (c :: done) failing w e w'

/-- Some calls all end well, one after the other, and find what `f` says. -/
inductive Completed (site : Site) (table : TableName) (f : PurgeFindings) :
    List PurgeCall → World → World → Prop
  | nil {w : World} : Completed site table f [] w w
  | cons {c : PurgeCall} {more : List PurgeCall} {w v w' : World} :
      c.run site table f w = .ok f v → Completed site table f more v w' →
      Completed site table f (c :: more) w w'

variable {site : Site} {table : TableName} {f : PurgeFindings} {calls more done : List PurgeCall}
  {failing : PurgeCall} {w v w' : World} {e : TableError}

theorem Interrupted.eq_append (h : Interrupted site table f calls done failing w e w') :
    ∃ rest, calls = done ++ failing :: rest := by
  induction h with
  | @here c rest _ _ _ _ => exact ⟨rest, rfl⟩
  | later _ _ ih =>
    obtain ⟨rest, rfl⟩ := ih
    exact ⟨rest, rfl⟩

/-- The calls before the one that fails are completed, and it fails from there. -/
theorem Interrupted.completed (h : Interrupted site table f calls done failing w e w') :
    ∃ v, Completed site table f done w v ∧ failing.run site table f v = .error e w' := by
  induction h with
  | here hrun => exact ⟨_, .nil, hrun⟩
  | later hrun _ ih =>
    obtain ⟨v, hdone, hfailing⟩ := ih
    exact ⟨v, .cons hrun hdone, hfailing⟩

theorem Interrupted.append (h : Interrupted site table f calls done failing w e w')
    (more : List PurgeCall) : Interrupted site table f (calls ++ more) done failing w e w' := by
  induction h with
  | here hrun => exact .here hrun
  | later hrun _ ih => exact .later hrun ih

theorem Completed.interrupted (h : Completed site table f calls w v)
    (hmore : Interrupted site table f more done failing v e w') :
    Interrupted site table f (calls ++ more) (calls ++ done) failing w e w' := by
  induction h with
  | nil => exact hmore
  | cons hrun _ ih => exact .later hrun (ih hmore)

/-- A run is interrupted in its first part, or behind it once that is completed. -/
theorem Interrupted.of_append (h : Interrupted site table f (calls ++ more) done failing w e w') :
    Interrupted site table f calls done failing w e w' ∨
    ∃ late v, done = calls ++ late ∧ Completed site table f calls w v ∧
      Interrupted site table f more late failing v e w' := by
  induction calls generalizing done w with
  | nil => exact .inr ⟨done, w, rfl, .nil, h⟩
  | cons c calls ih =>
    cases h with
    | here hrun => exact .inl (.here hrun)
    | later hrun hrest =>
      rcases ih hrest with hcalls | ⟨late, v, rfl, hcompleted, hmore⟩
      · exact .inl (.later hrun hcalls)
      · exact .inr ⟨late, v, rfl, .cons hrun hcompleted, hmore⟩

/-! ## The run of a purge -/

theorem attemptPurge_eq (site : Site) (table : TableName) :
    attemptPurge site table = (do
      checkDetached site table
      let record ← detachedRecord site table
      let disks ← listDisks site
      let form ← commandForm site
      removeFromDisks site record.uuid.storePath form disks
      let replicaPath ← dropReplicaOf site table record
      let dataLinkRemoved ← removePath (site.layout.dataLink table)
      let detachedFlagRemoved ← removePath (site.layout.detachedFlag table)
      removeCatalogFile site table
      return { table, uuid := record.uuid, catalogFile := site.layout.tableFile table,
               disks := disks.map (·.name), replicaPath, dataLinkRemoved, detachedFlagRemoved }) := by
  unfold attemptPurge checkDetached detachedRecord
  rw [bind_assoc]
  refine bind_congr fun attached => ?_
  cases attached with
  | true => rfl
  | false =>
    rw [if_neg Bool.false_ne_true, if_neg Bool.false_ne_true, pure_bind, bind_assoc]
    refine bind_congr fun present => ?_
    cases present <;> rfl

theorem interrupted_removeFromDisks {disks : List Disk}
    (h : removeFromDisks site f.record.uuid.storePath f.form disks w = .error e w') :
    ∃ done failing, Interrupted site table f (disks.map .disk) done failing w e w' := by
  induction disks generalizing w with
  | nil => cases h
  | cons disk more ih =>
    rcases error_of_bind h with hdisk | ⟨_, v, hdisk, h⟩
    · exact ⟨[], .disk disk, .here (bind_of_error hdisk)⟩
    · obtain ⟨done, failing, hmore⟩ := ih h
      exact ⟨.disk disk :: done, failing, .later (bind_of_ok hdisk) hmore⟩

theorem completed_removeFromDisks {disks : List Disk}
    (h : removeFromDisks site f.record.uuid.storePath f.form disks w = .ok () w') :
    Completed site table f (disks.map .disk) w w' := by
  induction disks generalizing w with
  | nil => cases h; exact .nil
  | cons disk more ih =>
    obtain ⟨_, v, hdisk, h⟩ := ok_of_bind h
    exact .cons (bind_of_ok hdisk) (ih h)

section Replica

variable {record : Catalog.Record} {disks : List Disk} {form : CommandForm}

theorem interrupted_dropReplicaOf (h : dropReplicaOf site table record w = .error e w') :
    ∃ root name done failing,
      Interrupted site table ⟨record, disks, form, root, name⟩ (replicaCalls record) done failing
        w e w' := by
  unfold dropReplicaOf at h
  unfold replicaCalls
  cases hr : record.engine.replica? with
  | none => rw [hr] at h; cases h
  | some replica =>
    rw [hr] at h
    rcases error_of_bind h with hpath | ⟨root, v₁, hpath, h⟩
    · exact ⟨[], [], _, _, .here (bind_of_error hpath)⟩
    rcases error_of_bind h with hname | ⟨name, v₂, hname, h⟩
    · exact ⟨root, [], _, _, .later (bind_of_ok hpath) (.here (bind_of_error hname))⟩
    rcases error_of_bind h with hdrop | ⟨_, v₃, hdrop, h⟩
    · exact ⟨root, name, _, _,
        .later (bind_of_ok hpath) (.later (bind_of_ok hname) (.here (bind_of_error hdrop)))⟩
    · cases h

theorem completed_dropReplicaOf {replicaPath : Option Text}
    (h : dropReplicaOf site table record w = .ok replicaPath w') :
    ∃ root name, Completed site table ⟨record, disks, form, root, name⟩ (replicaCalls record) w w' := by
  unfold dropReplicaOf at h
  unfold replicaCalls
  cases hr : record.engine.replica? with
  | none => rw [hr] at h; cases h; exact ⟨[], [], .nil⟩
  | some replica =>
    rw [hr] at h
    obtain ⟨root, v₁, hpath, h⟩ := ok_of_bind h
    obtain ⟨name, v₂, hname, h⟩ := ok_of_bind h
    obtain ⟨_, v₃, hdrop, h⟩ := ok_of_bind h
    cases h
    exact ⟨root, name,
      .cons (bind_of_ok hpath) (.cons (bind_of_ok hname) (.cons (bind_of_ok hdrop) .nil))⟩

end Replica

/-- A purge that fails makes its calls in order, up to one that fails. -/
theorem interrupted_attemptPurge (h : attemptPurge site table w = .error e w') :
    ∃ f done failing, Interrupted site table f (purgeCalls f) done failing w e w' := by
  rw [attemptPurge_eq] at h
  -- what a failing call keeps from being found out is filled in with anything
  rcases error_of_bind h with hpresence | ⟨_, v₁, hpresence, h⟩
  · exact ⟨default, _, _, .here (bind_of_error hpresence)⟩
  rcases error_of_bind h with hrecord | ⟨record, v₂, hrecord, h⟩
  · exact ⟨default, _, _, .later (bind_of_ok hpresence) (.here (bind_of_error hrecord))⟩
  rcases error_of_bind h with hdisks | ⟨disks, v₃, hdisks, h⟩
  · exact ⟨⟨record, [], .query, [], []⟩, _, _, .later (bind_of_ok hpresence)
      (.later (bind_of_ok hrecord) (.here (bind_of_error hdisks)))⟩
  rcases error_of_bind h with hform | ⟨form, v₄, hform, h⟩
  · exact ⟨⟨record, disks, .query, [], []⟩, _, _, .later (bind_of_ok hpresence)
      (.later (bind_of_ok hrecord) (.later (bind_of_ok hdisks) (.here (bind_of_error hform))))⟩
  -- what is found out later makes no difference to the calls so far
  have survey : ∀ root name,
      Completed site table ⟨record, disks, form, root, name⟩ surveyCalls w v₄ := fun root name =>
    .cons (bind_of_ok hpresence) (.cons (bind_of_ok hrecord)
      (.cons (bind_of_ok hdisks) (.cons (bind_of_ok hform) .nil)))
  rcases error_of_bind h with hremove | ⟨_, v₅, hremove, h⟩
  · obtain ⟨done, failing, hi⟩ : ∃ done failing,
        Interrupted site table ⟨record, disks, form, [], []⟩ (disks.map .disk) done failing v₄ e w' :=
      interrupted_removeFromDisks hremove
    exact ⟨_, _, _, (survey [] []).interrupted (hi.append _)⟩
  have emptied : ∀ root name,
      Completed site table ⟨record, disks, form, root, name⟩ (disks.map .disk) v₄ v₅ :=
    fun root name => completed_removeFromDisks hremove
  rcases error_of_bind h with hreplica | ⟨replicaPath, v₆, hreplica, h⟩
  · obtain ⟨root, name, done, failing, hi⟩ := interrupted_dropReplicaOf hreplica
    exact ⟨_, _, _, (survey root name).interrupted ((emptied root name).interrupted (hi.append _))⟩
  obtain ⟨root, name, dropped⟩ := completed_dropReplicaOf hreplica
  have removal : ∃ done failing, Interrupted site table ⟨record, disks, form, root, name⟩
      removalCalls done failing v₆ e w' := by
    rcases error_of_bind h with hlink | ⟨_, v₇, hlink, h⟩
    · exact ⟨_, _, .here (bind_of_error hlink)⟩
    rcases error_of_bind h with hflag | ⟨_, v₈, hflag, h⟩
    · exact ⟨_, _, .later (bind_of_ok hlink) (.here (bind_of_error hflag))⟩
    rcases error_of_bind h with hfile | ⟨_, v₉, hfile, h⟩
    · exact ⟨_, _, .later (bind_of_ok hlink) (.later (bind_of_ok hflag) (.here (bind_of_error hfile)))⟩
    · cases h
  obtain ⟨done, failing, hi⟩ := removal
  exact ⟨_, _, _, (survey root name).interrupted
    ((emptied root name).interrupted (dropped.interrupted hi))⟩

/-! ## The stages of a purge -/

namespace Session

/-- What a purge finds out before it changes anything: the record, the disks and the form of the
remover's command. -/
def survey (site : Site) (table : TableName) :
    Session (Catalog.Record × List Disk × CommandForm) := do
  checkDetached site table
  let record ← detachedRecord site table
  let disks ← listDisks site
  let form ← commandForm site
  return (record, disks, form)

/-- Removes a table's files, and answers whether there were a link and a flag. -/
def removeFiles (site : Site) (table : TableName) : Session (Bool × Bool) := do
  let dataLinkRemoved ← removePath (site.layout.dataLink table)
  let detachedFlagRemoved ← removePath (site.layout.detachedFlag table)
  removeCatalogFile site table
  return (dataLinkRemoved, detachedFlagRemoved)

end Session

theorem attemptPurge_stages (site : Site) (table : TableName) :
    attemptPurge site table = (do
      let found ← survey site table
      removeFromDisks site found.1.uuid.storePath found.2.2 found.2.1
      let replicaPath ← dropReplicaOf site table found.1
      let removed ← removeFiles site table
      return { table, uuid := found.1.uuid, catalogFile := site.layout.tableFile table,
               disks := found.2.1.map (·.name), replicaPath, dataLinkRemoved := removed.1,
               detachedFlagRemoved := removed.2 }) := by
  rw [attemptPurge_eq]
  simp only [survey, removeFiles, bind_assoc, pure_bind]

end CatalogAdmin
