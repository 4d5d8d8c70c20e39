import CatalogAdmin.Proofs.Layout.Names
import CatalogAdmin.Proofs.UuidChange.Validation

/-!
# The course of a change of UUID

A change of UUID asks for the table, validates, detaches, changes the catalog file and moves the
store, in this order, and ends at the first of them that fails. `Course` says how a run may end, and
`course_attemptUuidChange` that every run ends in one of these ways.

Against a server that only answers, a run that comes as far as the catalog file was found valid
(`Prepared.validated`), and has done nothing but ask: what it sent besides `SELECT` queries is the one
`DETACH` of a table that the server reported (`Prepared.world`).
-/

namespace CatalogAdmin

open Session

/-- The statement that detaches a table, as it is sent. -/
def detachRequest (site : Site) (table : TableName) : Sent :=
  ⟨.execute, { sql := detachStatement table false,
               timeout := some site.settings.server.timeouts.detachTable }⟩

/-! ## The course -/

/-- The catalog file of a table: where the server says for a table it has attached, and where the
layout puts it for any other. -/
def catalogFileOf (site : Site) (table : TableName) : Option TableInfo → Path
  | some info => site.settings.paths.resolve info.metadataPath
  | none => site.layout.tableFile table

/-- Walks of the catalog file of a table start from a directory, if those of the root do. -/
theorem grounded_catalogFileOf {t : FileTree} {site : Site}
    (hstart : t.Grounded (t.origin site.layout.root)) (table : TableName) (info : Option TableInfo) :
    t.Grounded (t.origin (catalogFileOf site table info)) := by
  cases info with
  | none =>
    show t.Grounded (t.origin (site.layout.tableFile table))
    rwa [FileTree.origin_tableFile]
  | some info =>
    show t.Grounded (t.origin (site.settings.paths.resolve info.metadataPath))
    unfold PathSettings.resolve
    split
    · next habs => exact t.grounded_origin habs
    · next hrel =>
      have hsame : t.origin (site.settings.paths.root.join info.metadataPath) =
          t.origin site.layout.root :=
        t.origin_congr (Path.isAbsolute_join_of_relative _ (Bool.eq_false_iff.2 hrel))
      rwa [hsame]

/-- Up to the catalog file everything went well: the table was asked for, the change was found valid,
and the table was detached if the server reported it. -/
inductive Prepared (site : Site) (table : TableName) (newUuid : Uuid) (w : World) :
    Option TableInfo → Catalog.Record → World → Prop
  | detached {record : Catalog.Record} {v₁ v₂ : World} :
      tableInfo? site table w = .ok none v₁ →
      validateUuidChange site table (catalogFileOf site table none) newUuid v₁ = .ok record v₂ →
      Prepared site table newUuid w none record
        ((v₂.telling (.transition .validating .detaching)).telling
          (.transition .detaching .changingCatalog))
  | attached {info : TableInfo} {record : Catalog.Record} {v₁ v₂ v₃ : World} :
      tableInfo? site table w = .ok (some info) v₁ →
      validateUuidChange site table (catalogFileOf site table (some info)) newUuid v₁ =
        .ok record v₂ →
      detach site table false (v₂.telling (.transition .validating .detaching)) = .ok () v₃ →
      Prepared site table newUuid w (some info) record
        (v₃.telling (.transition .detaching .changingCatalog))

/-- The events of a catalog file that took its new UUID. -/
def changeEvents (validated found : Uuid) : List Event :=
  (if found ≠ validated then [.catalogFileChanged validated found] else []) ++
    [.transition .changingCatalog .relocatingStore]

/-- How a change of UUID may end. -/
inductive Course (site : Site) (table : TableName) (newUuid : Uuid) (w : World) :
    EStateM.Result UuidChangeFailure World UuidChangeReport → Prop
  | unanswered {e : TableError} {v : World} :
      tableInfo? site table w = .error e v → Course site table newUuid w (.error ⟨.validating, e⟩ v)
  | invalid {info : Option TableInfo} {e : TableError} {v₁ v : World} :
      tableInfo? site table w = .ok info v₁ →
      validateUuidChange site table (catalogFileOf site table info) newUuid v₁ = .error e v →
      Course site table newUuid w (.error ⟨.validating, e⟩ v)
  | notDetached {info : TableInfo} {record : Catalog.Record} {e : TableError} {v₁ v₂ v : World} :
      tableInfo? site table w = .ok (some info) v₁ →
      validateUuidChange site table (catalogFileOf site table (some info)) newUuid v₁ =
        .ok record v₂ →
      detach site table false (v₂.telling (.transition .validating .detaching)) = .error e v →
      Course site table newUuid w (.error ⟨.detaching, e⟩ v)
  | notChanged {info : Option TableInfo} {record : Catalog.Record} {e : Catalog.FileError}
      {v : World} {tree : FileTree} :
      Prepared site table newUuid w info record v →
      Catalog.setUuid (catalogFileOf site table info) newUuid v.tree = .error e tree →
      Course site table newUuid w (.error ⟨.changingCatalog, .metadata e⟩ { v with tree })
  | notRelocated {info : Option TableInfo} {record : Catalog.Record} {oldUuid : Uuid}
      {cause : IoError} {v : World} {tree tree' : FileTree} :
      Prepared site table newUuid w info record v →
      Catalog.setUuid (catalogFileOf site table info) newUuid v.tree = .ok oldUuid tree →
      FileTree.relocateStore (site.layout.dataLink table) (site.layout.storeDirectory oldUuid)
        (site.layout.storeDirectory newUuid) tree = .error cause tree' →
      Course site table newUuid w
        (.error ⟨.relocatingStore, .inconsistentState
            { table, oldUuid, newUuid, catalogFile := catalogFileOf site table info,
              source := site.layout.storeDirectory oldUuid,
              target := site.layout.storeDirectory newUuid, cause }⟩
          { v with tree := tree', events := v.events ++ changeEvents record.uuid oldUuid })
  | changed {info : Option TableInfo} {record : Catalog.Record} {oldUuid : Uuid}
      {report : UuidChangeReport} {v v' : World} {tree : FileTree} :
      Prepared site table newUuid w info record v →
      Catalog.setUuid (catalogFileOf site table info) newUuid v.tree = .ok oldUuid tree →
      v'.sent = v.sent → Course site table newUuid w (.ok report v')

variable {site : Site} {table : TableName} {newUuid : Uuid} {w : World}

namespace Session

/-- Detaches a table that the server reported. -/
def detachReported (site : Site) (table : TableName) :
    Option TableInfo → EStateM UuidChangeFailure World Unit
  | none => pure ()
  | some _ => during .detaching (detach site table false)

/-- Moves the store to the place of the new UUID, with the catalog file changed already. -/
def relocate (site : Site) (table : TableName) (newUuid oldUuid : Uuid) (info : Option TableInfo) :
    EStateM UuidChangeFailure World UuidChangeReport := do
  let catalogFile := catalogFileOf site table info
  let source := site.layout.storeDirectory oldUuid
  let target := site.layout.storeDirectory newUuid
  let (storeRelocated, dataLinkUpdated) ← during .relocatingStore
    ((onTree (FileTree.relocateStore (site.layout.dataLink table) source target)).adaptExcept
      fun cause => TableError.inconsistentState
        { table, oldUuid, newUuid, catalogFile, source, target, cause })
  return { table, catalogFile, oldUuid, newUuid, detached := info.isSome, storeRelocated,
           dataLinkUpdated }

/-- A change of UUID from the catalog file on. -/
def changePrepared (site : Site) (table : TableName) (newUuid : Uuid) (info : Option TableInfo)
    (record : Catalog.Record) : EStateM UuidChangeFailure World UuidChangeReport := do
  let oldUuid ← during .changingCatalog
    ((onTree (Catalog.setUuid (catalogFileOf site table info) newUuid)).adaptExcept
      TableError.metadata)
  if oldUuid ≠ record.uuid then tell (.catalogFileChanged record.uuid oldUuid)
  tell (.transition .changingCatalog .relocatingStore)
  relocate site table newUuid oldUuid info

theorem attemptUuidChange_eq (site : Site) (table : TableName) (newUuid : Uuid) :
    attemptUuidChange site table newUuid = (do
      let info ← during .validating (tableInfo? site table)
      let record ← during .validating
        (validateUuidChange site table (catalogFileOf site table info) newUuid)
      tell (.transition .validating .detaching)
      detachReported site table info
      tell (.transition .detaching .changingCatalog)
      changePrepared site table newUuid info record) := by
  unfold attemptUuidChange changePrepared
  congr 1
  funext info
  cases info <;> rfl

theorem during_of_ok {α : Type} {phase : Phase} {x : Session α} {a : α} {v v' : World}
    (h : x v = .ok a v') : during phase x v = .ok a v' := adaptExcept_of_ok h

theorem during_of_error {α : Type} {phase : Phase} {x : Session α} {e : TableError} {v v' : World}
    (h : x v = .error e v') : during phase x v = .error ⟨phase, e⟩ v' := adaptExcept_of_error h

/-- The run of the steps behind the catalog file, once it is changed. -/
theorem changePrepared_of_ok {info : Option TableInfo} {record : Catalog.Record} {oldUuid : Uuid}
    {v : World} {tree : FileTree}
    (h : Catalog.setUuid (catalogFileOf site table info) newUuid v.tree = .ok oldUuid tree) :
    changePrepared site table newUuid info record v =
      relocate site table newUuid oldUuid info
        { v with tree, events := v.events ++ changeEvents record.uuid oldUuid } := by
  unfold changePrepared
  rw [bind_of_ok (during_of_ok (adaptExcept_of_ok (onTree_of_ok h)))]
  by_cases hne : oldUuid = record.uuid
  · simp only [hne, ne_eq, not_true_eq_false, if_false, changeEvents, List.nil_append]
    exact bind_of_ok (tell_eq _)
  · simp only [hne, ne_eq, not_false_eq_true, if_true, changeEvents]
    rw [bind_of_ok (tell_eq _)]
    refine (bind_of_ok (tell_eq _)).trans ?_
    simp [World.telling]

/-- The run of these steps where the catalog file cannot be changed. -/
theorem changePrepared_of_error {info : Option TableInfo} {record : Catalog.Record}
    {e : Catalog.FileError} {v : World} {tree : FileTree}
    (h : Catalog.setUuid (catalogFileOf site table info) newUuid v.tree = .error e tree) :
    changePrepared site table newUuid info record v =
      .error ⟨.changingCatalog, .metadata e⟩ { v with tree } :=
  bind_of_error (during_of_error (adaptExcept_of_error (onTree_of_error h)))

theorem course_changePrepared {info : Option TableInfo} {record : Catalog.Record} {v : World}
    (h : Prepared site table newUuid w info record v) :
    Course site table newUuid w (changePrepared site table newUuid info record v) := by
  cases hset : Catalog.setUuid (catalogFileOf site table info) newUuid v.tree with
  | error e tree =>
    rw [changePrepared_of_error hset]
    exact .notChanged h hset
  | ok oldUuid tree =>
    rw [changePrepared_of_ok hset]
    unfold relocate
    cases hmove : FileTree.relocateStore (site.layout.dataLink table)
        (site.layout.storeDirectory oldUuid) (site.layout.storeDirectory newUuid) tree with
    | error cause tree' =>
      rw [bind_of_error (during_of_error (adaptExcept_of_error (onTree_of_error hmove)))]
      exact .notRelocated h hset hmove
    | ok moved tree' =>
      rw [bind_of_ok (during_of_ok (adaptExcept_of_ok (onTree_of_ok hmove)))]
      exact .changed h hset rfl

/-- Every run of a change of UUID ends in one of the ways it may end. -/
theorem course_attemptUuidChange (site : Site) (table : TableName) (newUuid : Uuid) (w : World) :
    Course site table newUuid w (attemptUuidChange site table newUuid w) := by
  rw [attemptUuidChange_eq]
  cases hinfo : tableInfo? site table w with
  | error e v =>
    rw [bind_of_error (during_of_error hinfo)]
    exact .unanswered hinfo
  | ok info v₁ =>
    rw [bind_of_ok (during_of_ok hinfo)]
    cases hvalid : validateUuidChange site table (catalogFileOf site table info) newUuid v₁ with
    | error e v =>
      rw [bind_of_error (during_of_error hvalid)]
      exact .invalid hinfo hvalid
    | ok record v₂ =>
      rw [bind_of_ok (during_of_ok hvalid), bind_of_ok (tell_eq _)]
      cases info with
      | none =>
        have hskip : detachReported site table none
            (v₂.telling (.transition .validating .detaching)) = .ok () _ := rfl
        rw [bind_of_ok hskip, bind_of_ok (tell_eq _)]
        exact course_changePrepared (.detached hinfo hvalid)
      | some info =>
        cases hdetach : detach site table false
            (v₂.telling (.transition .validating .detaching)) with
        | error e v =>
          have hstop : detachReported site table (some info) _ = _ := during_of_error hdetach
          rw [bind_of_error hstop]
          exact .notDetached hinfo hvalid hdetach
        | ok _ v₃ =>
          have hgo : detachReported site table (some info) _ = _ := during_of_ok hdetach
          rw [bind_of_ok hgo, bind_of_ok (tell_eq _)]
          exact course_changePrepared (.attached hinfo hvalid hdetach)

/-- From the catalog file on, a change that ends well gave it the new UUID and moved the store. -/
theorem changePrepared_ok {info : Option TableInfo} {record : Catalog.Record}
    {report : UuidChangeReport} {v w' : World}
    (h : changePrepared site table newUuid info record v = .ok report w') :
    ∃ oldUuid tree storeRelocated dataLinkUpdated tree',
      Catalog.setUuid (catalogFileOf site table info) newUuid v.tree = .ok oldUuid tree ∧
      FileTree.relocateStore (site.layout.dataLink table) (site.layout.storeDirectory oldUuid)
        (site.layout.storeDirectory newUuid) tree = .ok (storeRelocated, dataLinkUpdated) tree' ∧
      w' = { v with tree := tree', events := v.events ++ changeEvents record.uuid oldUuid } ∧
      report = { table, catalogFile := catalogFileOf site table info, oldUuid, newUuid,
                 detached := info.isSome, storeRelocated, dataLinkUpdated } := by
  cases hset : Catalog.setUuid (catalogFileOf site table info) newUuid v.tree with
  | error e tree =>
    rw [changePrepared_of_error hset] at h
    cases h
  | ok oldUuid tree =>
    rw [changePrepared_of_ok hset] at h
    unfold relocate at h
    cases hmove : FileTree.relocateStore (site.layout.dataLink table)
        (site.layout.storeDirectory oldUuid) (site.layout.storeDirectory newUuid) tree with
    | error cause tree' =>
      rw [bind_of_error (during_of_error (adaptExcept_of_error (onTree_of_error hmove)))] at h
      cases h
    | ok moved tree' =>
      rw [bind_of_ok (during_of_ok (adaptExcept_of_ok (onTree_of_ok hmove)))] at h
      cases h
      exact ⟨oldUuid, tree, moved.1, moved.2, tree', rfl, hmove, rfl, rfl⟩

/-- A change of UUID that ends well has gone through all its phases, and its report says what each of
them did. -/
theorem changed_of_ok {report : UuidChangeReport} {w' : World}
    (h : attemptUuidChange site table newUuid w = .ok report w') :
    ∃ info record v oldUuid tree storeRelocated dataLinkUpdated tree',
      Prepared site table newUuid w info record v ∧
      Catalog.setUuid (catalogFileOf site table info) newUuid v.tree = .ok oldUuid tree ∧
      FileTree.relocateStore (site.layout.dataLink table) (site.layout.storeDirectory oldUuid)
        (site.layout.storeDirectory newUuid) tree = .ok (storeRelocated, dataLinkUpdated) tree' ∧
      w' = { v with tree := tree', events := v.events ++ changeEvents record.uuid oldUuid } ∧
      report = { table, catalogFile := catalogFileOf site table info, oldUuid, newUuid,
                 detached := info.isSome, storeRelocated, dataLinkUpdated } := by
  rw [attemptUuidChange_eq] at h
  obtain ⟨info, v₁, hinfo, h⟩ := ok_of_bind h
  obtain ⟨record, v₂, hvalid, h⟩ := ok_of_bind h
  rw [bind_of_ok (tell_eq _)] at h
  obtain ⟨_, v₃, hdetach, h⟩ := ok_of_bind h
  rw [bind_of_ok (tell_eq _)] at h
  replace hinfo := ok_of_adaptExcept hinfo
  replace hvalid := ok_of_adaptExcept hvalid
  have hprepared : Prepared site table newUuid w info record
      (v₃.telling (.transition .detaching .changingCatalog)) := by
    cases info with
    | none =>
      cases hdetach
      exact .detached hinfo hvalid
    | some info => exact .attached hinfo hvalid (ok_of_adaptExcept hdetach)
  obtain ⟨oldUuid, tree, storeRelocated, dataLinkUpdated, tree', hset, hmove, hend⟩ :=
    changePrepared_ok h
  exact ⟨info, record, _, oldUuid, tree, storeRelocated, dataLinkUpdated, tree', hprepared, hset,
    hmove, hend⟩

/-- A failure names the table and ends with the phase it happened in. -/
theorem exists_of_changeUuid_error {e : TableError} {w' : World}
    (h : changeUuid site table newUuid w = .error e w') :
    ∃ failure v, attemptUuidChange site table newUuid w = .error failure v ∧
      e = failure.error.named table ∧ w' = v.telling (.transition failure.phase .failed) := by
  unfold changeUuid at h
  cases hrun : attemptUuidChange site table newUuid w with
  | ok report v => rw [hrun] at h; cases h
  | error failure v => rw [hrun] at h; cases h; exact ⟨failure, v, rfl, rfl, rfl⟩

end Session

/-! ## Against a server that only answers -/

/-- What a change of UUID has found out when it is valid: what the server tells of the table, and a
catalog file whose record has another UUID and whose replicas agree on the new one. -/
structure Validated (answers : List Sent → Sent → Except ClientError (List Row)) (site : Site)
    (table : TableName) (newUuid : Uuid) (w w' : World) (info : Option TableInfo)
    (record : Catalog.Record) : Prop where
  reported : Reported answers site table w w' info
  read : Catalog.readRecord w.tree (catalogFileOf site table info) = .ok record
  other : record.uuid ≠ newUuid
  agreed : Agreed answers site table newUuid w w' record

variable {answers : List Sent → Sent → Except ClientError (List Row)} {info : Option TableInfo}
  {record : Catalog.Record} {v v₁ v₂ : World}

theorem Validated.extend (h : Validated answers site table newUuid w v info record)
    (later : List Sent) (hl : v₁.sent = v.sent ++ later) :
    Validated answers site table newUuid w v₁ info record where
  reported := h.reported.extend hl
  read := h.read
  other := h.other
  agreed := h.agreed.extend (List.append_nil _).symm hl

namespace Session

theorem detach_ofAnswers (hs : site.server = .ofAnswers answers) (table : TableName) (w : World) :
    detach site table false w = .ok () (w.asking (detachRequest site table)) ∨
    ∃ e, (e.kind = .query ∨ e.kind = .timeout) ∧
      detach site table false w = .error e (w.asking (detachRequest site table)) :=
  asTask_execute answers hs _ _ w

theorem detach_of_ok (hs : site.server = .ofAnswers answers)
    (h : detach site table false w = .ok () v) : v = w.asking (detachRequest site table) := by
  rcases detach_ofAnswers hs table w with hrun | ⟨_, _, hrun⟩
  · rw [hrun] at h
    cases h
    rfl
  · rw [hrun] at h
    cases h

theorem detach_of_error (hs : site.server = .ofAnswers answers) {e : TableError}
    (h : detach site table false w = .error e v) :
    (e.kind = .query ∨ e.kind = .timeout) ∧ v = w.asking (detachRequest site table) := by
  rcases detach_ofAnswers hs table w with hrun | ⟨_, hkind, hrun⟩
  · rw [hrun] at h
    cases h
  · rw [hrun] at h
    cases h
    exact ⟨hkind, rfl⟩

theorem validated_of_ok (hs : site.server = .ofAnswers answers)
    (hinfo : tableInfo? site table w = .ok info v₁)
    (hvalid : validateUuidChange site table (catalogFileOf site table info) newUuid v₁ =
      .ok record v₂) :
    World.OnlySelected w v₂ ∧ Validated answers site table newUuid w v₂ info record := by
  have hfirst := (selects_tableInfo? hs table).ok hinfo
  have hthen := (selects_validateUuidChange hs table _ newUuid).ok hvalid
  obtain ⟨asked, hsent, -⟩ := hfirst.sent_eq
  obtain ⟨later, hlater, -⟩ := hthen.sent_eq
  obtain ⟨hread, hother, hagreed⟩ := validateUuidChange_of_ok hs hvalid
  rw [hfirst.tree_eq] at hread
  exact ⟨hfirst.trans hthen, (tableInfo?_of_ok hs hinfo).extend hlater, hread, hother,
    hagreed.extend hsent (List.append_nil _).symm⟩

end Session

namespace Prepared

/-- What is sent to detach a table, by what the server told of it. -/
def detaching (site : Site) (table : TableName) : Option TableInfo → List Sent
  | none => []
  | some _ => [detachRequest site table]

/-- A run that comes as far as the catalog file has done nothing but ask. -/
theorem world (hs : site.server = .ofAnswers answers)
    (h : Prepared site table newUuid w info record v) :
    Validated answers site table newUuid w v info record ∧
    ∃ asked : List Sent, (∀ s ∈ asked, s.query.sql.startsWith "SELECT" = true) ∧
      v = { w with
        sent := w.sent ++ asked ++ detaching site table info,
        events := w.events ++
          [.transition .validating .detaching, .transition .detaching .changingCatalog] } := by
  cases h with
  | @detached _ v₁ v₂ hinfo hvalid =>
    obtain ⟨⟨asked, rfl, hasked⟩, hvalidated⟩ := validated_of_ok hs hinfo hvalid
    refine ⟨hvalidated.extend [] ?_, asked, hasked, ?_⟩
    · simp [World.telling]
    · simp [World.telling, detaching]
  | @attached _ _ v₁ v₂ v₃ hinfo hvalid hdetach =>
    obtain ⟨⟨asked, rfl, hasked⟩, hvalidated⟩ := validated_of_ok hs hinfo hvalid
    obtain rfl := detach_of_ok hs hdetach
    refine ⟨hvalidated.extend [detachRequest site table] ?_, asked, hasked, ?_⟩
    · simp [World.telling, World.asking]
    · simp [World.telling, World.asking, detaching]

end Prepared

end CatalogAdmin
