import CatalogAdmin.Proofs.UuidChange.Effect

/-!
# Changing the UUID of a detached table

A server that has a table detached has no row for it. Then a change of the table's UUID sends no statement,
and finds the catalog file where the layout puts it. For a table without replicas it is a change of files and
nothing else: `steps_of_changeUuid` says which two steps a change that ended well has taken, and
`changeUuid_of_steps` that it ends well where these steps do.
-/

namespace CatalogAdmin

open Session FileTree

variable {answers : List Sent → Sent → Except ClientError (List Row)} {site : Site} {table : TableName}
  {newUuid oldUuid : Uuid} {w w' : World} {record : Catalog.Record} {tree tree' : FileTree}

/-- The server has no row for a table, whenever it is asked. -/
def Detached (answers : List Sent → Sent → Except ClientError (List Row)) (site : Site)
    (table : TableName) : Prop :=
  ∀ sent, answers sent (presenceQuery site table) = .ok []

namespace Detached

variable (hs : site.server = .ofAnswers answers) (h : Detached answers site table)
include hs h

theorem tableInfo? (w : World) :
    Session.tableInfo? site table w = .ok none (w.asking (presenceQuery site table)) := by
  have hsend : send site.server (presenceQuery site table) w =
      .ok [] (w.asking (presenceQuery site table)) := by
    rw [hs, send_ofAnswers, h]
  have hfetch : fetchAs site.server TableInfo.ofRow? (presenceQuery site table).query w =
      .ok [] (w.asking (presenceQuery site table)) := bind_of_ok hsend
  exact bind_of_ok (adaptExcept_of_ok hfetch)

/-- A change of the table's UUID goes on from the catalog file of the layout. -/
theorem attemptUuidChange (newUuid : Uuid) (w : World) :
    Session.attemptUuidChange site table newUuid w =
      (do
        let record ← during .validating
          (validateUuidChange site table (site.layout.tableFile table) newUuid)
        tell (.transition .validating .detaching)
        tell (.transition .detaching .changingCatalog)
        changePrepared site table newUuid none record) (w.asking (presenceQuery site table)) := by
  rw [attemptUuidChange_eq, bind_of_ok (during_of_ok (h.tableInfo? hs w))]
  rfl

end Detached

theorem validateUuidChange_of_plain {catalogFile : Path}
    (hread : Catalog.readRecord w.tree catalogFile = .ok record) (hengine : record.engine = .plain)
    (hne : record.uuid ≠ newUuid) :
    validateUuidChange site table catalogFile newUuid w = .ok record w := by
  unfold validateUuidChange
  rw [bind_of_ok (adaptExcept_of_ok (Session.look_of_ok hread)), if_neg hne, hengine]
  rfl

section Plain

variable (hs : site.server = .ofAnswers answers) (h : Detached answers site table)
  (hread : Catalog.readRecord w.tree (site.layout.tableFile table) = .ok record)
include hs h hread

/-- A change of UUID that ended well has changed the catalog file and moved the store. -/
theorem steps_of_changeUuid {report : UuidChangeReport}
    (hrun : changeUuid site table newUuid w = .ok report w') :
    record.uuid ≠ newUuid ∧ ∃ tree answer,
      Catalog.setUuid (site.layout.tableFile table) newUuid w.tree = .ok record.uuid tree ∧
      relocateStore (site.layout.dataLink table) (site.layout.storeDirectory record.uuid)
        (site.layout.storeDirectory newUuid) tree = .ok answer w'.tree := by
  obtain ⟨v₁, hattempt, rfl⟩ := exists_of_changeUuid_ok hrun
  obtain ⟨info, found, v, oldUuid, tree, relocated, updated, tree', hprepared, hset, hmove, rfl, -⟩ :=
    changed_of_ok hattempt
  obtain ⟨hvalidated, asked, -, rfl⟩ := Prepared.world hs hprepared
  obtain rfl : info = none := by
    obtain ⟨rows, infos, ⟨_, _, -, hanswer⟩, hinfos, hhead⟩ := hvalidated.reported
    rw [h] at hanswer
    cases hanswer
    cases hinfos
    exact hhead.symm
  obtain rfl : record = found := Except.ok.inj (hread.symm.trans hvalidated.read)
  obtain rfl := Catalog.uuid_of_setUuid hset hread
  exact ⟨hvalidated.other, tree, _, hset, hmove⟩

/-- Where a table without replicas can change its catalog file and move its store, its UUID is changed. -/
theorem changeUuid_of_steps (hengine : record.engine = .plain) (hne : record.uuid ≠ newUuid)
    {answer : Bool × Bool}
    (hset : Catalog.setUuid (site.layout.tableFile table) newUuid w.tree = .ok record.uuid tree)
    (hmove : relocateStore (site.layout.dataLink table) (site.layout.storeDirectory record.uuid)
      (site.layout.storeDirectory newUuid) tree = .ok answer tree') :
    ∃ report w', changeUuid site table newUuid w = .ok report w' ∧ w'.tree = tree' := by
  have hattempt := h.attemptUuidChange hs newUuid w
  have hvalid : validateUuidChange site table (site.layout.tableFile table) newUuid
      (w.asking (presenceQuery site table)) = .ok record (w.asking (presenceQuery site table)) :=
    validateUuidChange_of_plain hread hengine hne
  have hchange : ∀ v : World, v.tree = w.tree →
      changePrepared site table newUuid none record v = relocate site table newUuid record.uuid none
        { v with tree, events := v.events ++ changeEvents record.uuid record.uuid } :=
    fun v hv => changePrepared_of_ok (hv ▸ hset)
  rw [bind_of_ok (during_of_ok hvalid), bind_of_ok (tell_eq _), bind_of_ok (tell_eq _)]
    at hattempt
  replace hattempt := hattempt.trans (hchange _ rfl)
  have hrelocate := hattempt.trans (bind_of_ok (during_of_ok (adaptExcept_of_ok (onTree_of_ok hmove))))
  unfold changeUuid
  rw [hrelocate]
  exact ⟨_, _, rfl, rfl⟩

end Plain

/-! ## A server without tables -/

/-- A server that has no table, with the root at some path. -/
def siteAt (root : Path) : Site :=
  ⟨{ paths := { root } }, .ofAnswers fun _ _ => .ok [], Rehearsal.remover [] []⟩

theorem detached_siteAt (root : Path) (table : TableName) :
    Detached (fun _ _ => .ok []) (siteAt root) table := fun _ => rfl

end CatalogAdmin
