import CatalogAdmin.Proofs.UuidChange.Effect

/-!
# A store that is there already

The new place of a store is looked at only after a store was found at the old one. So something that is
in the way stops the change of a table that has a store directory (`changeUuid_occupied`), but a table
without one takes over what is there (`changeUuid_adopts_store`).

The check follows links, and a link that leads nowhere counts as nothing. Such a link gives way to a
store that is a file or a link itself; a directory takes the place of no link (`rename_onto`).
-/

namespace CatalogAdmin

open Session FileTree

namespace FileTree

variable {t t' : FileTree} {source target : Path} {b : Location} {occupant : Node}

/-- A move onto something goes well between two paths of one place, or if both or none of the two
things are directories. -/
theorem rename_onto (h : rename source target t = .ok () t') (hb : t.locate false target = .ok b)
    (hg : t.get? b = some occupant) :
    ∃ a node, t.locate false source = .ok a ∧ t.get? a = some node ∧
      (a = b ∨ (node = .directory ↔ occupant = .directory)) := by
  unfold rename at h
  rw [bind_of_ok (get_eq t)] at h
  cases ha : t.locate false source with
  | error e => rw [ha] at h; cases h
  | ok a =>
  cases hga : t.get? a with
  | none => simp only [ha, hb, hga] at h; cases h
  | some node =>
  simp only [ha, hb, hga, hg] at h
  refine ⟨a, node, rfl, hga, ?_⟩
  by_cases hab : a = b
  · exact .inl hab
  rw [if_neg hab] at h
  split at h
  · cases h
  split at h
  · cases h
  split at h
  · next hnode =>
    split at h
    · cases h
    next hoccupant => exact .inr ⟨fun _ => Decidable.not_not.1 hoccupant, fun _ => hnode⟩
  · next hnode =>
    split at h
    · cases h
    next hoccupant => exact .inr ⟨fun hdir => absurd hdir hnode, fun hdir => absurd hdir hoccupant⟩

/-- Where something is at the new place of a store and the move goes well, there was no store to be
moved, or no directory, and what was there is a link that leads nowhere. -/
theorem relocateStore_onto {layout : Layout} {old new : Uuid} {link : Path} {answer : Bool × Bool}
    (hstart : t.Grounded (t.origin layout.root))
    (hthere : t.stat false (layout.storeDirectory new) = .ok occupant)
    (h : relocateStore link (layout.storeDirectory old) (layout.storeDirectory new) t =
      .ok answer t') :
    (answer = (false, false) ∧ t' = t ∧ t.isPresent (layout.storeDirectory old) = .ok false) ∨
    t.isPresent (layout.storeDirectory new) = .ok false ∧ (∃ nowhere, occupant = .link nowhere) ∧
      ∃ a moved, t.locate false (layout.storeDirectory old) = .ok a ∧ t.get? a = some moved ∧
        moved ≠ .directory := by
  refine (relocateStore_ok h).imp_right ?_
  rintro ⟨_, t₂, _, -, hpresent, htaken, hopen, hmove, -⟩
  obtain ⟨node, hstat⟩ := stat_of_isPresent hpresent
  obtain ⟨l, hl, hgl⟩ := exists_of_stat hstat
  obtain ⟨a, ha⟩ := exists_place hl
  obtain ⟨b, hb, hgb⟩ := exists_of_stat hthere
  -- the room that is made is not the place of the store, nor does it change the way to one
  have hopened := opened_of_openParent hstart hstat hopen
  have ha' := hopened.locate ha
  have hb' := hopened.locate hb
  obtain ⟨a', moved, hplace, hmoved, hkinds⟩ := rename_onto hmove hb' (hopened.get?_of_some hgb)
  cases ha'.symm.trans hplace
  have hfound : t.get? a = some moved := by
    cases hga : t.get? a with
    | some found => rw [← hmoved, hopened.get?_of_some hga]
    | none =>
      cases hl.symm.trans (locate_follow ha fun _ => by rw [hga]; simp)
      rw [hga] at hgl
      cases hgl
  have hlink : ∃ nowhere, occupant = .link nowhere := by
    cases occupant with
    | link nowhere => exact ⟨nowhere, rfl⟩
    | directory | file _ =>
      cases (stat_of_not_isPresent htaken).symm.trans (stat_of_place hb hgb (by simp))
  refine ⟨htaken, hlink, a, moved, ha, hfound, fun hdir => ?_⟩
  obtain ⟨nowhere, rfl⟩ := hlink
  rcases hkinds with rfl | hkinds
  · rw [eq_of_same_place hstart ha hb, htaken] at hpresent
    cases hpresent
  · cases hkinds.1 hdir

end FileTree

/-- A table whose store is a directory never takes over what is at the new place of the store. Where
something is there and the change goes well, either nothing was found at the old place, no store was
moved and nothing changed but the catalog file; or what was moved is no directory, and what gave way to
it is a link that led nowhere. -/
theorem changeUuid_occupied (settings : Settings)
    (answers : List Sent → Sent → Except ClientError (List Row)) (remover : Remover)
    (table : TableName) (newUuid : Uuid) (w w' : World) (report : UuidChangeReport)
    (occupant : Node) (hstart : w.tree.Grounded (w.tree.origin settings.paths.root)) :
    let site : Site := ⟨settings, .ofAnswers answers, remover⟩
    let source := site.layout.storeDirectory report.oldUuid
    let target := site.layout.storeDirectory newUuid
    w.tree.stat false target = .ok occupant →
    changeUuid site table newUuid w = .ok report w' →
    (report.storeRelocated = false ∧ report.dataLinkUpdated = false ∧
      w.tree.isPresent source ≠ .ok true ∧
      ∃ place f, w.tree.locate false report.catalogFile = .ok place ∧
        w'.tree = w.tree.put place (.file f)) ∨
    w.tree.isPresent target ≠ .ok true ∧ (∃ nowhere, occupant = .link nowhere) ∧
      ∃ moved, w.tree.stat false source = .ok moved ∧ moved ≠ .directory := by
  intro site source target hthere hrun
  obtain ⟨v₁, hattempt, rfl⟩ := exists_of_changeUuid_ok hrun
  obtain ⟨info, record, v, oldUuid, tree, relocated, updated, tree', hprepared, hset, hmove, rfl, rfl⟩ :=
    changed_of_ok hattempt
  obtain ⟨-, asked, -, rfl⟩ := Prepared.world (show site.server = _ from rfl) hprepared
  obtain ⟨text, changed, old, place, -, -, hstat, hplace, rfl⟩ := Catalog.setUuid_of_ok hset
  replace hstart : w.tree.Grounded (w.tree.origin site.layout.root) := hstart
  have hfile := grounded_catalogFileOf hstart table info
  have hgrounded : ∀ u, w.tree.Grounded (w.tree.origin (site.layout.storeDirectory u)) := fun u => by
    rw [origin_storeDirectory]
    exact hstart
  -- what is found before the catalog file changes is found when it has changed
  have hkept : ∀ u, w.tree.isPresent (site.layout.storeDirectory u) = .ok true → _ := fun u =>
    isPresent_put_place (FileTree.rewritten old changed) hfile hstat hplace (hgrounded u)
  have hne := place_ne_nil hstat hplace
  have hget := fun x => get?_put w.tree place x (.file (FileTree.rewritten old changed)) hne
  obtain ⟨b, hb, hgb⟩ := exists_of_stat hthere
  have hb' : (w.tree.put place (.file (FileTree.rewritten old changed))).locate false target = .ok b :=
    locate_put_place hfile hstat hplace (hgrounded newUuid) hb
  -- what is in the way may be the catalog file itself, which is no link any more
  obtain ⟨occupant', hnow, hlinks⟩ : ∃ occupant',
      (w.tree.put place (.file (FileTree.rewritten old changed))).get? b = some occupant' ∧
        ∀ nowhere, occupant' = .link nowhere → occupant = .link nowhere := by
    rw [hget]
    split
    · exact ⟨_, rfl, fun nowhere heq => by cases heq⟩
    · exact ⟨occupant, hgb, fun nowhere heq => heq⟩
  have hstart' := hstart.put_place hstat hplace (.file (FileTree.rewritten old changed))
  rcases relocateStore_onto hstart' (stat_of_get? hb' hnow) hmove with
    ⟨hanswer, rfl, habsent⟩ | ⟨hfree, ⟨nowhere, hlink⟩, a, moved, ha, hmoved, hnode⟩
  · cases hanswer
    refine .inl ⟨rfl, rfl, fun hpresent => ?_, place, _, hplace, rfl⟩
    rw [hkept oldUuid hpresent] at habsent
    cases habsent
  · refine .inr ⟨fun hpresent => ?_, ⟨nowhere, hlinks nowhere hlink⟩, ?_⟩
    · rw [hkept newUuid hpresent] at hfree
      cases hfree
    · have ha' := locate_of_put_file _ hne ha
      rw [hget] at hmoved
      split at hmoved
      · next hsame =>
        obtain ⟨hsome, hother⟩ := get?_place hstat hplace
        obtain ⟨before, hbefore⟩ := Option.ne_none_iff_exists'.1 hsome
        exact ⟨before, stat_of_get? ha' (hsame ▸ hbefore), fun hdir => hother (hdir ▸ hbefore)⟩
      · exact ⟨moved, stat_of_get? ha' hmoved, hnode⟩

/-! ## A table without a store -/

/-- A server that does not have the table, with its files under `/srv`. -/
def detachedSite : Site :=
  ⟨{ paths := { root := "/srv" } }, .ofAnswers fun _ _ => .ok [], Rehearsal.remover [] []⟩

/-- A table without a store, and a store of another table. -/
def strangeTree : FileTree where
  entries :=
    [(["srv"], .directory), (["srv", "metadata"], .directory), (["srv", "metadata", "db"], .directory),
      (["srv", "metadata", "db", "t.sql"],
        .file ⟨.text ("ATTACH TABLE _ UUID '" ++ (Uuid.constant 0).text ++ "'\nENGINE = Log\n"),
          0o640, 7, 7⟩),
      (["srv", "store"], .directory), (["srv", "store", "111"], .directory),
      (["srv", "store", "111", (Uuid.constant 1).text], .directory),
      (["srv", "store", "111", (Uuid.constant 1).text, "a.bin"], .file ⟨.text "a", 0o640, 7, 7⟩)]

/-- The report of such a change tells that no store was moved. -/
theorem changeUuid_occupied_storeless :
    ∃ report w', changeUuid detachedSite ⟨"db", "t"⟩ (Uuid.constant 1) { tree := strangeTree } =
        .ok report w' ∧
      report.storeRelocated = false ∧
      strangeTree.isPresent (detachedSite.layout.storeDirectory report.oldUuid) ≠ .ok true := by
  have hrun : endsWell (changeUuid detachedSite ⟨"db", "t"⟩ (Uuid.constant 1)
      { tree := strangeTree }) = true := by
    decide +kernel
  obtain ⟨report, w', h⟩ := exists_of_endsWell hrun
  refine ⟨report, w', h, ?_⟩
  rcases changeUuid_occupied _ _ _ _ _ _ _ _ .directory (grounded_nil _) (by decide +kernel) h with
    ⟨hreport, -, habsent, -⟩ | ⟨-, ⟨_, hlink⟩, -⟩
  · exact ⟨hreport, habsent⟩
  · cases hlink

/-- A change of UUID ends well although there is a store at the new place, which is the table's from
then on. -/
theorem changeUuid_adopts_store :
    let target := detachedSite.layout.storeDirectory (Uuid.constant 1)
    strangeTree.isPresent target = .ok true ∧
      ∃ report w', changeUuid detachedSite ⟨"db", "t"⟩ (Uuid.constant 1) { tree := strangeTree } =
          .ok report w' ∧
        Catalog.readRecord w'.tree (detachedSite.layout.tableFile ⟨"db", "t"⟩) =
          .ok ⟨.table, Uuid.constant 1, "Log", .plain⟩ ∧
        w'.tree.stat true (target.join "a.bin") = .ok (.file ⟨.text "a", 0o640, 7, 7⟩) := by
  intro target
  have hrun : endsWith (fun _ w => decide (Catalog.readRecord w.tree
        (detachedSite.layout.tableFile ⟨"db", "t"⟩) = .ok ⟨.table, Uuid.constant 1, "Log", .plain⟩ ∧
        w.tree.stat true (target.join "a.bin") = .ok (.file ⟨.text "a", 0o640, 7, 7⟩)))
      (changeUuid detachedSite ⟨"db", "t"⟩ (Uuid.constant 1) { tree := strangeTree }) = true := by
    decide +kernel
  obtain ⟨report, w', h, hends⟩ := exists_of_endsWith hrun
  obtain ⟨hrecord, hdata⟩ := of_decide_eq_true hends
  exact ⟨by decide +kernel, report, w', h, hrecord, hdata⟩

end CatalogAdmin
