import CatalogAdmin.Proofs.UuidChange.Detached
import CatalogAdmin.Proofs.UuidChange.Footprint

/-!
# Changes of the UUIDs of two tables

Two changes of UUIDs, of different detached tables and with four different UUIDs, do not interfere: each
ends the same way and with the same report or error, whichever is made first, and the trees look the same
in the end (`changeUuid_independent`). A change goes the same way in two trees that agree on the places of
its table (`alongside_changeUuid`), and the other change keeps to the places of the other table.

The root's path is on the way of all paths. Where it leads through a store that the first change moves, the
second one finds nothing. A program that is started in a store looks for the root from another place once that
store has moved.
-/

namespace CatalogAdmin

open Session FileTree

variable {settings : Settings} {answers : Sent → Except ClientError (List Row)} {remover : Remover}
  {site : Site} {layout : Layout} {table a b : TableName} {old newUuid newA newB : Uuid}
  {record recordA recordB : Catalog.Record} {t t' : FileTree} {w w' v v' : World}

/-! ## Validation -/

/-- Two worlds are at these trees. -/
def BothAt (t t' : FileTree) (w w' : World) : Prop := w.tree = t ∧ w'.tree = t'

/-- A server whose answers depend on nothing but the query is asked alike at any time. -/
theorem askAlike_of_constant (hs : site.server = .ofAnswers fun _ s => answers s) (P : World → Prop) :
    AskAlike (BothAt t t') P site site where
  settings := rfl
  send s w w' h := by
    rw [hs, send_ofAnswers, send_ofAnswers]
    cases answers s with
    | ok rows => exact .ok h
    | error e => exact .error h

/-- Validation ends the same way where the catalog file is read the same. -/
theorem follows_validateUuidChange (hs : site.server = .ofAnswers fun _ s => answers s)
    {catalogFile : Path} (hread : Catalog.readRecord t' catalogFile = Catalog.readRecord t catalogFile) :
    Follows (BothAt t t') (fun _ => False) (validateUuidChange site table catalogFile newUuid)
      (validateUuidChange site table catalogFile newUuid) := by
  have hask : AskAlike (BothAt t t') (fun _ => False) site site := askAlike_of_constant hs _
  have hlook : Follows (BothAt t t') (fun _ => False)
      (Session.look (Catalog.readRecord · catalogFile)) (Session.look (Catalog.readRecord · catalogFile)) :=
    Follows.look fun w w' ⟨hw, hw'⟩ => by rw [hw, hw', hread]
  unfold validateUuidChange
  refine (hlook.adaptExcept _).bind fun record => .check ?_
  split
  · exact .pure _
  · exact .check ((hask.expandFor _ _ _).bind fun path => (hask.sharedId path).bind fun _ =>
      .check (.pure _))

/-! ## One change in two trees -/

/-- Two runs of a change of UUID, from two trees, that end the same way. Each keeps to the places of the
table, and these are the same afterwards. -/
inductive Alongside (layout : Layout) (table : TableName) (old new : Uuid) (t t' : FileTree) {ε : Type} :
    EStateM.Result ε World UuidChangeReport → EStateM.Result ε World UuidChangeReport → Prop
  | ok {report : UuidChangeReport} {w w' : World} : Agrees layout table old new w.tree w'.tree →
      Confined layout table old new report.storeRelocated t w.tree →
      Confined layout table old new report.storeRelocated t' w'.tree →
      Alongside layout table old new t t' (.ok report w) (.ok report w')
  | error {e : ε} {w w' : World} : Agrees layout table old new w.tree w'.tree →
      Confined layout table old new false t w.tree → Confined layout table old new false t' w'.tree →
      Alongside layout table old new t t' (.error e w) (.error e w')

section Alongside

variable (hd : table.database ≠ []) (ht : table.table ≠ [])
  (hs : Sound w.tree site.layout) (hs' : Sound w'.tree site.layout)
  (h : Agrees site.layout table record.uuid newUuid w.tree w'.tree)
  (hread : Catalog.readRecord w.tree (site.layout.tableFile table) = .ok record)
  (hapart : RootApart w.tree site.layout record.uuid)
include hd ht hs hs' h hread hapart

/-- From the catalog file on, a change goes the same way in both trees. -/
theorem alongside_changePrepared (hv : v.tree = w.tree) (hv' : v'.tree = w'.tree) :
    Alongside site.layout table record.uuid newUuid w.tree w'.tree
      (changePrepared site table newUuid none record v)
      (changePrepared site table newUuid none record v') := by
  rw [← hv] at hs h hread hapart ⊢
  rw [← hv'] at hs' h ⊢
  rcases h.setUuid hs hs' hd with ⟨e, hset, hset'⟩ | ⟨previous, f, f', hg, hset, hset'⟩
  · have hrun : changePrepared site table newUuid none record v = _ := changePrepared_of_error hset
    have hrun' : changePrepared site table newUuid none record v' = _ := changePrepared_of_error hset'
    rw [hrun, hrun']
    exact .error h (.refl hs) (.refl hs')
  obtain rfl := Catalog.uuid_of_setUuid hset hread
  have hbase := h.base_eq
  have hg' : v'.tree.get? (site.layout.base v'.tree ++ fileNames table) = some (.file f) := by
    rw [hbase, h.places _ (.file (List.prefix_refl _) (by simp [fileNames])), hg]
  have hchanged : Confined site.layout table record.uuid newUuid false v.tree _ := .put_file hs hg f'
  have hchanged' : Confined site.layout table record.uuid newUuid false v'.tree _ :=
    .put_file hs' hg' f'
  rw [hbase] at hchanged'
  have hagain := h.put_file f'
  have hrun : changePrepared site table newUuid none record v = _ := changePrepared_of_ok hset
  have hrun' : changePrepared site table newUuid none record v' = _ := changePrepared_of_ok hset'
  rw [hrun, hrun']
  unfold relocate
  rcases hagain.relocateStore hchanged.sound hchanged'.sound hd ht (hapart.congr rfl) with
    ⟨e, hmove, hmove'⟩ | ⟨hmove, hmove'⟩ | ⟨updated, t₁, t₁', hmove, hmove', hm, hm'⟩
  · rw [bind_of_error (during_of_error (adaptExcept_of_error (onTree_of_error hmove))),
      bind_of_error (during_of_error (adaptExcept_of_error (onTree_of_error hmove')))]
    exact .error hagain hchanged hchanged'
  · rw [bind_of_ok (during_of_ok (adaptExcept_of_ok (onTree_of_ok hmove))),
      bind_of_ok (during_of_ok (adaptExcept_of_ok (onTree_of_ok hmove')))]
    exact .ok hagain hchanged hchanged'
  · rw [bind_of_ok (during_of_ok (adaptExcept_of_ok (onTree_of_ok hmove))),
      bind_of_ok (during_of_ok (adaptExcept_of_ok (onTree_of_ok hmove')))]
    exact .ok (hagain.relocated hd ht hm hm') (hchanged.relocated hd ht hm hapart)
      (hchanged'.relocated hd ht hm' (hapart.congr h.origin))

variable (hserver : site.server = .ofAnswers fun _ s => answers s)
  (hdetached : Detached (fun _ s => answers s) site table)
include hserver hdetached

theorem alongside_attemptUuidChange :
    Alongside site.layout table record.uuid newUuid w.tree w'.tree
      (attemptUuidChange site table newUuid w) (attemptUuidChange site table newUuid w') := by
  have hsame : Catalog.readRecord w'.tree (site.layout.tableFile table) =
      Catalog.readRecord w.tree (site.layout.tableFile table) :=
    readRecord_of_stat (h.stat_tableFile hs hs' hd true).2
  rw [hdetached.attemptUuidChange hserver, hdetached.attemptUuidChange hserver]
  have hasked : BothAt w.tree w'.tree (w.asking (presenceQuery site table))
      (w'.asking (presenceQuery site table)) := ⟨rfl, rfl⟩
  rcases (follows_validateUuidChange hserver hsame).cases hasked with
    ⟨found, v, v', hrun, hrun', hv, hv'⟩ | ⟨e, v, v', hrun, hrun', hv, hv'⟩ | ⟨_, _, _, hfalse⟩
  · have hfound : found = record :=
      Except.ok.inj ((steps_of_validateUuidChange hrun).1.symm.trans hread)
    rw [hfound] at hrun hrun'
    rw [bind_of_ok (during_of_ok hrun), bind_of_ok (during_of_ok hrun'), bind_of_ok (tell_eq _),
      bind_of_ok (tell_eq _), bind_of_ok (tell_eq _), bind_of_ok (tell_eq _)]
    exact alongside_changePrepared hd ht hs hs' h hread hapart hv hv'
  · rw [bind_of_error (during_of_error hrun), bind_of_error (during_of_error hrun')]
    rw [← hv] at hs h ⊢
    rw [← hv'] at hs' h ⊢
    exact .error h (.refl hs) (.refl hs')
  · exact hfalse.elim

/-- A change of the UUID of a detached table goes the same way in two trees that agree on the places of the
table. -/
theorem alongside_changeUuid :
    Alongside site.layout table record.uuid newUuid w.tree w'.tree (changeUuid site table newUuid w)
      (changeUuid site table newUuid w') := by
  have hattempt := alongside_attemptUuidChange hd ht hs hs' h hread hapart hserver hdetached
  unfold changeUuid
  generalize attemptUuidChange site table newUuid w = r, attemptUuidChange site table newUuid w' = r'
    at hattempt
  cases hattempt with
  | ok hagain hconfined hconfined' => exact .ok hagain hconfined hconfined'
  | error hagain hconfined hconfined' => exact .error hagain hconfined hconfined'

end Alongside

/-! ## Two changes in either order -/

/-- How a run ended. -/
def outcome {ε σ α : Type} : EStateM.Result ε σ α → Except ε α
  | .ok a _ => .ok a
  | .error e _ => .error e

/-- Whether a change of UUID tells that it moved a store. -/
def tellsOfMove {ε : Type} : Except ε UuidChangeReport → Bool
  | .ok report => report.storeRelocated
  | .error _ => false

theorem Alongside.ends {ε : Type} {r r' : EStateM.Result ε World UuidChangeReport}
    (h : Alongside layout table old newUuid t t' r r') :
    outcome r' = outcome r ∧ Agrees layout table old newUuid (endState r).tree (endState r').tree ∧
      Confined layout table old newUuid (tellsOfMove (outcome r)) t (endState r).tree ∧
      Confined layout table old newUuid (tellsOfMove (outcome r)) t' (endState r').tree := by
  cases h with
  | ok h hconfined hconfined' => exact ⟨rfl, h, hconfined, hconfined'⟩
  | error h hconfined hconfined' => exact ⟨rfl, h, hconfined, hconfined'⟩

theorem apart_of_nodup (hab : a ≠ b) (h : [recordA.uuid, newA, recordB.uuid, newB].Nodup) :
    Apart a b recordA.uuid newA recordB.uuid newB where
  tables := hab
  uuids u v hu hv hsame := by
    obtain rfl := Uuid.text_injective hsame
    simp only [List.nodup_cons, List.mem_cons, List.not_mem_nil, or_false, not_or] at h
    rcases hu with rfl | rfl <;> rcases hv with hv | hv <;> simp_all

/-- A plain tree whose catalog file can be read has the root where the root's path leads. -/
theorem Plain.sound (h : Plain t layout) (hstart : t.Grounded (t.origin layout.root))
    (hd : table.database ≠ []) (hread : Catalog.readRecord t (layout.tableFile table) = .ok record) :
    Sound t layout := by
  obtain ⟨_, htext, -⟩ := Catalog.readRecord_eq_ok_iff.1 hread
  obtain ⟨_, hstat, -⟩ := Catalog.exists_of_readText htext
  obtain ⟨_, hl, -⟩ := exists_of_stat hstat
  exact { h, h.rooted hstart (layout.names_tableFile hd) (by simp [fileNames]) hl with }

/-- Changes of the UUIDs of two detached tables, with four different UUIDs, go the same way in either order
and lead to the same, in a plain tree where the root's path starts from a directory, neither starts in one
of the stores nor leads through it, against a server whose answers depend on nothing but the query. -/
theorem changeUuid_independent (settings : Settings) (answers : Sent → Except ClientError (List Row))
    (remover : Remover) (a b : TableName) (newA newB : Uuid) (w : World)
    (recordA recordB : Catalog.Record) (hab : a ≠ b)
    (ha : a.database ≠ [] ∧ a.table ≠ []) (hb : b.database ≠ [] ∧ b.table ≠ [])
    (hnodup : [recordA.uuid, newA, recordB.uuid, newB].Nodup) :
    let site : Site := ⟨settings, .ofAnswers fun _ s => answers s, remover⟩
    Detached (fun _ s => answers s) site a → Detached (fun _ s => answers s) site b →
    Catalog.readRecord w.tree (site.layout.tableFile a) = .ok recordA →
    Catalog.readRecord w.tree (site.layout.tableFile b) = .ok recordB →
    Plain w.tree site.layout → w.tree.Grounded (w.tree.origin site.layout.root) →
    RootApart w.tree site.layout recordA.uuid → RootApart w.tree site.layout recordB.uuid →
    let first := changeUuid site a newA w
    let second := changeUuid site b newB (endState first)
    let second' := changeUuid site b newB w
    let first' := changeUuid site a newA (endState second')
    outcome first' = outcome first ∧ outcome second' = outcome second ∧
      SameView (endState second).tree (endState first').tree := by
  intro site hdetachedA hdetachedB hreadA hreadB hplain hstart hrootA hrootB first second second' first'
  have hserver : site.server = .ofAnswers fun _ s => answers s := rfl
  have hapart := apart_of_nodup hab hnodup
  have hs := hplain.sound hstart ha.1 hreadA
  -- what one change does does not show to the other
  have hA := alongside_changeUuid ha.1 ha.2 hs hs (.refl _ _ _ newA _) hreadA hrootA hserver
    hdetachedA
  have hB := alongside_changeUuid hb.1 hb.2 hs hs (.refl _ _ _ newB _) hreadB hrootB hserver
    hdetachedB
  obtain ⟨-, -, hconfinedA, -⟩ := hA.ends
  obtain ⟨-, -, hconfinedB, -⟩ := hB.ends
  obtain ⟨hfirst, hagreeA, hAt, hAt'⟩ := (alongside_changeUuid ha.1 ha.2 hs hconfinedB.sound
    (.of_confined hapart hconfinedB) hreadA hrootA hserver hdetachedA).ends
  obtain ⟨hsecond, hagreeB, hBt, hBt'⟩ := (alongside_changeUuid hb.1 hb.2 hs hconfinedA.sound
    (.of_confined hapart.symm hconfinedA) hreadB hrootB hserver hdetachedB).ends
  exact ⟨hfirst, hsecond.symm, sameView_of_confined hapart hAt hBt' hBt hAt' hagreeA hagreeB⟩

/-! ## Two tables -/

/-- A UUID that is written as another one is, but for its last digit. -/
def Uuid.neighbour : Uuid := ⟨List.replicate 31 ⟨1, by decide⟩ ++ [⟨2, by decide⟩], rfl⟩

/-- Two tables with their stores, and a link to one of them. -/
def pairTree : FileTree where
  entries :=
    [(["srv"], .directory), (["srv", "metadata"], .directory), (["srv", "metadata", "db"], .directory),
      (["srv", "metadata", "db", "s.sql"],
        .file ⟨.text ("ATTACH TABLE _ UUID '" ++ (Uuid.constant 2).text ++ "'\nENGINE = Log\n"), 0o640, 7, 7⟩),
      (["srv", "metadata", "db", "t.sql"],
        .file ⟨.text ("ATTACH TABLE _ UUID '" ++ (Uuid.constant 0).text ++ "'\nENGINE = Log\n"), 0o640, 7, 7⟩),
      (["srv", "data"], .directory), (["srv", "data", "db"], .directory),
      (["srv", "data", "db", "t"], .link ⟨"/srv/store/000/" ++ (Uuid.constant 0).text⟩),
      (["srv", "store"], .directory), (["srv", "store", "000"], .directory),
      (["srv", "store", "000", (Uuid.constant 0).text], .directory),
      (["srv", "store", "222"], .directory), (["srv", "store", "222", (Uuid.constant 2).text], .directory)]

/-- Both stores move to the same directory, which the first change makes. -/
theorem changeUuid_independent_shared :
    let first := changeUuid (siteAt "/srv") ⟨"db", "t"⟩ (Uuid.constant 1) { tree := pairTree }
    let second := changeUuid (siteAt "/srv") ⟨"db", "s"⟩ .neighbour (endState first)
    let second' := changeUuid (siteAt "/srv") ⟨"db", "s"⟩ .neighbour { tree := pairTree }
    let first' := changeUuid (siteAt "/srv") ⟨"db", "t"⟩ (Uuid.constant 1) (endState second')
    tellsOfMove (outcome first) = true ∧ tellsOfMove (outcome second) = true ∧
      outcome first' = outcome first ∧ outcome second' = outcome second ∧
      SameView (endState second).tree (endState first').tree := by
  intro first second second' first'
  have hwf : pairTree.WellFormed := by decide +kernel
  have hlinks : ∀ e ∈ pairTree.entries, pairTree.IsLink e.1 →
      e.1 = (siteAt "/srv").layout.base pairTree ++ [dataName, "db", "t"] := by
    decide +kernel
  have hplain : Plain pairTree (siteAt "/srv").layout :=
    { standing := hwf.standing
      links := fun x hx => by
        obtain ⟨e, he, rfl⟩ := hx.exists_entry
        exact ⟨_, _, hlinks e he hx⟩
      root := by decide +kernel }
  refine ⟨by decide +kernel, by decide +kernel, ?_⟩
  exact changeUuid_independent _ (fun _ => .ok []) _ ⟨"db", "t"⟩ ⟨"db", "s"⟩ (Uuid.constant 1) .neighbour
    { tree := pairTree } ⟨.table, Uuid.constant 0, "Log", .plain⟩ ⟨.table, Uuid.constant 2, "Log", .plain⟩
    (by decide) (by decide) (by decide) (by decide +kernel) (detached_siteAt _ _)
    (detached_siteAt _ _) (by decide +kernel) (by decide +kernel) hplain (grounded_nil _)
    (by decide +kernel) (by decide +kernel)

/-- Two detached tables, with the links of tables as the only ones. A change of the UUID of `db.t` makes that
of `db.s` fail, which ends well if it is the first. -/
structure OrderMatters (site : Site) (tree : FileTree) : Prop where
  detached : ∀ table, Detached (fun _ _ => .ok []) site table
  standing : tree.Standing
  links : ∀ x, tree.IsLink x →
    ∃ database table, x = site.layout.base tree ++ [dataName, database, table]
  readT : Catalog.readRecord tree (site.layout.tableFile ⟨"db", "t"⟩) =
    .ok ⟨.table, Uuid.constant 0, "Log", .plain⟩
  readS : Catalog.readRecord tree (site.layout.tableFile ⟨"db", "s"⟩) =
    .ok ⟨.table, Uuid.constant 2, "Log", .plain⟩
  behind : ∃ report v e v',
    changeUuid site ⟨"db", "t"⟩ (Uuid.constant 1) { tree := tree } = .ok report v ∧
    changeUuid site ⟨"db", "s"⟩ .neighbour v = .error e v'
  before : ∃ report v, changeUuid site ⟨"db", "s"⟩ .neighbour { tree := tree } = .ok report v

theorem OrderMatters.of_runs {root : Path} {tree : FileTree} (hwf : tree.WellFormed)
    (hlinks : ∀ e ∈ tree.entries, tree.IsLink e.1 →
      e.1 = (siteAt root).layout.base tree ++ [dataName, "db", "t"])
    (hreadT : Catalog.readRecord tree ((siteAt root).layout.tableFile ⟨"db", "t"⟩) =
      .ok ⟨.table, Uuid.constant 0, "Log", .plain⟩)
    (hreadS : Catalog.readRecord tree ((siteAt root).layout.tableFile ⟨"db", "s"⟩) =
      .ok ⟨.table, Uuid.constant 2, "Log", .plain⟩)
    (hruns : endsWith (fun _ v => failsWith (fun _ _ => true)
        (changeUuid (siteAt root) ⟨"db", "s"⟩ .neighbour v))
      (changeUuid (siteAt root) ⟨"db", "t"⟩ (Uuid.constant 1) { tree := tree }) = true)
    (halone : endsWell (changeUuid (siteAt root) ⟨"db", "s"⟩ .neighbour { tree := tree }) = true) :
    OrderMatters (siteAt root) tree := by
  obtain ⟨report, v, hrun, hfails⟩ := exists_of_endsWith hruns
  obtain ⟨e, v', hfails, -⟩ := exists_of_failsWith hfails
  refine ⟨detached_siteAt _, hwf.standing, fun x hx => ?_, hreadT, hreadS, ⟨report, v, e, v', hrun, hfails⟩,
    exists_of_endsWell halone⟩
  obtain ⟨entry, hentry, rfl⟩ := hx.exists_entry
  exact ⟨_, _, hlinks entry hentry hx⟩

/-- Changes are not independent where the root's path leads through a store, or through a link to it, or
where it starts in a store and goes on beside it. -/
theorem changeUuid_not_independent :
    let store : Text := "/srv/store/000/" ++ (Uuid.constant 0).text
    let startedTree : FileTree :=
      { pairTree with
        entries := (["srv", "store", "000", "x"], .directory) :: pairTree.entries
        here := ["srv", "store", "000", (Uuid.constant 0).text] }
    OrderMatters (siteAt ⟨store ++ "/../../.."⟩) pairTree ∧
      OrderMatters (siteAt "/srv/data/db/t/../../..") pairTree ∧
      OrderMatters (siteAt "../x/../../..") startedTree := by
  intro store startedTree
  refine ⟨?_, ?_, ?_⟩ <;>
    exact .of_runs (by decide +kernel) (by decide +kernel) (by decide +kernel) (by decide +kernel)
      (by decide +kernel) (by decide +kernel)

end CatalogAdmin
