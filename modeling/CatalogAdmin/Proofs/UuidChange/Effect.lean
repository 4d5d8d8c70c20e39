import CatalogAdmin.Proofs.Catalog.File
import CatalogAdmin.Proofs.UuidChange.Course
import CatalogAdmin.Proofs.UuidChange.Failure
import CatalogAdmin.Proofs.UuidChange.StoreMove

/-!
# What a change of UUID does

`changeUuid_effect` says all that a change of UUID that ends well has done, in a tree without links
on the ways of the files it looks at: what is in the catalog file, what is where in the tree, and that
the report tells so. What the move of the store does is known already (`StoreMoved`); the catalog file
changes before that, at a place which the move leaves alone (`Rewritten`).
-/

namespace CatalogAdmin

open Session FileTree

variable {t t' t'' : FileTree} {layout : Layout} {table : TableName} {old new : Uuid} {c x : Location}

/-! ## The catalog file before the move -/

/-- Two trees that differ in a file only. -/
structure Rewritten (t t' : FileTree) (c : Location) : Prop where
  here : t'.here = t.here
  before : ∃ f, t.get? c = some (.file f)
  now : ∃ f, t'.get? c = some (.file f)
  kept : ∀ x, x ≠ c → t'.get? x = t.get? x

namespace Rewritten

theorem of_put {f : File} (hg : t.get? c = some (.file f)) (f' : File) :
    Rewritten t (t.put c (.file f')) c := by
  have hne : c ≠ [] := by
    rintro rfl
    rw [get?_nil] at hg
    cases hg
  have hget := fun x => get?_put t c x (.file f') hne
  exact ⟨rfl, ⟨f, hg⟩, ⟨f', (hget c).trans (if_pos rfl)⟩, fun x hx => (hget x).trans (if_neg hx)⟩

theorem symm (h : Rewritten t t' c) : Rewritten t' t c :=
  ⟨h.here.symm, h.now, h.before, fun x hx => (h.kept x hx).symm⟩

theorem get?_eq (h : Rewritten t t' c) (hx : t.get? x = some .directory ∨ t.IsLink x) :
    t'.get? x = t.get? x := by
  refine h.kept x ?_
  rintro rfl
  obtain ⟨f, hf⟩ := h.before
  rcases hx with hg | ⟨_, hg⟩ <;> cases hf.symm.trans hg

theorem isLink (h : Rewritten t t' c) (hx : t'.IsLink x) : t.IsLink x := by
  obtain ⟨target, hg⟩ := hx
  exact ⟨target, (h.symm.get?_eq (.inr ⟨target, hg⟩)).trans hg⟩

theorem straight {p : Path} (h : Rewritten t t' c) (hp : t.Straight p) : t'.Straight p := by
  intro x hx hlink
  rw [origin_of_here h.here] at hx
  exact hp x hx (h.isLink hlink)

theorem straightTo {p : Path} (h : Rewritten t t' c) (hp : t.StraightTo p) : t'.StraightTo p := by
  intro x hx hlink
  rw [origin_of_here h.here] at hx
  exact hp x hx (h.isLink hlink)

theorem goalOf (h : Rewritten t t' c) (p : Path) : t'.goalOf p = t.goalOf p :=
  goalOf_of_here h.here p

/-- What is found where no file changed is found in both trees. -/
theorem exists_stat (h : Rewritten t t' c) (hold : t.Straight (layout.storeDirectory old))
    (hne : t.goalOf (layout.storeDirectory old) ≠ c)
    (hstat : ∃ node, t.stat false (layout.storeDirectory old) = .ok node) :
    ∃ node, t'.stat false (layout.storeDirectory old) = .ok node := by
  obtain ⟨node, hnode⟩ := hstat
  obtain ⟨hl, hg⟩ := hold.of_stat hnode
  have hends := layout.storeDirectory_endsIn old
  have hl' := (hold.last hends).1.locate_of_kept hends (origin_of_here h.here _)
    (fun x _ hdir => (h.get?_eq (.inl hdir)).trans hdir) hl
  exact ⟨node, stat_of_get? hl' ((h.kept _ hne).trans hg)⟩

theorem points (h : Rewritten t t' c) (hd : table.database ≠ []) (ht : table.table ≠ [])
    (hlink : t.StraightTo (layout.dataLink table)) {source : Path}
    (hpoints : t.Points (layout.dataLink table) source) :
    t'.Points (layout.dataLink table) source :=
  points_of_same (layout.dataLink_endsIn hd ht) hlink h.here (fun _ _ hx => h.get?_eq hx) hpoints

theorem points_iff (h : Rewritten t t' c) (hd : table.database ≠ []) (ht : table.table ≠ [])
    (hlink : t.StraightTo (layout.dataLink table)) {source : Path} :
    t'.Points (layout.dataLink table) source ↔ t.Points (layout.dataLink table) source :=
  ⟨h.symm.points hd ht (h.straightTo hlink), h.points hd ht hlink⟩

end Rewritten

/-- A change of a file outside of the store comes on top of what a move of the store changes. -/
theorem StoreMoved.of_rewritten {relocated updated : Bool}
    (h : StoreMoved t' t'' [] layout table old new relocated updated) (hfile : Rewritten t t' c)
    (hold : t.Straight (layout.storeDirectory old)) (hd : table.database ≠ [])
    (ht : table.table ≠ []) (hlink : t.StraightTo (layout.dataLink table))
    (hoff : ¬ t.goalOf (layout.storeDirectory old) <+: c) :
    StoreMoved t t'' [c] layout table old new relocated updated := by
  have hgoal := hfile.goalOf
  obtain ⟨hpresent, hstore, hpointed, hlinked, hkept, hhere⟩ := h
  simp only [hgoal, hfile.here] at hstore hlinked hpointed hkept hhere
  have hne : t.goalOf (layout.storeDirectory old) ≠ c := by
    rintro rfl
    exact hoff (List.prefix_refl _)
  refine ⟨hpresent.trans ⟨fun hstat => ?_, fun hstat => hfile.exists_stat hold hne hstat⟩, fun hr => ?_,
    hpointed.trans (and_congr_right fun _ => and_congr_left fun _ => hfile.points_iff hd ht hlink),
    hlinked, fun x hx hxs hxl => ?_, hhere⟩
  · exact hfile.symm.exists_stat (hfile.straight hold) (hgoal _ ▸ hne) hstat
  · have hmoved := hstore hr
    refine ⟨fun rel => (hmoved.moved rel).trans (hfile.kept _ ?_), hmoved.left, fun rel => ?_⟩
    · rintro rfl
      exact hoff (List.prefix_append _ _)
    · have hfree := hmoved.free rel
      rw [← hfree]
      refine (hfile.kept _ ?_).symm
      rintro rfl
      obtain ⟨f, hf⟩ := hfile.now
      cases hf.symm.trans hfree
  · rw [List.mem_singleton] at hx
    have hsame := hkept x (List.not_mem_nil) hxs hxl
    rwa [hfile.kept x hx] at hsame

/-- A catalog file took a new UUID: only the literal of the old one gave way to it, and the file is
read as before, with the new UUID. -/
structure CatalogChanged (t t' : FileTree) (c : Location) (old new : Uuid) (f : File)
    (before literal behind : Text) (record : Catalog.Record) : Prop where
  file : t.get? c = some (.file f)
  text : f.content = .text (before ++ literal ++ behind)
  mark : Catalog.uuidMark <:+ before
  quote : behind.head? = some Catalog.quote
  found : Uuid.parse? literal = some old
  changed : t'.get? c = some (.file (FileTree.rewritten f (before ++ new.text ++ behind)))
  parse : Catalog.Record.parse (before ++ literal ++ behind) = .ok record
  uuid : record.uuid = old
  parse_changed : Catalog.Record.parse (before ++ new.text ++ behind) =
    .ok { record with uuid := new }

/-- What a change of UUID that ends well has done, and that its report says so. -/
structure UuidChanged (answers : List Sent → Sent → Except ClientError (List Row)) (site : Site)
    (table : TableName) (newUuid : Uuid) (w w' : World) (report : UuidChangeReport) : Prop where
  named : report.table = table ∧ report.newUuid = newUuid
  detached : ∃ info asked, Reported answers site table w w' info ∧ report.detached = info.isSome ∧
    report.catalogFile = catalogFileOf site table info ∧
    (∀ s ∈ asked, s.query.sql.startsWith "SELECT" = true) ∧
    w'.sent = w.sent ++ asked ++ Prepared.detaching site table info ∧ w'.removals = w.removals
  catalog : ∃ f before literal behind record, CatalogChanged w.tree w'.tree
    (w.tree.goalOf report.catalogFile) report.oldUuid newUuid f before literal behind record
  store : StoreMoved w.tree w'.tree [w.tree.goalOf report.catalogFile] site.layout table report.oldUuid
    newUuid report.storeRelocated report.dataLinkUpdated

/-- Where the root's path goes up nowhere, the link of the table is made anew exactly if the store moved
and the link pointed to it. -/
theorem UuidChanged.updated_iff_of_down
    {answers : List Sent → Sent → Except ClientError (List Row)} {site : Site} {newUuid : Uuid}
    {w w' : World} {report : UuidChangeReport}
    (h : UuidChanged answers site table newUuid w w' report) (hd : table.database ≠ [])
    (ht : table.table ≠ []) (hlink : w.tree.StraightTo (site.layout.dataLink table))
    (hup : (".." : Text) ∉ site.layout.root.parts) :
    report.dataLinkUpdated = true ↔ report.storeRelocated = true ∧
      w.tree.Points (site.layout.dataLink table) (site.layout.storeDirectory report.oldUuid) := by
  refine h.store.updated_iff (fun x hx => ?_) hd ht hlink (fun hstore => ?_)
    (avoids_of_down w.tree hup hd ht report.oldUuid)
  · obtain ⟨_, _, _, _, _, hcatalog⟩ := h.catalog
    rw [List.mem_singleton.1 hx, hcatalog.file]
    simp
  · -- the way down from where it starts leads above the stores
    have hlen := (((prefix_goalOf_storeDirectory w.tree site.layout report.oldUuid).trans hstore).trans
      (prefix_goal hup (.inl rfl))).length_le
    rw [← Layout.base, List.length_append, List.length_singleton] at hlen
    exact absurd hlen (Nat.not_succ_le_self _)

theorem exists_of_changeUuid_ok {site : Site} {newUuid : Uuid} {w w' : World}
    {report : UuidChangeReport} (h : changeUuid site table newUuid w = .ok report w') :
    ∃ v, attemptUuidChange site table newUuid w = .ok report v ∧
      w' = v.telling (.transition .relocatingStore .done) := by
  unfold changeUuid at h
  cases hrun : attemptUuidChange site table newUuid w with
  | ok found v => rw [hrun] at h; cases h; exact ⟨v, rfl, rfl⟩
  | error failure v => rw [hrun] at h; cases h

/-- A change of UUID that ends well, of a table with a name and a database, in a tree without links on
the ways of the store directories and the catalog file and on the way to the table's link. A program that
was started in the old store finds no link on that way from the new one either. The table's link is made
anew exactly if the store moved, the link pointed to it and is still found by its path; where the root's
path goes up nowhere, it is. -/
theorem changeUuid_effect (settings : Settings)
    (answers : List Sent → Sent → Except ClientError (List Row)) (remover : Remover)
    (table : TableName) (newUuid : Uuid) (w w' : World) (report : UuidChangeReport)
    (hd : table.database ≠ []) (ht : table.table ≠ []) (hwf : w.tree.WellFormed) :
    let site : Site := ⟨settings, .ofAnswers answers, remover⟩
    let source := site.layout.storeDirectory report.oldUuid
    changeUuid site table newUuid w = .ok report w' →
    w.tree.Straight source → w.tree.Straight (site.layout.storeDirectory newUuid) →
    w.tree.Straight report.catalogFile → w.tree.StraightTo (site.layout.dataLink table) →
    (w.tree.goalOf source <+: w.tree.origin site.layout.root →
      w'.tree.StraightTo (site.layout.dataLink table)) →
    ¬ w.tree.goalOf source <+: w.tree.goalOf report.catalogFile →
    UuidChanged answers site table newUuid w w' report ∧
      ((".." : Text) ∉ settings.paths.root.parts →
        (report.dataLinkUpdated = true ↔ report.storeRelocated = true ∧
          w.tree.Points (site.layout.dataLink table) source)) := by
  intro site source hrun hold hnew hfile hlink hlink' hoff
  suffices hchanged : UuidChanged answers site table newUuid w w' report from
    ⟨hchanged, hchanged.updated_iff_of_down hd ht hlink⟩
  obtain ⟨v₁, hattempt, rfl⟩ := exists_of_changeUuid_ok hrun
  obtain ⟨info, record, v, oldUuid, tree, relocated, updated, tree', hprepared, hset, hmove, rfl, rfl⟩ :=
    changed_of_ok hattempt
  obtain ⟨hvalidated, asked, hasked, rfl⟩ := Prepared.world (show site.server = _ from rfl) hprepared
  -- the catalog file is where its path leads, and the move starts when it has the new UUID
  obtain ⟨text, changed, old, place, htext, hreplace, hstat, hplace, rfl⟩ := Catalog.setUuid_of_ok hset
  have hparse := Catalog.parse_of_readRecord hvalidated.read htext
  obtain ⟨f, hstat', hcontent⟩ := Catalog.exists_of_readText htext
  obtain rfl : f = old := by
    cases hstat'.symm.trans hstat
    rfl
  obtain rfl := hfile.locate hplace
  have hg := (hfile.of_stat hstat).2
  have hne := place_ne_nil hstat hplace
  have hrewritten := Rewritten.of_put hg (FileTree.rewritten f changed)
  have hwf' := hwf.put hne (hwf.above hne hg) (by rw [hg]; simp) (.file (FileTree.rewritten f changed))
  have hmoved := storeMoved_of_standing hwf'.standing (hwf'.grounded_origin site.layout.root)
    (hrewritten.straight hold) (hrewritten.straight hnew) hd ht (hrewritten.straightTo hlink)
    (by rw [hrewritten.goalOf, origin_of_here hrewritten.here]; exact hlink') hmove
  have hkept := hmoved.get?_of_some ((get?_put _ _ _ _ hne).trans (if_pos rfl)) (by simp) hd ht
    (hrewritten.straightTo hlink) List.not_mem_nil hoff
  obtain ⟨piece, uuidSite, above, below, -, hsite, hliteral, rfl, rfl⟩ := Catalog.replaceUuid_ok hreplace
  obtain ⟨-, hmark, hquote⟩ := Catalog.eq_of_uuidSite? hsite
  refine ⟨⟨rfl, rfl⟩, ⟨info, asked, ?_, rfl, rfl, hasked, rfl, rfl⟩,
    ⟨f, above ++ uuidSite.before, uuidSite.value, uuidSite.behind ++ below, record, ?_⟩,
    hmoved.of_rewritten hrewritten hold hd ht hlink hoff⟩
  · exact hvalidated.reported.extend (List.append_nil _).symm
  · exact {
      file := hg
      text := hcontent
      mark := hmark.trans (List.suffix_append _ _)
      quote := by rw [List.head?_append, hquote]; rfl
      found := hliteral
      changed := hkept
      parse := hparse
      uuid := (Catalog.replaceUuid_of_parse hparse hreplace).2.1
      parse_changed := Catalog.parse_replaceUuid hparse hreplace }

/-- A server that has the table attached. -/
def linkedSite : Site :=
  ⟨{ paths := { root := "/srv" } }, .ofAnswers attachedAnswers, Rehearsal.remover [] []⟩

/-- A table with a store and a link to it. -/
def linkedTree : FileTree where
  entries :=
    [(["srv"], .directory), (["srv", "metadata"], .directory), (["srv", "metadata", "db"], .directory),
      (["srv", "metadata", "db", "t.sql"],
        .file ⟨.text ("ATTACH TABLE _ UUID '" ++ (Uuid.constant 0).text ++ "'\nENGINE = Log\n"),
          0o640, 7, 7⟩),
      (["srv", "data"], .directory), (["srv", "data", "db"], .directory),
      (["srv", "data", "db", "t"], .link (linkedSite.layout.storeDirectory (Uuid.constant 0))),
      (["srv", "store"], .directory), (["srv", "store", "000"], .directory),
      (["srv", "store", "000", (Uuid.constant 0).text], .directory),
      (["srv", "store", "000", (Uuid.constant 0).text, "a.bin"], .file ⟨.text "a", 0o640, 7, 7⟩)]

/-- The store moves, and the link points to it again. -/
theorem changeUuid_effect_stored :
    let w : World := { tree := linkedTree }
    ∃ report w', changeUuid linkedSite ⟨"db", "t"⟩ (Uuid.constant 1) w = .ok report w' ∧
      report.storeRelocated = true ∧ report.dataLinkUpdated = true ∧
      UuidChanged attachedAnswers linkedSite ⟨"db", "t"⟩ (Uuid.constant 1) w w' report := by
  intro w
  have hrun : endsWith (fun report _ => report.oldUuid = Uuid.constant 0 ∧
        report.catalogFile = linkedSite.layout.tableFile ⟨"db", "t"⟩ ∧ report.storeRelocated = true ∧
        report.dataLinkUpdated = true)
      (changeUuid linkedSite ⟨"db", "t"⟩ (Uuid.constant 1) w) = true := by
    decide +kernel
  obtain ⟨report, w', h, hends⟩ := exists_of_endsWith hrun
  obtain ⟨hold, hfile, hrelocated, hupdated⟩ := of_decide_eq_true hends
  refine ⟨report, w', h, hrelocated, hupdated, ?_⟩
  refine (changeUuid_effect _ _ _ _ _ _ _ _ (by decide) (by decide) (by decide +kernel) h ?_ ?_ ?_ ?_ ?_
    ?_).1
  · rw [hold]; decide +kernel
  · decide +kernel
  · rw [hfile]; decide +kernel
  · decide +kernel
  · rw [hold]
    exact fun hin => absurd hin (by decide +kernel)
  · rw [hold, hfile]; decide +kernel

/-- A site whose root is reached by way of a store. -/
def detourSite : Site :=
  ⟨{ paths := { root := ⟨"/srv/store/000/" ++ (Uuid.constant 0).text ++ "/../../.."⟩ } },
    .ofAnswers fun _ _ => .ok [], Rehearsal.remover [] []⟩

/-- The tree with a link to the store by way of the store. -/
def detourTree : FileTree :=
  linkedTree.put ["srv", "data", "db", "t"] (.link (detourSite.layout.storeDirectory (Uuid.constant 0)))

/-- A site whose root is looked for from the directory the program is started in. -/
def startedSite : Site :=
  ⟨{ paths := { root := "../x/../../.." } }, .ofAnswers fun _ _ => .ok [], Rehearsal.remover [] []⟩

/-- The program is started in the store. Beside its place is a directory, and beside its new place a link of
that name, which leads past another link with the same text. -/
def startedTree : FileTree where
  entries :=
    (["srv", "store", "000", "x"], .directory) :: (["srv", "store", "111"], .directory) ::
      (["srv", "store", "111", "x"], .link "/other/a/b/c") ::
      (["other"], .directory) :: (["other", "a"], .directory) :: (["other", "a", "b"], .directory) ::
      (["other", "a", "b", "c"], .directory) :: (["other", "data"], .directory) ::
      (["other", "data", "db"], .directory) ::
      (["other", "data", "db", "t"], .link (startedSite.layout.storeDirectory (Uuid.constant 0))) ::
      (linkedTree.put ["srv", "data", "db", "t"]
        (.link (startedSite.layout.storeDirectory (Uuid.constant 0)))).entries
  here := ["srv", "store", "000", (Uuid.constant 0).text]

/-- No link is on any way of a table's files, and the table's link has the text of the path of the store. The
store moves, and the link is left as it is. -/
structure LeavesLink (site : Site) (tree : FileTree) (updated : Bool) : Prop where
  wellFormed : tree.WellFormed
  source : tree.Straight (site.layout.storeDirectory (Uuid.constant 0))
  target : tree.Straight (site.layout.storeDirectory (Uuid.constant 1))
  catalogFile : tree.Straight (site.layout.tableFile ⟨"db", "t"⟩)
  dataLink : tree.StraightTo (site.layout.dataLink ⟨"db", "t"⟩)
  outside : ¬ tree.goalOf (site.layout.storeDirectory (Uuid.constant 0)) <+:
    tree.goalOf (site.layout.tableFile ⟨"db", "t"⟩)
  place : tree.goalOf (site.layout.dataLink ⟨"db", "t"⟩) = ["srv", "data", "db", "t"]
  text : tree.readLink (site.layout.dataLink ⟨"db", "t"⟩) =
    .ok (site.layout.storeDirectory (Uuid.constant 0))
  left : ∃ report w', changeUuid site ⟨"db", "t"⟩ (Uuid.constant 1) { tree := tree } = .ok report w' ∧
    report.catalogFile = site.layout.tableFile ⟨"db", "t"⟩ ∧ report.oldUuid = Uuid.constant 0 ∧
    report.storeRelocated = true ∧ report.dataLinkUpdated = updated ∧
    w'.tree.get? ["srv", "data", "db", "t"] =
      some (.link (site.layout.storeDirectory (Uuid.constant 0)))

/-- Whether a change of the table's UUID ends well and leaves its link. -/
def endsLeavingLink (site : Site) (tree : FileTree) (updated : Bool) : Bool :=
  endsWith (fun report w => report.catalogFile = site.layout.tableFile ⟨"db", "t"⟩ ∧
      report.oldUuid = Uuid.constant 0 ∧ report.storeRelocated = true ∧
      report.dataLinkUpdated = updated ∧
      w.tree.get? ["srv", "data", "db", "t"] =
        some (.link (site.layout.storeDirectory (Uuid.constant 0))))
    (changeUuid site ⟨"db", "t"⟩ (Uuid.constant 1) { tree := tree })

theorem LeavesLink.of_run {site : Site} {tree : FileTree} {updated : Bool}
    (hways : tree.WellFormed ∧ tree.Straight (site.layout.storeDirectory (Uuid.constant 0)) ∧
      tree.Straight (site.layout.storeDirectory (Uuid.constant 1)) ∧
      tree.Straight (site.layout.tableFile ⟨"db", "t"⟩) ∧
      tree.StraightTo (site.layout.dataLink ⟨"db", "t"⟩))
    (houtside : ¬ tree.goalOf (site.layout.storeDirectory (Uuid.constant 0)) <+:
      tree.goalOf (site.layout.tableFile ⟨"db", "t"⟩))
    (hplace : tree.goalOf (site.layout.dataLink ⟨"db", "t"⟩) = ["srv", "data", "db", "t"])
    (htext : tree.readLink (site.layout.dataLink ⟨"db", "t"⟩) =
      .ok (site.layout.storeDirectory (Uuid.constant 0)))
    (hrun : endsLeavingLink site tree updated = true) : LeavesLink site tree updated := by
  obtain ⟨hwf, hold, hnew, hfile, hlink⟩ := hways
  obtain ⟨report, w', h, hends⟩ := exists_of_endsWith hrun
  exact ⟨hwf, hold, hnew, hfile, hlink, houtside, hplace, htext, report, w', h, of_decide_eq_true hends⟩

/-- The link is left as it is where its path led through the store, though none of it is a link. And where
its path starts in the store, another link is made anew that stands where it leads from the new place. -/
theorem changeUuid_leaves_link :
    LeavesLink detourSite detourTree false ∧ LeavesLink startedSite startedTree true :=
  ⟨.of_run (by decide +kernel) (by decide +kernel) (by decide +kernel) (by decide +kernel)
      (by decide +kernel),
    .of_run (by decide +kernel) (by decide +kernel) (by decide +kernel) (by decide +kernel)
      (by decide +kernel)⟩

end CatalogAdmin
