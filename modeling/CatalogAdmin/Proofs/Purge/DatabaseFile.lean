import CatalogAdmin.Proofs.Layout.Regular
import CatalogAdmin.Proofs.Purge.Failure

/-!
# Purges and the catalog files of databases

However a purge ends, it changes no file but by the remover and by removing what the three paths of its
table name (`after_attemptPurge`). In a regular tree the catalog file of a database is inside none of
these, with one exception: the table `t` of the database without a name has the same catalog file as
the database `t`, and nothing in a purge tells them apart. Its record is read, but not looked at for
what it is about, so the purge removes the definition of a database (`purge_loses_databaseFile`).
-/

namespace CatalogAdmin

open Session FileTree
open CatalogAdmin.Path (solid)

variable {answers : List Sent → Sent → Except ClientError (List Row)} {site : Site}
  {table : TableName} {w v w' : World}

/-! ## All changes of a purge -/

/-- The paths that are removed with a table. -/
def Layout.tablePaths (l : Layout) (table : TableName) : List Path :=
  [l.dataLink table, l.detachedFlag table, l.tableFile table]

/-- On the way from `w` to `w'` no file was changed but by the remover. -/
def RemoverRan (site : Site) (w w' : World) : Prop :=
  ∃ removed, w'.removals = w.removals ++ removed ∧
    w'.tree = site.remover.leave w.removals removed w.tree

/-- On the way from `w` to `w'` nothing was done but to remove some of what a table's paths name. -/
def PathsRemoved (site : Site) (table : TableName) (w w' : World) : Prop :=
  w'.removals = w.removals ∧ Swept w.tree w'.tree (site.layout.tablePaths table)

/-- On the way from `w` to `w'` the remover ran, and then some of what a table's paths name was
removed. -/
def PurgeRan (site : Site) (table : TableName) (w w' : World) : Prop :=
  ∃ removed, w'.removals = w.removals ++ removed ∧
    Swept (site.remover.leave w.removals removed w.tree) w'.tree (site.layout.tablePaths table)

namespace RemoverRan

theorem of_same (hr : w'.removals = w.removals) (ht : w'.tree = w.tree) : RemoverRan site w w' :=
  ⟨[], by rw [hr, List.append_nil], ht⟩

theorem trans (h : RemoverRan site w v) (h' : RemoverRan site v w') : RemoverRan site w w' := by
  obtain ⟨first, hr, ht⟩ := h
  obtain ⟨more, hr', ht'⟩ := h'
  refine ⟨first ++ more, ?_, ?_⟩
  · rw [hr', hr, List.append_assoc]
  · rw [ht', ht, hr, Remover.leave_append]

theorem purge (h : RemoverRan site w v) (h' : PurgeRan site table v w') :
    PurgeRan site table w w' := by
  obtain ⟨first, hr, ht⟩ := h
  obtain ⟨more, hr', hswept⟩ := h'
  refine ⟨first ++ more, ?_, ?_⟩
  · rw [hr', hr, List.append_assoc]
  · rwa [Remover.leave_append, ← ht, ← hr]

theorem purged (h : RemoverRan site w w') : PurgeRan site table w w' := by
  obtain ⟨removed, hr, ht⟩ := h
  exact ⟨removed, hr, ht ▸ .refl _ _⟩

end RemoverRan

namespace PathsRemoved

theorem of_pruned {t : FileTree} {p : Path} (h : Pruned w.tree t p)
    (hp : p ∈ site.layout.tablePaths table) :
    PathsRemoved site table w { w with tree := t } :=
  ⟨rfl, .of_pruned h hp⟩

theorem trans (h : PathsRemoved site table w v) (h' : PathsRemoved site table v w') :
    PathsRemoved site table w w' :=
  ⟨h'.1.trans h.1, h.2.trans h'.2⟩

theorem purged (h : PathsRemoved site table w w') : PurgeRan site table w w' :=
  ⟨[], h.1.trans (List.append_nil _).symm, h.2⟩

end PathsRemoved

namespace Session

variable {α β : Type}

/-- A purge goes on from a step that changes no file but by the remover. -/
theorem Keeps.before_purge {x : Session α} {f : α → Session β} (hx : Keeps (RemoverRan site) x)
    (hf : ∀ a, Keeps (PurgeRan site table) (f a)) : Keeps (PurgeRan site table) (x >>= f) := by
  intro w
  cases h : x w with
  | ok a v =>
    rw [after_bind_of_ok h]
    exact (hx.ok h).purge (hf a v)
  | error e v =>
    rw [after_of_error (bind_of_error h)]
    exact (hx.error h).purged

theorem remover_checkDetached (hs : site.server = .ofAnswers answers) (table : TableName) :
    Keeps (RemoverRan site) (checkDetached site table) := by
  intro w
  rw [after_checkDetached hs]
  exact .of_same rfl rfl

theorem remover_detachedRecord (site : Site) (table : TableName) :
    Keeps (RemoverRan site) (detachedRecord site table) := by
  intro w
  rw [← silent_detachedRecord site table w]
  exact .of_same rfl rfl

theorem remover_listDisks (hs : site.server = .ofAnswers answers) :
    Keeps (RemoverRan site) (listDisks site) := by
  intro w
  rw [after_listDisks hs]
  exact .of_same rfl rfl

theorem remover_commandForm (hs : site.server = .ofAnswers answers) :
    Keeps (RemoverRan site) (commandForm site) := by
  intro w
  rw [after_commandForm hs]
  exact .of_same rfl rfl

theorem remover_removeFromDisks (site : Site) (path : Text) (form : CommandForm)
    (disks : List Disk) : Keeps (RemoverRan site) (removeFromDisks site path form disks) := by
  induction disks with
  | nil => exact fun w => .of_same rfl rfl
  | cons disk more ih =>
    refine Keeps.bind RemoverRan.trans (fun w => ?_) fun _ => ih
    rcases traced_removeFromDisk site disk path form w with ⟨e, hrun⟩ | htraced
    · rw [after_of_error hrun]
      exact .of_same rfl rfl
    · exact ⟨_, htraced.removals, htraced.tree⟩

theorem remover_expandFor (hs : site.server = .ofAnswers answers) (template : Text)
    (table : TableName) (uuid : Uuid) :
    Keeps (RemoverRan site) (expandFor site template table uuid) := by
  intro w
  obtain ⟨_, hafter, -⟩ := selects_expandFor hs template table uuid w
  rw [hafter]
  exact .of_same rfl rfl

theorem remover_dropReplicaOf (hs : site.server = .ofAnswers answers) (table : TableName)
    (record : Catalog.Record) : Keeps (RemoverRan site) (dropReplicaOf site table record) := by
  unfold dropReplicaOf
  split
  · exact fun w => .of_same rfl rfl
  · next replica _ =>
    have hexpand := fun template => remover_expandFor hs template table record.uuid
    refine Keeps.bind RemoverRan.trans (hexpand replica.path) fun root => ?_
    refine Keeps.bind RemoverRan.trans (hexpand replica.name) fun name => ?_
    refine Keeps.bind RemoverRan.trans (fun w => ?_) fun _ w => .of_same rfl rfl
    rw [after_dropReplica hs]
    exact .of_same rfl rfl

theorem pathsRemoved_removePath {p : Path} (hp : p ∈ site.layout.tablePaths table) :
    Keeps (PathsRemoved site table) (removePath p) := by
  intro w
  obtain ⟨t, hafter, hpruned⟩ := pruned_removePath p w
  rw [hafter]
  exact .of_pruned hpruned hp

theorem pathsRemoved_removeCatalogFile (site : Site) (table : TableName) :
    Keeps (PathsRemoved site table) (removeCatalogFile site table) := by
  intro w
  unfold removeCatalogFile
  rw [after_adaptExcept]
  rcases removeFile_cases (site.layout.tableFile table) w.tree with
    ⟨e, hrun⟩ | ⟨l, node, hl, _, _, hrun⟩
  · rw [after_of_error (onTree_of_error hrun)]
    exact ⟨rfl, .refl _ _⟩
  · rw [after_of_ok (onTree_of_ok hrun)]
    exact .of_pruned (.erase hl) (by simp [Layout.tablePaths])

/-- However a purge ends, it changes no file but by the remover and by removing what the paths of its
table name. -/
theorem after_attemptPurge (hs : site.server = .ofAnswers answers) (table : TableName) :
    Keeps (PurgeRan site table) (attemptPurge site table) := by
  rw [attemptPurge_eq]
  refine (remover_checkDetached hs table).before_purge fun _ => ?_
  refine (remover_detachedRecord site table).before_purge fun record => ?_
  refine (remover_listDisks hs).before_purge fun disks => ?_
  refine (remover_commandForm hs).before_purge fun form => ?_
  refine (remover_removeFromDisks site _ form disks).before_purge fun _ => ?_
  refine (remover_dropReplicaOf hs table record).before_purge fun replicaPath w => ?_
  have hlink : site.layout.dataLink table ∈ site.layout.tablePaths table := by
    simp [Layout.tablePaths]
  have hflag : site.layout.detachedFlag table ∈ site.layout.tablePaths table := by
    simp [Layout.tablePaths]
  refine PathsRemoved.purged ((Keeps.bind PathsRemoved.trans (pathsRemoved_removePath hlink)
    fun _ => ?_ : Keeps (PathsRemoved site table) _) w)
  refine Keeps.bind PathsRemoved.trans (pathsRemoved_removePath hflag) fun _ => ?_
  refine Keeps.bind PathsRemoved.trans (pathsRemoved_removeCatalogFile site table) fun _ => ?_
  exact Keeps.pure (fun w => ⟨rfl, .refl _ _⟩) _

end Session

/-! ## Regular trees -/

/-- A remover that leaves regular trees regular and changes nothing under `metadata`. -/
structure Remover.Tame (remover : Remover) (root : Path) (base : Location) : Prop where
  regular : ∀ before r t, Regular t root base → Regular (remover.run before r t).2 root base
  catalog : ∀ before r t x, base ++ [metadataName] <+: x →
    (remover.run before r t).2.get? x = t.get? x

theorem Remover.tame_of_idle {remover : Remover} (h : ∀ before r t, (remover.run before r t).2 = t)
    (root : Path) (base : Location) : remover.Tame root base where
  regular before r t ht := (h before r t).symm ▸ ht
  catalog before r t x _ := by rw [h before r t]

section

variable {t t' : FileTree} {root : Path} {base l x : Location} {layout : Layout}

theorem Remover.Tame.regular_leave {remover : Remover} (h : remover.Tame root base)
    (before runs : List Removal) (ht : Regular t root base) :
    Regular (remover.leave before runs t) root base := by
  induction runs generalizing before t with
  | nil => exact ht
  | cons r more ih => exact ih _ (h.regular before r t ht)

theorem Remover.Tame.get?_leave {remover : Remover} (h : remover.Tame root base)
    (hx : base ++ [metadataName] <+: x) (before runs : List Removal) (t : FileTree) :
    (remover.leave before runs t).get? x = t.get? x :=
  Remover.get?_leave (fun before r t => h.catalog before r t x hx) before runs t

/-- The places that the paths of a table lead to in a regular tree. -/
theorem Regular.tablePaths (h : Regular t layout.root base) {p : Path}
    (hp : p ∈ layout.tablePaths table) (hl : t.locate false p = .ok l) :
    base ++ [dataName] <+: l ∨
      l = base ++ [metadataName] ++ (nameParts table.database ++ [flagName table.table]) ∨
      p = layout.tableFile table ∧
        l = base ++ [metadataName] ++ (nameParts table.database ++ [catalogName table.table]) := by
  simp only [Layout.tablePaths, List.mem_cons, List.not_mem_nil, or_false] at hp
  rcases hp with rfl | rfl | rfl
  · rw [(h.place (layout.below_dataLink table) hl).1]
    exact .inl (List.prefix_append _ _)
  · rw [(h.place (layout.below_detachedFlag table) hl).1,
      solid_nameParts _ (flagName_not_dots _).1]
    exact .inr (.inl rfl)
  · rw [(h.place (layout.below_tableFile table) hl).1,
      solid_nameParts _ (catalogName_not_dots _).1]
    exact .inr (.inr ⟨rfl, rfl⟩)

/-- All that is removed with a table is in the directories under the root. -/
theorem Regular.managed_tablePaths (h : Regular t layout.root base) {p : Path}
    (hp : p ∈ layout.tablePaths table) (hl : t.locate false p = .ok l) : Managed base l := by
  rcases h.tablePaths hp hl with hdata | rfl | ⟨-, rfl⟩
  · exact ⟨dataName, by decide, hdata⟩
  · exact ⟨metadataName, by decide, List.prefix_append _ _⟩
  · exact ⟨metadataName, by decide, List.prefix_append _ _⟩

/-- A path of two names is no database's catalog file, and one of one name only by that name. -/
theorem of_nameParts_prefix {database last name : Text} {more : List Text}
    (h : nameParts database ++ [last] <+: catalogName name :: more) :
    database = [] ∧ last = catalogName name := by
  unfold nameParts at h
  split at h
  · next hnone => exact ⟨hnone, (List.cons_prefix_cons.1 h).1⟩
  · exact absurd (List.cons_prefix_cons.1 h).1 (escapeName_ne_catalogName _ _)

/-- In a regular tree a database's catalog file is outside of all that is removed with a table, unless
it is the table's catalog file. -/
theorem Regular.outside_databaseFile (h : Regular t layout.root base) {database : Text}
    (hother : ¬ (table.database = [] ∧ table.table = database))
    (hx : base ++ [metadataName, catalogName database] <+: x) :
    ∀ p ∈ layout.tablePaths table, t.Outside p x := by
  intro p hp l hl hbelow
  obtain ⟨more, rfl⟩ := hx
  rw [List.append_assoc] at hbelow
  rcases h.tablePaths hp hl with hdata | rfl | ⟨-, rfl⟩
  · exact absurd (eq_of_prefix_tops (hdata.trans hbelow) (prefix_tops base metadataName _))
      (by decide)
  all_goals
    rw [List.append_assoc, List.prefix_append_right_inj, List.singleton_append, List.cons_append,
      List.cons_prefix_cons] at hbelow
    obtain ⟨hnone, hlast⟩ := of_nameParts_prefix hbelow.2
  · exact flagName_ne_catalogName _ _ hlast
  · exact hother ⟨hnone, catalogName_injective hlast⟩

/-- What is removed with a table changes no route of the layout that is outside of it. -/
theorem Regular.leads_swept (h : Regular t layout.root base) {p : Path} {top : Text}
    {rest : List Text} {seen : List Location} (hp : layout.Below p top rest)
    (hswept : Swept t t' (layout.tablePaths table))
    (hroute : t.Leads false (base ++ [top]) rest seen 0 l)
    (hoff : ∀ x, x = base ++ [top] ∨ x ∈ seen → ∀ q ∈ layout.tablePaths table, t.Outside q x) :
    ∃ passed n, n ≤ linkLimit ∧ t'.Leads false (t'.origin p) (steps p) passed n l := by
  obtain ⟨passed, n, hn, hwhole, hpassed⟩ := h.leads hp hroute
  refine ⟨passed, n, hn, ?_⟩
  rw [hswept.within.origin]
  refine hwhole.congr fun x hx => hswept.kept x fun q hq => ?_
  rcases hpassed x hx with hout | hin
  · exact fun l hl hbelow => hout ((h.managed_tablePaths hq hl).below hbelow)
  · exact hoff x hin q hq

/-- A purge changes nothing that the remover leaves outside of the table's paths. In a regular tree the
catalog file of a database is outside, unless the table has its name and no database. -/
theorem purge_keeps_databaseFile (settings : Settings)
    (answers : List Sent → Sent → Except ClientError (List Row)) (remover : Remover)
    (table : TableName) (w : World) :
    let site : Site := ⟨settings, .ofAnswers answers, remover⟩
    let w' := after (purge site table) w
    (∃ removed, w'.removals = w.removals ++ removed ∧
      Swept (remover.leave w.removals removed w.tree) w'.tree (site.layout.tablePaths table)) ∧
    ∀ base database, Regular w.tree site.layout.root base → remover.Tame site.layout.root base →
      ¬ (table.database = [] ∧ table.table = database) →
      (∀ x, base ++ [metadataName, catalogName database] <+: x →
        w'.tree.get? x = w.tree.get? x) ∧
      ∀ file, w.tree.stat true (site.layout.databaseFile database) = .ok (.file file) →
        w'.tree.stat true (site.layout.databaseFile database) = .ok (.file file) := by
  intro site w'
  have hran : PurgeRan site table w w' := by
    show PurgeRan site table w (after (purge site table) w)
    rw [purge, after_adaptExcept]
    exact after_attemptPurge rfl table w
  obtain ⟨removed, hremovals, hswept⟩ := hran
  refine ⟨⟨removed, hremovals, hswept⟩, fun base database hregular htame hother => ?_⟩
  have hleft := htame.regular_leave w.removals removed hregular
  have hkept : ∀ x, base ++ [metadataName, catalogName database] <+: x →
      w'.tree.get? x = w.tree.get? x := by
    intro x hx
    have hmetadata : base ++ [metadataName] <+: x := by
      refine List.IsPrefix.trans ?_ hx
      exact ⟨[catalogName database], by simp⟩
    rw [hswept.kept x (hleft.outside_databaseFile hother hx), htame.get?_leave hmetadata]
  refine ⟨hkept, fun file hfile => ?_⟩
  have hbelow := site.layout.below_databaseFile database
  obtain ⟨hw, hg, _, hroute, -⟩ := hregular.file_place hbelow hfile
  have hdots := catalogName_not_dots database
  have hname : solid [catalogName database] = [catalogName database] := Path.solid_cons hdots.1 []
  rw [hname, List.append_assoc, List.singleton_append] at hg
  have hstop : (remover.leave w.removals removed w.tree).Leads false (base ++ [metadataName])
      [catalogName database] [] 0 (base ++ [metadataName] ++ [catalogName database]) :=
    .stop (hroute.isName hdots.1 hdots.2) rfl
  rw [List.append_assoc base, List.singleton_append] at hstop
  obtain ⟨passed, n, hn, hlast⟩ := hleft.leads_swept hbelow hswept hstop fun x hx q hq => by
    have hplace := hleft.outside_databaseFile hother (List.prefix_refl _) q hq
    rcases hx with rfl | hx
    · exact hplace.above ⟨[catalogName database], by simp⟩
    · cases hx
  refine stat_of_place (locate_eq_of_leads hw hlast hn) ?_ fun _ => by simp
  rw [hkept _ (List.prefix_refl _), hg]

end

/-! ## A database that a table is taken for -/

/-- The catalog file of a database. -/
def shopFile : File :=
  ⟨.text "ATTACH DATABASE _ UUID '00112233-4455-6677-8899-aabbccddeeff'\nENGINE = Atomic\n", 0o640, 7, 7⟩

/-- A database with a detached table. -/
def shopTree : FileTree where
  entries :=
    [(["srv"], .directory), (["srv", "metadata"], .directory),
      (["srv", "metadata", "shop.sql"], .file shopFile), (["srv", "metadata", "shop"], .directory),
      (["srv", "metadata", "shop", "events.sql"], .file eventsFile), (["srv", "data"], .directory),
      (["srv", "data", "shop"], .directory),
      (["srv", "data", "shop", "events"], .link "/srv/store"), (["srv", "store"], .directory)]

theorem regular_shopTree : Regular shopTree "/srv" ["srv"] := by
  refine Regular.of_entries "/srv" (by decide) ?_ (by decide) (by decide) ?_
  · have hnames : ∀ part ∈ Path.parts "/srv",
        part ≠ "." ∧ part ≠ ".." ∧ part.byteLength ≤ nameLimit := by
      decide
    exact hnames
  · have hlinks : ∀ e ∈ shopTree.entries, shopTree.IsLink e.1 →
        e.1 = ["srv", "data", "shop", "events"] := by
      decide
    exact fun e he hlink _ => ⟨_, _, hlinks e he hlink⟩

/-- A purge of a table of the database leaves the database's catalog file. -/
theorem purge_keeps_databaseFile_shop :
    let site := eventsSite 0
    Regular shopTree site.layout.root ["srv"] ∧ site.remover.Tame site.layout.root ["srv"] ∧
    ∃ report w', purge site ⟨"shop", "events"⟩ { tree := shopTree } = .ok report w' ∧
      w'.tree.stat true (site.layout.databaseFile "shop") = .ok (.file shopFile) := by
  intro site
  have htame : site.remover.Tame site.layout.root ["srv"] :=
    Remover.tame_of_idle (fun _ _ _ => rfl) _ _
  have hends : endsWell (purge site ⟨"shop", "events"⟩ { tree := shopTree }) = true := by
    decide +kernel
  obtain ⟨report, w', h⟩ := exists_of_endsWell hends
  refine ⟨regular_shopTree, htame, report, w', h, ?_⟩
  rw [← after_of_ok h]
  exact ((purge_keeps_databaseFile site.settings _ site.remover ⟨"shop", "events"⟩ _).2 ["srv"]
    "shop" regular_shopTree htame (by decide)).2 shopFile (by decide +kernel)

/-- The catalog file of a database is lost to a purge of the table that has its name and no database. -/
theorem purge_loses_databaseFile :
    let site := eventsSite 0
    let catalogFile := site.layout.databaseFile "shop"
    Regular shopTree site.layout.root ["srv"] ∧ site.remover.Tame site.layout.root ["srv"] ∧
    shopTree.stat true catalogFile = .ok (.file shopFile) ∧
    ∃ report w', purge site ⟨"", "shop"⟩ { tree := shopTree } = .ok report w' ∧
      w'.tree.stat true catalogFile = .error .notFound := by
  intro site catalogFile
  have hrun : endsWith (fun _ w => w.tree.stat true catalogFile = .error .notFound)
      (purge site ⟨"", "shop"⟩ { tree := shopTree }) = true := by
    decide +kernel
  obtain ⟨report, w', h, hgone⟩ := exists_of_endsWith hrun
  exact ⟨regular_shopTree, Remover.tame_of_idle (fun _ _ _ => rfl) _ _, by decide +kernel, report, w',
    h, of_decide_eq_true hgone⟩

end CatalogAdmin
