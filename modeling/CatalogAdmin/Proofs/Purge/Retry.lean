import CatalogAdmin.Proofs.Disk.Resumption
import CatalogAdmin.Proofs.Purge.Effect

/-!
# A purge that is run again

A purge that failed can be run again, and then comes to what a purge comes to that is not interrupted
(`purge_resumed`). What was removed by the first run is not missed by the second one, and what was
removed in part is removed. But the second run has to find the catalog file, and to remove along the same
paths. A catalog file that is a link into the table's own store is lost with the store, and a path that
leads through what is below its own end is lost with that (`purge_not_resumed`).
-/

namespace CatalogAdmin

open Session FileTree

variable {Q : World → World → Prop} {P : World → Prop} {site site' : Site} {table : TableName}
  {record : Catalog.Record} {w v w' : World} {e : TableError}

namespace Session

/-! ## Stages that end well, and stages of two runs -/

/-- What is done behind the disks runs no remover. -/
theorem removals_of_ok {answers : List Sent → Sent → Except ClientError (List Row)}
    (hs : site.server = .ofAnswers answers) (htable : table.table ≠ []) {disks : List Disk}
    {form : CommandForm} {report : PurgeReport} {w₁ u₂ : World}
    (hok : attemptPurge site table w = .ok report w₁)
    (hsurvey : survey site table w = .ok (record, disks, form) v)
    (hdisks : removeFromDisks site record.uuid.storePath form disks v = .ok () u₂) :
    w₁.removals = u₂.removals := by
  rw [attemptPurge_stages, bind_of_ok hsurvey, bind_of_ok hdisks] at hok
  obtain ⟨replicaPath, u₃, hreplica, hok⟩ := ok_of_bind hok
  obtain ⟨removed, u₄, hfiles, hok⟩ := ok_of_bind hok
  cases hok
  obtain ⟨_, _, -, rfl, -⟩ := replicaDropped_of_ok hs hreplica
  obtain ⟨_, rfl, -⟩ := emptied_of_ok htable hfiles
  rfl

theorem AskAlike.checkDetached (h : AskAlike Q P site site') (table : TableName) :
    Follows Q P (checkDetached site table) (checkDetached site' table) :=
  (h.isAttached table).bind fun _ => .ite (.throw _) (.pure ())

theorem AskAlike.survey (h : AskAlike Q P site site') (table : TableName)
    (hpresent : ∀ w w', Q w w' → w'.tree.isPresent (site.layout.tableFile table) =
      w.tree.isPresent (site.layout.tableFile table))
    (hread : ∀ w w', Q w w' → Catalog.readRecord w'.tree (site.layout.tableFile table) =
      Catalog.readRecord w.tree (site.layout.tableFile table)) :
    Follows Q P (survey site table) (survey site' table) := by
  have hlayout : site'.layout = site.layout := congrArg (fun s => (⟨s.paths.root⟩ : Layout)) h.settings
  refine (h.checkDetached table).bind fun _ => Follows.bind ?_ fun record =>
    h.listDisks.bind fun disks => h.commandForm.bind fun form => .pure _
  unfold detachedRecord
  rw [hlayout]
  refine ((Follows.look hpresent).adaptExcept _).bind fun present => .ite (.bind (.throw _) fun _ => ?_) ?_
  all_goals exact (Follows.look hread).adaptExcept _

theorem AskAlike.dropReplicaOf (h : AskAlike Q P site site') (table : TableName)
    (record : Catalog.Record) :
    Follows Q P (dropReplicaOf site table record) (dropReplicaOf site' table record) := by
  unfold Session.dropReplicaOf
  split
  · exact .pure _
  · exact (h.expandFor _ _ _).bind fun root => (h.expandFor _ _ _).bind fun name =>
      (h.dropReplica _).bind fun _ => .pure _

theorem follows_removePath (p : Path) :
    Follows (Alike SameView) P (removePath p) (removePath p) := by
  intro w w' hw
  unfold removePath
  rw [hw.tree.stat]
  cases w.tree.stat false p with
  | error e => cases e <;> first | exact .ok hw | exact .error hw
  | ok node =>
    have hremoval : Follows SameView (fun _ => False)
        (if node = .directory then removeDirectory p else removeFile p)
        (if node = .directory then removeDirectory p else removeFile p) :=
      .ite (follows_removeDirectory p) (follows_removeFile p)
    exact (hremoval.onTree.adaptExcept _).bind (fun _ => .pure true) w w' hw

theorem follows_removeFiles (site : Site) (table : TableName) :
    Follows (Alike SameView) P (removeFiles site table) (removeFiles site table) :=
  (follows_removePath _).bind fun _ => (follows_removePath _).bind fun _ =>
    ((follows_removeFile _).onTree.adaptExcept _).bind fun _ => .pure _

end Session

/-! ## The run that fails, and the one that goes well -/

/-- Two runs are at these trees. -/
def At (t t' : FileTree) (a b : FileTree) : Prop := a = t ∧ b = t'

section Runs

variable {settings : Settings} {answers answers' : List Sent → Sent → Except ClientError (List Row)}
  {remover remover' : Remover} {mounts : Text → Path} {report : PurgeReport} {w₁ u : World}

/-- What a server answers a purge before any disk is emptied, and what it answers a purge of a table whose
catalog file reads the same, are one. -/
theorem follows_survey (table : TableName) (R : FileTree → FileTree → Prop)
    (hstat : ∀ t t', R t t' → t'.stat true (Layout.tableFile ⟨settings.paths.root⟩ table) =
      t.stat true (Layout.tableFile ⟨settings.paths.root⟩ table))
    (h : AskAlike (Alike R) P ⟨settings, .ofAnswers answers, remover⟩
      ⟨settings, .ofAnswers answers', remover'⟩) :
    Follows (Alike R) P (survey ⟨settings, .ofAnswers answers, remover⟩ table)
      (survey ⟨settings, .ofAnswers answers', remover'⟩ table) :=
  h.survey table (fun _ _ hw => isPresent_of_stat (hstat _ _ hw.tree))
    fun _ _ hw => readRecord_of_stat (hstat _ _ hw.tree)

/-- A purge that fails where another one goes well leaves its tree midway through what is removed from
the disks: where that is done, nothing is left that could fail but the drop of the replica. -/
theorem midway_of_failed (hlenient : settings.disks.lenient = true)
    (hanswers : ∀ before s, answers' before s = answers before s ∨ ∃ e, answers' before s = .error e)
    (hr : remover.Removes mounts) (hr' : remover'.Removes mounts)
    (hok : attemptPurge ⟨settings, .ofAnswers answers, remover⟩ table w = .ok report w₁)
    (herror : attemptPurge ⟨settings, .ofAnswers answers', remover'⟩ table w = .error e v) :
    ∃ record disks form u₁,
      survey ⟨settings, .ofAnswers answers, remover⟩ table w = .ok (record, disks, form) u₁ ∧
      Midway (targets ⟨settings, .ofAnswers answers, remover⟩ mounts record.uuid.storePath form disks)
        w.tree v.tree := by
  have failing : ∀ t t', AskAlike (Alike (At t t')) (fun b => b.tree = t')
      ⟨settings, .ofAnswers answers, remover⟩ ⟨settings, .ofAnswers answers', remover'⟩ :=
    fun t t' => askAlike_of_failing (fun _ _ h => h.tree.2) hanswers
  rw [attemptPurge_stages] at hok herror
  obtain ⟨⟨record, disks, form⟩, u₁, hsurvey, hok⟩ := ok_of_bind hok
  obtain ⟨_, u₂, hdisks, hok⟩ := ok_of_bind hok
  obtain ⟨replicaPath, u₃, hreplica, hok⟩ := ok_of_bind hok
  obtain ⟨removed, u₄, hfiles, -⟩ := ok_of_bind hok
  refine ⟨record, disks, form, u₁, hsurvey, ?_⟩
  have hsurveys := follows_survey table (At w.tree w.tree)
    (fun _ _ h => by rw [h.1, h.2]) (failing w.tree w.tree)
  have hw : Alike (At w.tree w.tree) w w := ⟨rfl, rfl, rfl, rfl⟩
  rcases error_of_bind herror with herror | ⟨found, v₁, hsurvey', herror⟩
  · rw [hsurveys.of_ok_error hw hsurvey herror]
    exact .start (.refl _)
  obtain ⟨rfl, hv₁⟩ := hsurveys.of_ok_ok hw hsurvey hsurvey'
  rcases error_of_bind herror with herror | ⟨_, v₂, hdisks', herror⟩
  · have hmidway := removeFromDisks_midway hr' hlenient herror
    rwa [hv₁.tree.2] at hmidway
  have hview := removeFromDisks_removes hr hlenient hdisks
  have hview' := removeFromDisks_removes hr' hlenient hdisks'
  rw [hv₁.tree.1] at hview
  rw [hv₁.tree.2] at hview'
  have htraced := traced_removeFromDisks rfl table hdisks
  have htraced' := traced_removeFromDisks rfl table hdisks'
  have hu₂ : Alike (At u₂.tree v₂.tree) u₂ v₂ :=
    ⟨by rw [htraced.sent, htraced'.sent, hv₁.sent],
      by rw [htraced.removals, htraced'.removals, hv₁.removals]; rfl, rfl, rfl⟩
  have hreplicas := (failing u₂.tree v₂.tree).dropReplicaOf table record
  rcases error_of_bind herror with herror | ⟨_, v₃, hreplica', herror⟩
  · rw [hreplicas.of_ok_error hu₂ hreplica herror]
    exact .finished hview'
  obtain ⟨rfl, hv₃⟩ := hreplicas.of_ok_ok hu₂ hreplica hreplica'
  rcases error_of_bind herror with herror | ⟨_, v₄, hfiles', herror⟩
  · have hu₃ : Alike SameView u₃ v₃ :=
      ⟨hv₃.sent, hv₃.removals, by rw [hv₃.tree.1, hv₃.tree.2]; exact hview.symm.trans hview'⟩
    exact ((follows_removeFiles (P := fun _ => False) _ table).of_ok_error hu₃ hfiles herror).elim
  · cases herror

/-- From a tree that is midway through what is removed from the disks, a purge goes as from the start,
if the catalog file is still found at the end of the way. -/
theorem resumed_of_midway (hlenient : settings.disks.lenient = true)
    (hr : remover.Removes mounts) (hblind : remover.Blind)
    {disks : List Disk} {form : CommandForm} {u₁ : World}
    (hok : attemptPurge ⟨settings, .ofAnswers answers, remover⟩ table w = .ok report w₁)
    (hsurvey : survey ⟨settings, .ofAnswers answers, remover⟩ table w = .ok (record, disks, form) u₁)
    (hmidway : Midway
      (targets ⟨settings, .ofAnswers answers, remover⟩ mounts record.uuid.storePath form disks)
      w.tree u.tree)
    (hfound : ∀ u₂, removeFromDisks ⟨settings, .ofAnswers answers, remover⟩ record.uuid.storePath form
      disks u₁ = .ok () u₂ →
      ∃ file, u₂.tree.stat true (Layout.tableFile ⟨settings.paths.root⟩ table) = .ok (.file file))
    (hloop : ∀ p ∈ targets ⟨settings, .ofAnswers answers, remover⟩ mounts record.uuid.storePath form disks,
      w.tree.Loopless p)
    (hsent : u.sent = w.sent) (hremovals : u.removals = w.removals) :
    ∃ w₂, attemptPurge ⟨settings, .ofAnswers answers, remover⟩ table u = .ok report w₂ ∧
      Alike SameView w₁ w₂ := by
  rw [attemptPurge_stages] at hok ⊢
  obtain ⟨_, _, hsurvey', hok⟩ := ok_of_bind hok
  cases hsurvey.symm.trans hsurvey'
  obtain ⟨_, u₂, hdisks, hok⟩ := ok_of_bind hok
  obtain ⟨replicaPath, u₃, hreplica, hok⟩ := ok_of_bind hok
  obtain ⟨removed, u₄, hfiles, hok⟩ := ok_of_bind hok
  cases hok
  have htree : u₁.tree = w.tree := by rw [(surveyed_of_ok rfl hsurvey).1]
  -- the catalog file that is found in the end was there all the time
  have hstat : u.tree.stat true (Layout.tableFile ⟨settings.paths.root⟩ table) =
      w.tree.stat true (Layout.tableFile ⟨settings.paths.root⟩ table) := by
    obtain ⟨file, hfile⟩ := hfound u₂ hdisks
    have hview := removeFromDisks_removes hr hlenient hdisks
    rw [htree] at hview
    have hleft := hview.within.trans hmidway.left
    rw [hleft.stat_of_ok hfile, (hleft.trans hmidway.within).stat_of_ok hfile]
  obtain ⟨v₁, hsurvey', hv₁⟩ := (follows_survey (P := fun _ => False) table
    (At w.tree u.tree) (fun _ _ h => by rw [h.1, h.2, hstat]) (askAlike _ _)).ok
    ⟨hsent, hremovals, rfl, rfl⟩ hsurvey
  obtain ⟨v₂, hdisks', hv₂⟩ := removeFromDisks_resumed (u := v₁) hr hblind hlenient hdisks
    (by rw [htree]; exact hloop) (by rw [htree, hv₁.tree.2]; exact hmidway) hv₁.sent hv₁.removals
  obtain ⟨v₃, hreplica', hv₃⟩ :=
    ((askAlike SameView fun _ => False).dropReplicaOf table record).ok hv₂ hreplica
  obtain ⟨v₄, hfiles', hv₄⟩ := (follows_removeFiles _ table).ok hv₃ hfiles
  rw [bind_of_ok hsurvey', bind_of_ok hdisks', bind_of_ok hreplica', bind_of_ok hfiles']
  exact ⟨v₄, rfl, hv₄⟩

end Runs

/-! ## The second run -/

/-- Where missing paths are no failure, a purge that failed is completed when it is run again: the second
run tells and asks what an uninterrupted one does, and leaves the same tree. The catalog file has to be
found along its path when the remover has run for all disks, and no path that is removed may lead through
what is below its own end. -/
theorem purge_resumed (settings : Settings)
    (answers answers' : List Sent → Sent → Except ClientError (List Row)) (remover remover' : Remover)
    (mounts : Text → Path) (table : TableName) (htable : table.table ≠ [])
    (hlenient : settings.disks.lenient = true)
    (hanswers : ∀ before s, answers' before s = answers before s ∨ ∃ e, answers' before s = .error e)
    (hremover : remover.Removes mounts) (hblind : remover.Blind) (hremover' : remover'.Removes mounts)
    {w w₁ v : World} {report : PurgeReport} {e : TableError}
    (hpurged : purge ⟨settings, .ofAnswers answers, remover⟩ table w = .ok report w₁)
    (hfailed : purge ⟨settings, .ofAnswers answers', remover'⟩ table w = .error e v)
    (hruns : ∀ runs, w₁.removals = w.removals ++ runs →
      (∃ file, (remover.leave w.removals runs w.tree).stat true
        (Layout.tableFile ⟨settings.paths.root⟩ table) = .ok (.file file)) ∧
      ∀ r ∈ runs, w.tree.Loopless (r.target mounts)) :
    let site : Site := ⟨settings, .ofAnswers answers, remover⟩
    ∃ w₂ record inventory version runs,
      purge site table { w with tree := v.tree } = .ok report w₂ ∧ SameView w₁.tree w₂.tree ∧
      w₂.sent = w₁.sent ∧ w₂.removals = w₁.removals ∧
      Purged answers site table { w with tree := v.tree } report w₂ record inventory version
        runs := by
  intro site
  replace hpurged := ok_of_adaptExcept hpurged
  obtain ⟨_, hfailed, -⟩ := error_of_adaptExcept hfailed
  obtain ⟨record, disks, form, u₁, hsurvey, hmidway⟩ :=
    midway_of_failed hlenient hanswers hremover hremover' hpurged hfailed
  -- the disks are emptied by the runs that are on record
  have hran : ∀ u₂, removeFromDisks site record.uuid.storePath form disks u₁ = .ok () u₂ →
      w₁.removals = w.removals ++ disks.map (removalFrom site · record.uuid.storePath form) ∧
      u₂.tree = remover.leave w.removals (disks.map (removalFrom site · record.uuid.storePath form))
        w.tree := by
    intro u₂ hdisks
    have htraced := traced_removeFromDisks rfl table hdisks
    have hstart := (surveyed_of_ok rfl hsurvey).1
    refine ⟨?_, htraced.tree.trans (by rw [hstart])⟩
    rw [removals_of_ok rfl htable hpurged hsurvey hdisks, htraced.removals, hstart]
  have hdisks : ∃ u₂, removeFromDisks site record.uuid.storePath form disks u₁ = .ok () u₂ := by
    have hstages := hpurged
    rw [attemptPurge_stages, bind_of_ok hsurvey] at hstages
    obtain ⟨_, u₂, hdisks, -⟩ := ok_of_bind hstages
    exact ⟨u₂, hdisks⟩
  obtain ⟨w₂, hresumed, halike⟩ := resumed_of_midway (u := { w with tree := v.tree }) hlenient hremover
    hblind hpurged hsurvey hmidway
    (fun u₂ hu₂ => by rw [(hran u₂ hu₂).2]; exact (hruns _ (hran u₂ hu₂).1).1)
    (fun p hp => by
      obtain ⟨u₂, hu₂⟩ := hdisks
      obtain ⟨disk, hdisk, rfl⟩ := List.mem_map.1 hp
      exact (hruns _ (hran u₂ hu₂).1).2 _ (List.mem_map_of_mem hdisk))
    rfl rfl
  obtain ⟨record', inventory, version, runs, hall⟩ := purged_of_ok rfl htable hresumed
  exact ⟨w₂, record', inventory, version, runs, adaptExcept_of_ok hresumed, halike.tree, halike.sent,
    halike.removals, hall⟩

/-! ## A remover that is cut short, and a catalog file that it removes -/

/-- A remover for disks mounted at `/srv`. It erases what is below the path, and ends with an exit
code. -/
def erasingRemover (exitCode : Int) (below : Location) : Remover where
  name := "disks"
  run := fun _ r t => (.ok ⟨some exitCode, []⟩,
    match t.locate false (r.target fun _ => "/srv") with
    | .ok l => t.erase (l ++ below)
    | .error _ => t)

/-- It removes what it is asked to if it erases the path itself, or fails. -/
theorem removes_erasingRemover {exitCode : Int} {below : Location} (h : exitCode ≠ 0 ∨ below = []) :
    (erasingRemover exitCode below).Removes fun _ => "/srv" where
  succeeds before r t outcome t' hrun hs := by
    cases hrun
    obtain rfl := h.resolve_left (fun hne => hne (Option.some.inj (of_decide_eq_true hs)))
    unfold FileTree.without
    cases t.locate false (r.target fun _ => "/srv") with
    | ok l =>
      show SameView (t.erase l) (t.erase (l ++ []))
      rw [List.append_nil]
      exact .refl _
    | error e => exact .refl t
  fails before r t answer t' hrun _ := by
    cases hrun
    cases hl : t.locate false (r.target fun _ => "/srv") with
    | ok l => exact .of_erase hl (List.prefix_append l below)
    | error e => exact .refl t _

/-- A server of one disk, and such a remover. -/
def erasingSite (exitCode : Int) (below : Location) : Site :=
  { eventsSite 0 with remover := erasingRemover exitCode below }

/-- A detached table with its store, and something in that. -/
def filledTree : FileTree where
  entries :=
    [(["srv"], .directory), (["srv", "metadata"], .directory), (["srv", "metadata", "db"], .directory),
      (["srv", "metadata", "db", "events.sql"], .file eventsFile), (["srv", "store"], .directory),
      (["srv", "store", "001"], .directory),
      (["srv", "store", "001", "00112233-4455-6677-8899-aabbccddeeff"], .directory),
      (["srv", "store", "001", "00112233-4455-6677-8899-aabbccddeeff", "sub"], .directory)]

/-- A detached table whose catalog file is a link into its store. -/
def inwardTree : FileTree where
  entries :=
    [(["srv"], .directory), (["srv", "metadata"], .directory), (["srv", "metadata", "db"], .directory),
      (["srv", "metadata", "db", "events.sql"],
        .link "/srv/store/001/00112233-4455-6677-8899-aabbccddeeff/events.sql"),
      (["srv", "store"], .directory), (["srv", "store", "001"], .directory),
      (["srv", "store", "001", "00112233-4455-6677-8899-aabbccddeeff"], .directory),
      (["srv", "store", "001", "00112233-4455-6677-8899-aabbccddeeff", "events.sql"],
        .file eventsFile)]

/-- A detached table whose store path leads through what is below its own end. -/
def windingTree : FileTree where
  entries :=
    [(["srv"], .directory), (["srv", "metadata"], .directory), (["srv", "metadata", "db"], .directory),
      (["srv", "metadata", "db", "events.sql"], .file eventsFile), (["srv", "store"], .directory),
      (["srv", "store", "001"], .link "002/00112233-4455-6677-8899-aabbccddeeff/sub/../.."),
      (["srv", "store", "002"], .directory),
      (["srv", "store", "002", "00112233-4455-6677-8899-aabbccddeeff"], .directory),
      (["srv", "store", "002", "00112233-4455-6677-8899-aabbccddeeff", "sub"], .directory)]

/-- A purge whose remover failed when half of the store was gone is completed. -/
theorem purge_resumed_stored :
    let table : TableName := ⟨"db", "events"⟩
    ∃ report w₁ e v w₂, purge (erasingSite 0 []) table { tree := filledTree } = .ok report w₁ ∧
      purge (erasingSite 36 ["sub"]) table { tree := filledTree } = .error e v ∧
      purge (erasingSite 0 []) table { tree := v.tree } = .ok report w₂ ∧
      SameView w₁.tree w₂.tree := by
  intro table
  let removal : Removal :=
    ⟨"default", "store/001/00112233-4455-6677-8899-aabbccddeeff",
      "/etc/clickhouse-server/config.xml", .query⟩
  have hends : endsWith (fun _ w => w.removals = [removal])
      (purge (erasingSite 0 []) table { tree := filledTree }) = true := by decide +kernel
  have hfails : failsWith (fun _ _ => true)
      (purge (erasingSite 36 ["sub"]) table { tree := filledTree }) = true := by decide +kernel
  obtain ⟨report, w₁, hpurged, hremovals⟩ := exists_of_endsWith hends
  obtain ⟨e, v, hfailed, -⟩ := exists_of_failsWith hfails
  obtain ⟨w₂, _, _, _, _, hresumed, hsame, -⟩ := purge_resumed _ _ _ (erasingRemover 0 [])
    (erasingRemover 36 ["sub"]) (fun _ => "/srv") table (by decide) rfl (fun _ _ => .inl rfl)
    (removes_erasingRemover (.inr rfl)) (fun _ _ _ _ => rfl)
    (removes_erasingRemover (.inl (by decide))) hpurged hfailed (by
      intro runs hruns
      obtain rfl : runs = [removal] := hruns.symm.trans (of_decide_eq_true hremovals)
      refine ⟨⟨eventsFile, by decide +kernel⟩, fun r hr => ?_⟩
      obtain rfl := List.mem_singleton.1 hr
      have hend : EndsIn (removal.target fun _ => "/srv") ["srv", "store", "001"]
          "00112233-4455-6677-8899-aabbccddeeff" := ⟨by decide +kernel, by decide, by decide⟩
      exact StraightTo.loopless hend (by decide +kernel) (by decide))
  exact ⟨report, w₁, e, v, w₂, hpurged, hfailed, hresumed, hsame⟩

/-- A catalog file that is removed with the store is missed when the purge is run again. And half of a
store that is lost to its own path stays behind. -/
theorem purge_not_resumed :
    let table : TableName := ⟨"db", "events"⟩
    let store : Location := ["srv", "store", "002", "00112233-4455-6677-8899-aabbccddeeff"]
    (∀ exitCode below, exitCode ≠ 0 ∨ below = [] →
      (erasingRemover exitCode below).Removes fun _ => "/srv") ∧
    (∃ report w₁ e v e' v', purge (erasingSite 0 []) table { tree := inwardTree } = .ok report w₁ ∧
      purge (erasingSite 36 []) table { tree := inwardTree } = .error e v ∧
      purge (erasingSite 0 []) table { tree := v.tree } = .error e' v' ∧ e'.kind = .validation) ∧
    ∃ report w₁ e v report' w₂,
      purge (erasingSite 0 []) table { tree := windingTree } = .ok report w₁ ∧
      purge (erasingSite 36 ["sub"]) table { tree := windingTree } = .error e v ∧
      purge (erasingSite 0 []) table { tree := v.tree } = .ok report' w₂ ∧
      w₁.tree.get? store = none ∧ w₂.tree.get? store = some .directory := by
  intro table store
  refine ⟨fun _ _ h => removes_erasingRemover h, ?_, ?_⟩
  · have hends : endsWell (purge (erasingSite 0 []) table { tree := inwardTree }) = true := by
      decide +kernel
    have hfails : failsWith (fun _ v => failsWith (fun e' _ => e'.kind = .validation)
        (purge (erasingSite 0 []) table { tree := v.tree }))
        (purge (erasingSite 36 []) table { tree := inwardTree }) = true := by
      decide +kernel
    obtain ⟨report, w₁, hpurged⟩ := exists_of_endsWell hends
    obtain ⟨e, v, hfailed, hagain⟩ := exists_of_failsWith hfails
    obtain ⟨e', v', hagain, hkind⟩ := exists_of_failsWith hagain
    exact ⟨report, w₁, e, v, e', v', hpurged, hfailed, hagain, of_decide_eq_true hkind⟩
  · have hends : endsWith (fun _ w => w.tree.get? store = none)
        (purge (erasingSite 0 []) table { tree := windingTree }) = true := by
      decide +kernel
    have hfails : failsWith (fun _ v => endsWith (fun _ w => w.tree.get? store = some .directory)
        (purge (erasingSite 0 []) table { tree := v.tree }))
        (purge (erasingSite 36 ["sub"]) table { tree := windingTree }) = true := by
      decide +kernel
    obtain ⟨report, w₁, hpurged, hgone⟩ := exists_of_endsWith hends
    obtain ⟨e, v, hfailed, hagain⟩ := exists_of_failsWith hfails
    obtain ⟨report', w₂, hagain, hleft⟩ := exists_of_endsWith hagain
    exact ⟨report, w₁, e, v, report', w₂, hpurged, hfailed, hagain, of_decide_eq_true hgone,
      of_decide_eq_true hleft⟩

end CatalogAdmin
