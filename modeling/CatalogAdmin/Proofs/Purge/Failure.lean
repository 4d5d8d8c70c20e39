import CatalogAdmin.Proofs.Coordination.Lookups
import CatalogAdmin.Proofs.Disk.Removal
import CatalogAdmin.Proofs.FileTree.Changes
import CatalogAdmin.Proofs.Purge.Calls

/-!
# A purge that fails

A purge that fails has made its calls up to one that failed, and `Stopped` says what is left then: the
queries sent and the runs of the remover are those of the calls made, and every place is as it was
unless the remover changed it or it was inside what the data link or the flag named. Nothing else is
removed before the catalog file, and the catalog file is removed last. So it is still there, unless it
was inside one of these itself (`purge_failed`); inside the flag it may be lost
(`purge_loses_catalogFile`).
-/

namespace CatalogAdmin

open Session FileTree

/-! ## What calls do -/

/-- The query for whether a table is attached. -/
def attachedQuery (site : Site) (table : TableName) : Sent :=
  ⟨.fetch, tableQuery site table "SELECT 1 FROM system.tables "⟩

/-- The request that drops a replica. -/
def dropRequest (site : Site) (root name : Text) : Sent :=
  ⟨.execute, { sql := dropReplicaStatement name (nodePath root),
               timeout := some site.settings.server.timeouts.system }⟩

namespace PurgeCall

/-- The queries of a call. -/
def queries (site : Site) (table : TableName) (f : PurgeFindings) : PurgeCall → List Sent
  | .presence => [attachedQuery site table]
  | .inventory => [inventoryQuery site]
  | .version => [versionQuery site]
  | .replicaPath template => if '{' ∈ template then [placeholderQuery site] else []
  | .replicaName template => if '{' ∈ template then [placeholderQuery site] else []
  | .replica => [dropRequest site f.root f.name]
  | .catalogFile => []
  | .disk _ => []
  | .dataLink => []
  | .detachedFlag => []
  | .removal => []

/-- The runs of the remover of a call. -/
def removals (site : Site) (f : PurgeFindings) : PurgeCall → List Removal
  | .disk d => [removalFrom site d f.record.uuid.storePath f.form]
  | _ => []

end PurgeCall

variable {answers : List Sent → Sent → Except ClientError (List Row)} {site : Site}
  {table : TableName} {f : PurgeFindings} {w v w' : World} {e : TableError}

namespace Session

theorem after_checkDetached (hs : site.server = .ofAnswers answers) (table : TableName) (w : World) :
    after (checkDetached site table) w = w.asking (attachedQuery site table) := by
  unfold checkDetached isAttached asTask
  rw [Keeps.after_bind, Keeps.after_bind (fun _ => Keeps.pure Eq.refl _), after_adaptExcept]
  · exact after_send answers hs _ w
  · intro attached v
    split <;> rfl

theorem silent_detachedRecord (site : Site) (table : TableName) :
    Keeps Eq (detachedRecord site table) :=
  ((Keeps.look Eq.refl _).adaptExcept _).bind Eq.trans fun _ =>
    Keeps.check Eq.refl ((Keeps.look Eq.refl _).adaptExcept _)

theorem after_dropReplica (hs : site.server = .ofAnswers answers) (root name : Text) (w : World) :
    after (dropReplica site { root, name }) w = w.asking (dropRequest site root name) :=
  after_asTask_execute answers hs _ _ w

/-- What a path names is removed, or some of it. Nothing else changes. -/
theorem pruned_removePath (p : Path) (w : World) :
    ∃ t, after (removePath p) w = { w with tree := t } ∧ Pruned w.tree t p := by
  unfold after removePath
  cases hstat : w.tree.stat false p with
  | error e => cases e <;> exact ⟨w.tree, rfl, .refl w.tree p⟩
  | ok node =>
    have hremoval : ∃ t, Pruned w.tree t p ∧
        ((if node = .directory then removeDirectory p else removeFile p) w.tree = .ok () t ∨
          ∃ e, (if node = .directory then removeDirectory p else removeFile p) w.tree = .error e t) := by
      by_cases hnode : node = .directory
      · rw [if_pos hnode]
        exact removeDirectory_cases (hnode ▸ hstat)
      · rw [if_neg hnode]
        rcases removeFile_cases p w.tree with ⟨e, hrun⟩ | ⟨l, _, hl, _, _, hrun⟩
        · exact ⟨w.tree, .refl w.tree p, .inr ⟨e, hrun⟩⟩
        · exact ⟨_, .erase hl, .inl hrun⟩
    obtain ⟨t, hpruned, hrun | ⟨e, hrun⟩⟩ := hremoval
    · refine ⟨t, ?_, hpruned⟩
      simp only [bind_of_ok (adaptExcept_of_ok (onTree_of_ok hrun))]
      rfl
    · refine ⟨t, ?_, hpruned⟩
      simp only [bind_of_error (adaptExcept_of_error (onTree_of_error hrun))]
      rfl

theorem tree_of_removeCatalogFile (h : removeCatalogFile site table w = .error e w') : w' = w := by
  obtain ⟨_, h, -⟩ := error_of_adaptExcept h
  rcases removeFile_cases (site.layout.tableFile table) w.tree with ⟨e, hrun⟩ | ⟨_, _, _, _, _, hrun⟩
  · rw [onTree_of_error hrun] at h
    cases h
    rfl
  · rw [onTree_of_ok hrun] at h
    cases h

end Session

theorem after_return {α : Type} (x : Session α) (g : α → PurgeFindings) (w : World) :
    after (do let a ← x; return g a) w = after x w :=
  Keeps.after_bind (fun _ => Keeps.pure Eq.refl _) w

/-- A call that removes no files of its own leaves its queries and its runs of the remover, unless it
fails before the remover runs. -/
theorem PurgeCall.traced_run (hs : site.server = .ofAnswers answers) (table : TableName)
    (f : PurgeFindings) {c : PurgeCall} (hc : c ∉ removalCalls) (w : World) :
    ∃ removed, Traced site w (after (c.run site table f) w) (c.queries site table f) removed ∧
      (removed = c.removals site f ∨ removed = [] ∧ ∃ e, c.run site table f w = .error e w) := by
  cases c with
  | presence =>
    refine ⟨[], ?_, .inl rfl⟩
    rw [run, after_return, after_checkDetached hs]
    exact .asking site w _
  | catalogFile =>
    refine ⟨[], ?_, .inl rfl⟩
    rw [run, after_return, ← silent_detachedRecord site table w]
    exact .refl site w
  | inventory =>
    refine ⟨[], ?_, .inl rfl⟩
    rw [run, after_return, after_listDisks hs]
    exact .asking site w _
  | version =>
    refine ⟨[], ?_, .inl rfl⟩
    rw [run, after_return, after_commandForm hs]
    exact .asking site w _
  | disk d =>
    -- a path that is not visible may stop the call before the remover runs
    rcases traced_removeFromDisk site d f.record.uuid.storePath f.form w with ⟨e, hrun⟩ | htraced
    · have hrun : PurgeCall.run site table f (.disk d) w = .error e w := bind_of_error hrun
      rw [after_of_error hrun]
      exact ⟨[], .refl site w, .inr ⟨rfl, e, hrun⟩⟩
    · refine ⟨_, ?_, .inl rfl⟩
      rw [run, after_return]
      exact htraced
  | replicaPath template | replicaName template =>
    refine ⟨[], ?_, .inl rfl⟩
    rw [run, after_return, after_expandFor hs, queries]
    split
    · exact .asking site w _
    · exact .refl site w
  | replica =>
    refine ⟨[], ?_, .inl rfl⟩
    rw [run, after_return, after_dropReplica hs]
    exact .asking site w _
  | dataLink | detachedFlag | removal => simp [removalCalls] at hc

/-! ## What runs of calls do -/

variable {calls done : List PurgeCall} {failing : PurgeCall}

theorem Completed.traced (hs : site.server = .ofAnswers answers)
    (h : Completed site table f calls w v) (hc : ∀ c ∈ calls, c ∉ removalCalls) :
    Traced site w v (calls.flatMap (·.queries site table f)) (calls.flatMap (·.removals site f)) := by
  induction h with
  | nil => exact .refl site _
  | @cons c more w u v hrun _ ih =>
    obtain ⟨hc, hmore⟩ := List.forall_mem_cons.1 hc
    obtain ⟨removed, htraced, rfl | ⟨-, e, hfail⟩⟩ := c.traced_run hs table f hc w
    · rw [after_of_ok hrun] at htraced
      exact htraced.trans (ih hmore)
    · rw [hfail] at hrun
      cases hrun

/-- The call that fails has asked what it asks, and may have run the remover. -/
theorem Interrupted.traced (hs : site.server = .ofAnswers answers)
    (h : Interrupted site table f calls done failing w e w') (hc : ∀ c ∈ calls, c ∉ removalCalls) :
    ∃ removed, Traced site w w' ((done ++ [failing]).flatMap (·.queries site table f)) removed ∧
      (removed = done.flatMap (·.removals site f) ∨
        removed = (done ++ [failing]).flatMap (·.removals site f)) := by
  induction h with
  | @here c rest w w' e hrun =>
    obtain ⟨hc, -⟩ := List.forall_mem_cons.1 hc
    obtain ⟨removed, htraced, hremoved⟩ := c.traced_run hs table f hc w
    rw [after_of_error hrun] at htraced
    refine ⟨removed, by simpa using htraced, ?_⟩
    rcases hremoved with rfl | ⟨rfl, -⟩
    · exact .inr (by simp)
    · exact .inl rfl
  | @later c failing rest done w u w' e hrun _ ih =>
    obtain ⟨hc, hrest⟩ := List.forall_mem_cons.1 hc
    have hfirst : Completed site table f [c] w u := .cons hrun .nil
    have htraced := hfirst.traced hs (by simpa using hc)
    obtain ⟨removed, hlater, hremoved⟩ := ih hrest
    refine ⟨_, by simpa using htraced.trans hlater, ?_⟩
    rcases hremoved with rfl | rfl
    · exact .inl (by simp)
    · exact .inr (by simp)

/-- As long as the catalog file is not removed, nothing is but what the data link and the flag name. -/
theorem Interrupted.removing (h : Interrupted site table f removalCalls done failing v e w') :
    ∃ t, w' = { v with tree := t } ∧ t.here = v.tree.here ∧
      ∀ x, v.tree.Outside (site.layout.dataLink table) x →
        v.tree.Outside (site.layout.detachedFlag table) x → t.get? x = v.tree.get? x := by
  have hlink : ∃ t, after (PurgeCall.dataLink.run site table f) v = { v with tree := t } ∧
      Pruned v.tree t (site.layout.dataLink table) := by
    rw [PurgeCall.run, after_return]
    exact pruned_removePath _ v
  have hflag : ∀ u, ∃ t, after (PurgeCall.detachedFlag.run site table f) u = { u with tree := t } ∧
      Pruned u.tree t (site.layout.detachedFlag table) := by
    intro u
    rw [PurgeCall.run, after_return]
    exact pruned_removePath _ u
  obtain ⟨t₁, hafter₁, hpruned₁⟩ := hlink
  cases h with
  | here hrun =>
    rw [after_of_error hrun] at hafter₁
    exact ⟨t₁, hafter₁, hpruned₁.here, fun x hx _ => hpruned₁.outside x hx⟩
  | later hrun h =>
    rw [after_of_ok hrun] at hafter₁
    subst hafter₁
    obtain ⟨t₂, hafter₂, hpruned₂⟩ := hflag { v with tree := t₁ }
    -- what was outside of the flag is so without the link, too
    have hboth : ∀ x, v.tree.Outside (site.layout.dataLink table) x →
        v.tree.Outside (site.layout.detachedFlag table) x → t₂.get? x = v.tree.get? x :=
      fun x hx hx' => (hpruned₂.outside x (hpruned₁.outside_of hx')).trans (hpruned₁.outside x hx)
    have hhere : t₂.here = v.tree.here := hpruned₂.here.trans hpruned₁.here
    cases h with
    | here hrun =>
      rw [after_of_error hrun] at hafter₂
      exact ⟨t₂, hafter₂, hhere, hboth⟩
    | later hrun h =>
      rw [after_of_ok hrun] at hafter₂
      subst hafter₂
      cases h with
      | here hrun =>
        -- the catalog file is the last thing removed, so failing to remove it leaves it
        rcases error_of_bind hrun with hrun | ⟨_, _, _, hrun⟩
        · exact ⟨t₂, tree_of_removeCatalogFile hrun, hhere, hboth⟩
        · cases hrun
      | later _ h => cases h

/-! ## What is left -/

/-- A place where a purge leaves what is there: the remover changes nothing there, and it is not
inside what the purge removes itself, in the tree `t` that the remover leaves. -/
structure Spared (site : Site) (table : TableName) (t : FileTree) (x : Location) : Prop where
  remover : ∀ before r t, (site.remover.run before r t).2.get? x = t.get? x
  dataLink : t.Outside (site.layout.dataLink table) x
  detachedFlag : t.Outside (site.layout.detachedFlag table) x

/-- What a purge has done on the way from `w` to `w'` that made the calls in `done` and then one that
failed. -/
structure Stopped (site : Site) (table : TableName) (f : PurgeFindings) (done : List PurgeCall)
    (failing : PurgeCall) (removed : List Removal) (w w' : World) : Prop where
  sent : w'.sent = w.sent ++ (done ++ [failing]).flatMap (·.queries site table f)
  removals : w'.removals = w.removals ++ removed
  /-- The call that failed may have failed before it ran the remover. -/
  made : removed = done.flatMap (·.removals site f) ∨
    removed = (done ++ [failing]).flatMap (·.removals site f)
  here : w'.tree.here = (site.remover.leave w.removals removed w.tree).here
  kept : ∀ x, Spared site table (site.remover.leave w.removals removed w.tree) x →
    w'.tree.get? x = w.tree.get? x
  surveying : failing ∈ surveyCalls → removed = [] ∧ w'.tree = w.tree
  /-- A disk that fails is the last one the remover runs for, and no replica is looked up. -/
  emptying : ∀ disk, failing = .disk disk → ∃ earlier later, f.disks = earlier ++ disk :: later ∧
    w'.sent = w.sent ++ [attachedQuery site table, inventoryQuery site, versionQuery site] ∧
    (removed = earlier.map (removalFrom site · f.record.uuid.storePath f.form) ∨
      removed = (earlier ++ [disk]).map (removalFrom site · f.record.uuid.storePath f.form))

theorem Interrupted.mem (h : Interrupted site table f calls done failing w e w') :
    failing ∈ calls := by
  obtain ⟨rest, rfl⟩ := h.eq_append
  simp

/-- A call of the survey that fails ends the purge within the survey. -/
theorem Interrupted.survey (h : Interrupted site table f (purgeCalls f) done failing w e w')
    (hf : failing ∈ surveyCalls) : Interrupted site table f surveyCalls done failing w e w' := by
  rcases h.of_append with h | ⟨_, _, _, _, hmore⟩
  · exact h
  · have hmem := hmore.mem
    unfold replicaCalls at hmem
    simp only [surveyCalls, List.mem_cons, List.not_mem_nil, or_false] at hf
    split at hmem <;> rcases hf with rfl | rfl | rfl | rfl <;> simp [removalCalls] at hmem

theorem Interrupted.untouched (hs : site.server = .ofAnswers answers)
    (h : Interrupted site table f surveyCalls done failing w e w') :
    w'.removals = w.removals ∧ w'.tree = w.tree := by
  obtain ⟨removed, htraced, hmade⟩ := h.traced hs (by simp [surveyCalls, removalCalls])
  have hquiet : ∀ c ∈ surveyCalls, c.removals site f = [] := by
    simp [surveyCalls, PurgeCall.removals]
  obtain ⟨rest, heq⟩ := h.eq_append
  rw [heq, List.forall_mem_append, List.forall_mem_cons] at hquiet
  have hdone : done.flatMap (·.removals site f) = [] := List.flatMap_eq_nil_iff.2 hquiet.1
  obtain rfl : removed = [] := by
    rcases hmade with rfl | rfl
    · exact hdone
    · rw [List.flatMap_append, hdone]
      simpa using hquiet.2.1
  exact ⟨htraced.removals.trans (List.append_nil _), htraced.tree⟩

/-- If a disk fails the disks before it did not. -/
theorem Interrupted.disk {disk : Disk}
    (h : Interrupted site table f (purgeCalls f) done (.disk disk) w e w') :
    ∃ earlier later, f.disks = earlier ++ disk :: later ∧
      done = surveyCalls ++ earlier.map .disk := by
  rcases h.of_append with h | ⟨late, _, rfl, -, hmore⟩
  · have hmem := h.mem
    simp [surveyCalls] at hmem
  rcases hmore.of_append with hdisks | ⟨_, _, _, _, hrest⟩
  · obtain ⟨rest, hrest⟩ := hdisks.eq_append
    obtain ⟨earlier, more, hdisks, hearlier, hmore⟩ := List.map_eq_append_iff.1 hrest
    obtain ⟨d, later, rfl, hd, -⟩ := List.map_eq_cons_iff.1 hmore
    cases hd
    exact ⟨earlier, later, hdisks, by rw [hearlier]⟩
  · have hmem := hrest.mem
    unfold replicaCalls at hmem
    split at hmem <;> simp [removalCalls] at hmem

/-- Everything a purge does but removing files of its own. -/
def frontCalls (f : PurgeFindings) : List PurgeCall :=
  surveyCalls ++ (f.disks.map .disk ++ replicaCalls f.record)

theorem purgeCalls_eq (f : PurgeFindings) : purgeCalls f = frontCalls f ++ removalCalls := by
  simp only [purgeCalls, frontCalls, List.append_assoc]

theorem not_mem_removalCalls : ∀ c ∈ frontCalls f, c ∉ removalCalls := by
  intro c hc hr
  simp only [removalCalls, List.mem_cons, List.not_mem_nil, or_false] at hr
  unfold frontCalls replicaCalls at hc
  split at hc <;> rcases hr with rfl | rfl | rfl <;> simp [surveyCalls] at hc

theorem quiet_of_removal {c : PurgeCall} (h : c ∈ removalCalls) :
    c.queries site table f = [] ∧ c.removals site f = [] := by
  simp only [removalCalls, List.mem_cons, List.not_mem_nil, or_false] at h
  rcases h with rfl | rfl | rfl <;> exact ⟨rfl, rfl⟩

/-- What a purge that fails has sent, what it ran the remover for, and what it left alone. -/
theorem Interrupted.left (hs : site.server = .ofAnswers answers)
    (h : Interrupted site table f (purgeCalls f) done failing w e w') :
    ∃ removed, w'.sent = w.sent ++ (done ++ [failing]).flatMap (·.queries site table f) ∧
      w'.removals = w.removals ++ removed ∧
      (removed = done.flatMap (·.removals site f) ∨
        removed = (done ++ [failing]).flatMap (·.removals site f)) ∧
      w'.tree.here = (site.remover.leave w.removals removed w.tree).here ∧
      ∀ x, Spared site table (site.remover.leave w.removals removed w.tree) x →
        w'.tree.get? x = w.tree.get? x := by
  rw [purgeCalls_eq] at h
  rcases h.of_append with h | ⟨late, v, rfl, hfront, hremoving⟩
  · -- only the remover has changed files
    obtain ⟨removed, htraced, hmade⟩ := h.traced hs not_mem_removalCalls
    refine ⟨removed, htraced.sent, htraced.removals, hmade, by rw [htraced.tree], fun x hx => ?_⟩
    rw [htraced.tree, Remover.get?_leave hx.remover]
  · have htraced := hfront.traced hs not_mem_removalCalls
    obtain ⟨t, rfl, hhere, hkept⟩ := hremoving.removing
    -- the calls that remove files have nothing else on record
    obtain ⟨rest, heq⟩ := hremoving.eq_append
    have hquiet : ∀ c ∈ late ++ [failing],
        c.queries site table f = [] ∧ c.removals site f = [] := by
      intro c hc
      apply quiet_of_removal
      rw [heq, List.append_cons]
      exact List.mem_append_left _ hc
    have hasked : (late ++ [failing]).flatMap (·.queries site table f) = [] :=
      List.flatMap_eq_nil_iff.2 fun c hc => (hquiet c hc).1
    have hran : late.flatMap (·.removals site f) = [] :=
      List.flatMap_eq_nil_iff.2 fun c hc => (hquiet c (List.mem_append_left _ hc)).2
    refine ⟨_, ?_, htraced.removals, .inl ?_, by rw [hhere, htraced.tree], fun x hx => ?_⟩
    · rw [List.append_assoc, List.flatMap_append, hasked, List.append_nil]
      exact htraced.sent
    · rw [List.flatMap_append, hran, List.append_nil]
    · have hx' := hx
      rw [← htraced.tree] at hx'
      rw [hkept x hx'.dataLink hx'.detachedFlag, htraced.tree, Remover.get?_leave hx.remover]

/-- With some disks emptied, the remover ran for these. -/
theorem removals_of_disks (site : Site) (f : PurgeFindings) (disks : List Disk) :
    (surveyCalls ++ disks.map PurgeCall.disk).flatMap (·.removals site f) =
      disks.map (removalFrom site · f.record.uuid.storePath f.form) := by
  simp only [surveyCalls, List.cons_append, List.nil_append, List.flatMap_cons,
    PurgeCall.removals, List.flatMap_map]
  exact List.map_eq_flatMap.symm

/-- What is left by a purge that fails. -/
theorem Interrupted.stopped (hs : site.server = .ofAnswers answers)
    (h : Interrupted site table f (purgeCalls f) done failing w e w') :
    ∃ removed, Stopped site table f done failing removed w w' := by
  obtain ⟨removed, hsent, hremovals, hmade, hhere, hkept⟩ := h.left hs
  refine ⟨removed, hsent, hremovals, hmade, hhere, hkept, fun hf => ?_, ?_⟩
  · obtain ⟨hsame, htree⟩ := (h.survey hf).untouched hs
    rw [hsame] at hremovals
    exact ⟨List.self_eq_append_right.1 hremovals, htree⟩
  · rintro disk rfl
    obtain ⟨earlier, later, hdisks, rfl⟩ := h.disk
    have hasked : (surveyCalls ++ earlier.map PurgeCall.disk ++ [PurgeCall.disk disk]).flatMap
        (·.queries site table f) =
          [attachedQuery site table, inventoryQuery site, versionQuery site] := by
      simp [surveyCalls, PurgeCall.queries, List.flatMap_map]
    have hran := removals_of_disks site f earlier
    rw [hasked] at hsent
    refine ⟨earlier, later, hdisks, hsent, ?_⟩
    rw [hran] at hmade
    rw [List.flatMap_append, hran] at hmade
    rw [List.map_append]
    exact hmade

/-- A purge that fails has made its calls in order, up to the one that failed. Its catalog file is
still there, unless the remover or the purge of the data link or of the flag took it away. And if its path
starts where it did when the remover has run, and leads through nothing that was taken away, it is still
found by its path. -/
theorem purge_failed (settings : Settings)
    (answers : List Sent → Sent → Except ClientError (List Row)) (remover : Remover)
    (table : TableName) {w w' : World} {e : TableError}
    (h : purge ⟨settings, .ofAnswers answers, remover⟩ table w = .error e w') :
    let site : Site := ⟨settings, .ofAnswers answers, remover⟩
    let catalogFile := site.layout.tableFile table
    ∃ f done failing cause removed,
      Interrupted site table f (purgeCalls f) done failing w cause w' ∧ e = cause.named table ∧
      Stopped site table f done failing removed w w' ∧
      (∀ place file, w.tree.locate true catalogFile = .ok place →
        w.tree.get? place = some (.file file) →
        Spared site table (remover.leave w.removals removed w.tree) place →
        w'.tree.get? place = some (.file file)) ∧
      ((remover.leave w.removals removed w.tree).origin catalogFile = w.tree.origin catalogFile →
        ∀ seen n place file,
        w.tree.Leads true (w.tree.origin catalogFile) (steps catalogFile) seen n place →
        w.tree.stat true catalogFile = .ok (.file file) →
        (∀ x ∈ place :: seen, Spared site table (remover.leave w.removals removed w.tree) x) →
        w'.tree.stat true catalogFile = .ok (.file file)) := by
  intro site catalogFile
  obtain ⟨cause, hrun, he⟩ := error_of_adaptExcept h
  obtain ⟨f, done, failing, hinterrupted⟩ := interrupted_attemptPurge hrun
  obtain ⟨removed, hstopped⟩ := hinterrupted.stopped rfl
  refine ⟨f, done, failing, cause, removed, hinterrupted, he, hstopped, ?_, ?_⟩
  · intro place file _ hfile hspared
    rw [hstopped.kept place hspared, hfile]
  · intro horigin seen n place file hroute hfile hspared
    have hstart := (origin_of_here hstopped.here catalogFile).trans horigin
    exact stat_of_same hstart hroute hfile fun x hx => hstopped.kept x (hspared x hx)

/-! ## A disk that fails, and a flag that holds the catalog file -/

/-- A catalog file. -/
def eventsFile : File :=
  ⟨.text "ATTACH TABLE _ UUID '00112233-4455-6677-8899-aabbccddeeff'\nENGINE = Log\n", 0o640, 7, 7⟩

/-- A server of one disk, with its files under `/srv`, and a remover that only ends with an exit
code. -/
def eventsSite (exitCode : Int) : Site where
  settings := { paths := { root := "/srv" } }
  server := .ofAnswers fun _ s => .ok <|
    if s.query.sql.contains "system.disks" then
      [[("name", .string "default"), ("type", .string "local")]]
    else if s.query.sql.contains "version()" then [[("version", .string "24.8.1")]]
    else []
  remover := { name := "disks", run := fun _ _ t => (.ok ⟨some exitCode, []⟩, t) }

/-- A detached table with its link and its flag. -/
def detachedTree : FileTree where
  entries :=
    [(["srv"], .directory), (["srv", "metadata"], .directory), (["srv", "metadata", "db"], .directory),
      (["srv", "metadata", "db", "events.sql"], .file eventsFile),
      (["srv", "metadata", "db", "events.sql.detached"], .file ⟨.text [], 0o640, 7, 7⟩),
      (["srv", "data"], .directory), (["srv", "data", "db"], .directory),
      (["srv", "data", "db", "events"], .link "/srv/store")]

/-- A catalog file inside its own flag, and a database that is found through the flag. -/
def loopedTree : FileTree where
  entries :=
    [(["srv"], .directory), (["srv", "metadata"], .directory), (["srv", "metadata", "x"], .directory),
      (["srv", "metadata", "x", "events.sql.detached"], .directory),
      (["srv", "metadata", "x", "events.sql.detached", "cat.sql"], .file eventsFile),
      (["srv", "metadata", "x", "events.sql"], .link "events.sql.detached/cat.sql"),
      (["srv", "metadata", "db"], .link "x/events.sql.detached/..")]

/-- Whether a purge fails with such an error and leaves this at a place. -/
def failsLeaving (kind : ErrorKind) (x : Location) (left : Option Node) :
    EStateM.Result TableError World PurgeReport → Bool
  | .ok _ _ => false
  | .error e w => e.kind = kind ∧ w.tree.get? x = left

theorem exists_of_failsLeaving {kind : ErrorKind} {x : Location} {left : Option Node}
    {r : EStateM.Result TableError World PurgeReport} (h : failsLeaving kind x left r = true) :
    ∃ e w, r = .error e w ∧ e.kind = kind ∧ w.tree.get? x = left := by
  cases r with
  | ok => cases h
  | error e w =>
    obtain ⟨hkind, hleft⟩ := of_decide_eq_true h
    exact ⟨e, w, rfl, hkind, hleft⟩

/-- Where the remover fails, the catalog file is still there. -/
theorem purge_failed_disk :
    let site := eventsSite 36
    let place : Location := ["srv", "metadata", "db", "events.sql"]
    ∃ e w', purge site ⟨"db", "events"⟩ { tree := detachedTree } = .error e w' ∧
      e.kind = .externalTool ∧ w'.tree.get? place = some (.file eventsFile) := by
  intro site place
  have hrun : failsLeaving .externalTool ["srv", "data", "db", "events"] (some (.link "/srv/store"))
      (purge site ⟨"db", "events"⟩ { tree := detachedTree }) = true := by
    decide +kernel
  have hspared : ∀ runs,
      Spared site ⟨"db", "events"⟩ (site.remover.leave [] runs detachedTree) place := by
    intro runs
    rw [Remover.leave_of_idle fun _ _ _ => rfl]
    exact ⟨fun _ _ _ => rfl, by decide +kernel, by decide +kernel⟩
  obtain ⟨e, w', h, hkind, -⟩ := exists_of_failsLeaving hrun
  obtain ⟨f, done, failing, cause, removed, -, -, -, hfile, -⟩ := purge_failed _ _ _ _ h
  exact ⟨e, w', h, hkind, hfile place eventsFile (by decide +kernel) (by decide +kernel)
    (hspared removed)⟩

/-- A catalog file inside its own flag is lost when the purge fails behind the flag. -/
theorem purge_loses_catalogFile :
    let site := eventsSite 0
    let place : Location := ["srv", "metadata", "x", "events.sql.detached", "cat.sql"]
    (∀ before r t, (site.remover.run before r t).2 = t) ∧
    loopedTree.Outside (site.layout.dataLink ⟨"db", "events"⟩) place ∧
    loopedTree.locate true (site.layout.tableFile ⟨"db", "events"⟩) = .ok place ∧
    loopedTree.get? place = some (.file eventsFile) ∧
    ∃ e w', purge site ⟨"db", "events"⟩ { tree := loopedTree } = .error e w' ∧
      w'.tree.get? place = none := by
  intro site place
  have hrun : failsLeaving .io place none
      (purge site ⟨"db", "events"⟩ { tree := loopedTree }) = true := by
    decide +kernel
  obtain ⟨e, w', h, -, hgone⟩ := exists_of_failsLeaving hrun
  exact ⟨fun _ _ _ => rfl, by decide +kernel, by decide +kernel, by decide +kernel, e, w', h, hgone⟩

end CatalogAdmin
