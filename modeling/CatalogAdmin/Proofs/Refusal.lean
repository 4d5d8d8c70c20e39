import CatalogAdmin.Proofs.Purge.Failure
import CatalogAdmin.Proofs.Session.Errors
import CatalogAdmin.Proofs.UuidChange.Failure

/-!
# Requests that are refused

A request is refused where a condition on it does not hold, and a refused request should have changed
nothing. A change of UUID is only refused in validation, so it keeps to that. A purge is refused for
the table, but also for a path that cannot be seen on a disk, and this is looked at disk by disk: what
the disks before it held is gone by then.

Results:
1. `PurgeCall.neverRefuses`: of the calls of a purge only the presence query, the look at the catalog
   file and the disks refuse.
2. `Interrupted.refused`, `Course.refused`: what a refused request has done.
3. `refused_requests`: both, for every run.
-/

namespace CatalogAdmin

open Session

/-! ## Operations that never refuse -/

/-- An operation that fails for other reasons than a condition on the request. -/
def NeverRefuses {α : Type} (x : Session α) : Prop :=
  ∀ w e w', x w = .error e w' → e.kind ≠ .validation

theorem NeverRefuses.of_plain {α : Type} {x : Session α} (h : FailsAs TableError.Plain x) :
    NeverRefuses x :=
  fun w e w' hrun => (h w e w' hrun).notRefused

/-! ## The calls of a purge -/

variable {answers : List Sent → Sent → Except ClientError (List Row)} {site : Site}
  {table : TableName} {f : PurgeFindings} {done : List PurgeCall} {failing : PurgeCall}
  {w v w' : World} {e : TableError}

/-- The calls that may refuse. -/
def PurgeCall.MayRefuse : PurgeCall → Prop
  | .presence => True
  | .catalogFile => True
  | .disk _ => True
  | _ => False

theorem PurgeCall.neverRefuses {c : PurgeCall} (hc : ¬ c.MayRefuse) :
    NeverRefuses (c.run site table f) := by
  have returning : ∀ {α : Type} {x : Session α} (g : α → PurgeFindings),
      FailsAs TableError.Plain x → NeverRefuses (do let a ← x; return g a) := fun _ hx =>
    .of_plain (hx.bind fun _ => .pure _)
  cases c with
  | presence | catalogFile | disk d => exact absurd trivial hc
  | inventory => exact returning _ (plain_listDisks site)
  | version => exact returning _ (plain_commandForm site)
  | replicaPath template => exact returning _ (plain_expandFor site template table _)
  | replicaName template => exact returning _ (plain_expandFor site template table _)
  | replica => exact returning _ (plain_dropReplica site _)
  | dataLink => exact returning _ (plain_removePath _)
  | detachedFlag => exact returning _ (plain_removePath _)
  | removal => exact returning _ plain_io

/-- Where the outcome of the remover is only looked at, it is the remover itself that refuses. -/
theorem remove_refused {r : Removal} {g : RemovalOutcome → Session Unit}
    (hg : ∀ outcome, NeverRefuses (g outcome))
    (h : (remove site.remover r >>= g) w = .error e w') (hk : e.kind = .validation) :
    (site.remover.run w.removals r w.tree).1 = .error e := by
  rcases error_of_bind h with hremove | ⟨outcome, v, -, houtcome⟩
  · unfold remove at hremove
    cases hrun : site.remover.run w.removals r w.tree with
    | mk outcome tree =>
      rw [hrun] at hremove
      cases outcome with
      | ok o => cases hremove
      | error cause => cases hremove; rfl
  · exact absurd hk (hg outcome v e w' houtcome)

/-- A disk is refused before the remover runs, because a path cannot be seen on it, unless it is the
remover that refuses. -/
theorem removeFromDisk_refused {disk : Disk} {path : Text} {form : CommandForm}
    (h : removeFromDisk site disk path form w = .error e w') (hk : e.kind = .validation) :
    (site.settings.disks.lenient = false ∧ w' = w ∧
      w.tree.isPresent (site.settings.paths.visiblePath disk path) = .ok false ∧
      e = .validation (.pathNotVisible disk.name (site.settings.paths.visiblePath disk path))) ∨
    (site.remover.run w.removals (removalFrom site disk path form) w.tree).1 = .error e := by
  have houtcome : ∀ outcome : RemovalOutcome, NeverRefuses (if !outcome.succeeded then
      throw (.externalTool site.remover.name disk.name path outcome.exitCode
        (Text.decodeLossy outcome.stderr).trim) else pure () : Session Unit) := by
    intro outcome
    refine .of_plain ?_
    split
    · exact .throw ⟨rfl, nofun⟩
    · exact .pure _
  unfold removeFromDisk at h
  cases hpresent : w.tree.isPresent (site.settings.paths.visiblePath disk path) with
  | error cause =>
    rw [bind_of_error (adaptExcept_of_error (look_of_error hpresent))] at h
    cases h
    cases hk
  | ok present =>
    rw [bind_of_ok (adaptExcept_of_ok (look_of_ok hpresent))] at h
    cases present with
    | true => exact .inr (remove_refused houtcome h hk)
    | false =>
      cases hlenient : site.settings.disks.lenient with
      | true =>
        simp only [hlenient, Bool.not_false, Bool.not_true, Bool.false_eq_true, if_true, if_false] at h
        rw [bind_of_ok (tell_eq _)] at h
        have hrefused := remove_refused houtcome h hk
        exact .inr hrefused
      | false =>
        simp only [hlenient] at h
        cases h
        exact .inl ⟨rfl, rfl, rfl, rfl⟩

/-! ## What a refused request has done -/

/-- On the way from `w` to `w'` the server was only asked. -/
def OnlyAsked (w w' : World) : Prop :=
  ∃ asked : List Sent, w'.sent = w.sent ++ asked ∧
    ∀ s ∈ asked, s.query.sql.startsWith "SELECT" = true

/-- The runs of the remover that remove the data of a table from some disks. -/
def removalsFrom (site : Site) (record : Catalog.Record) (form : CommandForm) (disks : List Disk) :
    List Removal :=
  disks.map (removalFrom site · record.uuid.storePath form)

/-- What a purge that was refused with this error has done besides asking: nothing; or it has emptied
the disks before one on which a path cannot be seen; or it was the remover that refused. -/
inductive RefusedPurge (site : Site) (table : TableName) (w w' : World) : TableError → Prop
  | untouched {e : TableError} :
      w'.removals = w.removals → w'.tree = w.tree → RefusedPurge site table w w' e
  | behind {record : Catalog.Record} {form : CommandForm} {earlier : List Disk} {disk : Disk}
      {visible : Path} :
      site.settings.disks.lenient = false → earlier ≠ [] →
      visible = site.settings.paths.visiblePath disk record.uuid.storePath →
      w'.tree.isPresent visible = .ok false →
      w'.removals = w.removals ++ removalsFrom site record form earlier →
      w'.tree = site.remover.leave w.removals (removalsFrom site record form earlier) w.tree →
      RefusedPurge site table w w'
        ((TableError.validation (.pathNotVisible disk.name visible)).named table)
  | remover {r : Removal} {before : List Removal} {t : FileTree} {cause : TableError} :
      (site.remover.run before r t).1 = .error cause → cause.kind = .validation →
      RefusedPurge site table w w' (cause.named table)

/-- The calls that survey a table only ask. -/
theorem queries_select {c : PurgeCall} (hc : c ∈ surveyCalls) :
    ∀ s ∈ c.queries site table f, s.query.sql.startsWith "SELECT" = true := by
  have select : ∀ {s : Sent}, ("SELECT" : Text) <+: s.query.sql →
      ∀ x ∈ [s], x.query.sql.startsWith "SELECT" = true := by
    intro s hs x hx
    rw [List.mem_singleton.1 hx]
    exact Text.startsWith_iff.2 hs
  simp only [surveyCalls, List.mem_cons, List.not_mem_nil, or_false] at hc
  rcases hc with rfl | rfl | rfl | rfl
  · exact select ⟨_, rfl⟩
  · exact fun s hs => absurd hs List.not_mem_nil
  · exact select ⟨_, rfl⟩
  · exact select ⟨_, rfl⟩

theorem Interrupted.refused_survey (hs : site.server = .ofAnswers answers)
    (h : Interrupted site table f (purgeCalls f) done failing w e w') (hf : failing ∈ surveyCalls) :
    OnlyAsked w w' ∧ w'.removals = w.removals ∧ w'.tree = w.tree := by
  have hsurvey := h.survey hf
  obtain ⟨removed, hstopped⟩ := h.stopped hs
  obtain ⟨hremovals, htree⟩ := hsurvey.untouched hs
  refine ⟨⟨_, hstopped.sent, ?_⟩, hremovals, htree⟩
  intro s hsent
  obtain ⟨c, hc, hquery⟩ := List.mem_flatMap.1 hsent
  obtain ⟨rest, hcalls⟩ := hsurvey.eq_append
  have hmem : c ∈ surveyCalls := by
    rw [hcalls, List.append_cons]
    exact List.mem_append_left _ hc
  exact queries_select hmem s hquery

theorem Interrupted.refused_disk (hs : site.server = .ofAnswers answers) {disk : Disk}
    (h : Interrupted site table f (purgeCalls f) done (.disk disk) w e w')
    (hk : e.kind = .validation) :
    OnlyAsked w w' ∧ RefusedPurge site table w w' (e.named table) := by
  obtain ⟨removed, hstopped⟩ := h.stopped hs
  obtain ⟨-, -, -, hsent, -⟩ := hstopped.emptying disk rfl
  refine ⟨⟨_, hsent, ?_⟩, ?_⟩
  · intro s hs
    have hasked : s ∈ surveyCalls.flatMap (·.queries site table f) := by
      simpa [surveyCalls, PurgeCall.queries] using hs
    obtain ⟨c, hc, hquery⟩ := List.mem_flatMap.1 hasked
    exact queries_select hc s hquery
  obtain ⟨v, hdone, hrun⟩ := h.completed
  obtain ⟨earlier, later, hdisks, rfl⟩ := h.disk
  have hfront : ∀ c ∈ surveyCalls ++ earlier.map PurgeCall.disk, c ∉ removalCalls := by
    intro c hc
    have hmem : c ∈ frontCalls f := by
      rw [frontCalls, hdisks, List.map_append, List.append_assoc, ← List.append_assoc]
      exact List.mem_append_left _ hc
    exact not_mem_removalCalls c hmem
  have htraced := hdone.traced hs hfront
  rw [removals_of_disks] at htraced
  rcases error_of_bind hrun with hrun | ⟨_, _, _, hrun⟩
  · rcases removeFromDisk_refused hrun hk with ⟨hstrict, rfl, hpresent, rfl⟩ | hremover
    · cases earlier with
      | nil => exact .untouched (htraced.removals.trans (List.append_nil _)) htraced.tree
      | cons first more =>
        exact .behind hstrict (List.cons_ne_nil first more) rfl hpresent htraced.removals htraced.tree
    · exact .remover hremover hk
  · cases hrun

/-- A purge that is refused has only asked, and has touched nothing but disks before the one that was
refused. -/
theorem Interrupted.refused (hs : site.server = .ofAnswers answers)
    (h : Interrupted site table f (purgeCalls f) done failing w e w') (hk : e.kind = .validation) :
    OnlyAsked w w' ∧ RefusedPurge site table w w' (e.named table) := by
  obtain ⟨v, -, hrun⟩ := h.completed
  have hmay : failing.MayRefuse := Classical.byContradiction fun hnot =>
    PurgeCall.neverRefuses hnot v e w' hrun hk
  cases failing with
  | presence | catalogFile =>
    obtain ⟨hasked, hremovals, htree⟩ := h.refused_survey hs (by decide)
    exact ⟨hasked, .untouched hremovals htree⟩
  | disk disk => exact h.refused_disk hs hk
  | inventory | version | replicaPath | replicaName | replica | dataLink | detachedFlag | removal =>
    cases hmay

/-- A change of UUID that is refused has only asked. -/
theorem Course.refused (hs : site.server = .ofAnswers answers) {newUuid : Uuid}
    {failure : UuidChangeFailure} (h : Course site table newUuid w (.error failure v))
    (hk : failure.error.kind = .validation) :
    OnlyAsked w v ∧ v.removals = w.removals ∧ v.tree = w.tree := by
  cases h with
  | unanswered hinfo =>
    obtain ⟨asked, rfl, hasked⟩ := (selects_tableInfo? hs table).error hinfo
    exact ⟨⟨asked, rfl, hasked⟩, rfl, rfl⟩
  | invalid hinfo hvalid =>
    obtain ⟨asked, rfl, hasked⟩ := ((selects_tableInfo? hs table).ok hinfo).trans
      ((selects_validateUuidChange hs table _ newUuid).error hvalid)
    exact ⟨⟨asked, rfl, hasked⟩, rfl, rfl⟩
  -- behind validation nothing refuses
  | notDetached _ _ hdetach => exact absurd hk (plain_asTask _ _ _ _ _ hdetach).notRefused
  | @notChanged _ _ e _ _ _ _ => cases e <;> cases hk
  | notRelocated _ _ _ => cases hk

/-- A refused request has only asked, and a refused change of UUID has touched nothing. A refused purge
has touched nothing but the disks before one on which a path cannot be seen, and these only if such
paths are refused. -/
theorem refused_requests (settings : Settings)
    (answers : List Sent → Sent → Except ClientError (List Row)) (remover : Remover)
    (table : TableName) :
    let site : Site := ⟨settings, .ofAnswers answers, remover⟩
    (∀ newUuid w e w', changeUuid site table newUuid w = .error e w' → e.kind = .validation →
      OnlyAsked w w' ∧ w'.removals = w.removals ∧ w'.tree = w.tree) ∧
    ∀ w e w', purge site table w = .error e w' → e.kind = .validation →
      OnlyAsked w w' ∧ RefusedPurge site table w w' e := by
  intro site
  refine ⟨?_, ?_⟩
  · intro newUuid w e w' h hk
    obtain ⟨failure, v, hrun, rfl, rfl⟩ := exists_of_changeUuid_error h
    have hcourse := course_attemptUuidChange site table newUuid w
    rw [hrun] at hcourse
    rw [TableError.kind_named] at hk
    have hrefused := hcourse.refused rfl hk
    exact hrefused
  · intro w e w' h hk
    obtain ⟨cause, hrun, rfl⟩ := error_of_adaptExcept h
    rw [TableError.kind_named] at hk
    obtain ⟨f, done, failing, hinterrupted⟩ := interrupted_attemptPurge hrun
    exact hinterrupted.refused rfl hk

/-- A program of the host that is run as the remover refuses nothing itself. -/
theorem Host.remover_neverRefuses (host : Host) (disks : DiskSettings) {before : List Removal}
    {r : Removal} {t : FileTree} {cause : TableError}
    (h : ((host.remover disks).run before r t).1 = .error cause) : cause.kind ≠ .validation :=
  (host.plain_remover disks h).notRefused

/-! ## A path that cannot be seen on the second disk -/

/-- A server of two disks that has no table attached, with its files under `/srv`. Paths that cannot be
seen are refused, and the remover empties the store. -/
def strictSite : Site where
  settings :=
    { paths := { root := "/srv", objectStorage := "/srv/disks/object_storage" },
      disks := { lenient := false } }
  server := .ofAnswers fun _ s => .ok <|
    if s.query.sql.contains "system.disks" then
      [[("name", .string "default"), ("type", .string "local")],
        [("name", .string "s3"), ("type", .string "s3")]]
    else if s.query.sql.contains "version()" then [[("version", .string "24.8.1")]]
    else []
  remover := { name := "disks", run := fun _ _ t => (.ok ⟨some 0, []⟩, t.erase ["srv", "store"]) }

/-- A detached table with data on the first disk. -/
def storedTree : FileTree where
  entries :=
    [(["srv"], .directory), (["srv", "metadata"], .directory), (["srv", "metadata", "db"], .directory),
      (["srv", "metadata", "db", "events.sql"], .file eventsFile),
      (["srv", "store"], .directory), (["srv", "store", "001"], .directory),
      (["srv", "store", "001", "00112233-4455-6677-8899-aabbccddeeff"], .directory)]

theorem strictSite_refuses :
    failsLeaving .validation ["srv", "store", "001", "00112233-4455-6677-8899-aabbccddeeff"] none
      (purge strictSite ⟨"db", "events"⟩ { tree := storedTree }) = true := by
  decide +kernel

/-- A change to the UUID that a table has is refused, and so is the purge; both have only asked before
that. -/
theorem refused_requests_strict :
    (∃ e w', changeUuid occupiedSite ⟨"db", "t"⟩ (Uuid.constant 0) { tree := occupiedTree } =
        .error e w' ∧ e.kind = .validation ∧ OnlyAsked { tree := occupiedTree } w' ∧
      w'.removals = [] ∧ w'.tree = occupiedTree) ∧
    ∃ e w', purge strictSite ⟨"db", "events"⟩ { tree := storedTree } = .error e w' ∧
      e.kind = .validation ∧ OnlyAsked { tree := storedTree } w' ∧
      RefusedPurge strictSite ⟨"db", "events"⟩ { tree := storedTree } w' e := by
  refine ⟨?_, ?_⟩
  · have hrun : failsWith (fun e _ => e.kind = .validation) (changeUuid occupiedSite ⟨"db", "t"⟩
        (Uuid.constant 0) { tree := occupiedTree }) = true := by
      decide +kernel
    obtain ⟨e, w', h, hend⟩ := exists_of_failsWith hrun
    have hkind := of_decide_eq_true hend
    obtain ⟨hchange, -⟩ := refused_requests occupiedSite.settings attachedAnswers
      occupiedSite.remover ⟨"db", "t"⟩
    obtain ⟨hasked, hremovals, htree⟩ := hchange _ _ _ _ h hkind
    exact ⟨e, w', h, hkind, hasked, hremovals, htree⟩
  · obtain ⟨e, w', h, hkind, -⟩ := exists_of_failsLeaving strictSite_refuses
    obtain ⟨-, hpurge⟩ := refused_requests strictSite.settings _ strictSite.remover ⟨"db", "events"⟩
    obtain ⟨hasked, hrefused⟩ := hpurge _ _ _ h hkind
    exact ⟨e, w', h, hkind, hasked, hrefused⟩

/-- A refusal may come late: the data of the first disk is gone when the second one is refused. -/
theorem refused_purge_empties_disk :
    let store : Location := ["srv", "store", "001", "00112233-4455-6677-8899-aabbccddeeff"]
    ∃ e w', purge strictSite ⟨"db", "events"⟩ { tree := storedTree } = .error e w' ∧
      e.kind = .validation ∧ storedTree.get? store = some .directory ∧ w'.tree.get? store = none := by
  intro store
  obtain ⟨e, w', h, hkind, hgone⟩ := exists_of_failsLeaving strictSite_refuses
  exact ⟨e, w', h, hkind, by decide, hgone⟩

end CatalogAdmin
