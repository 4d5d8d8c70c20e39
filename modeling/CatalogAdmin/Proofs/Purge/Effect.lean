import CatalogAdmin.Proofs.Disk.Classification
import CatalogAdmin.Proofs.FileTree.Losses
import CatalogAdmin.Proofs.Layout.Names
import CatalogAdmin.Proofs.Purge.Failure
import CatalogAdmin.Proofs.Server.Statements
import Mathlib.Data.List.Forall2

/-!
# What a purge does

A purge that ends well has done all that it has to do, and nothing else. `Purged` is the whole of it:
what the server was asked and said, what the remover was run for, and which places of the tree that the
remover left are empty now. The statements sent and the command lines run are spelled out
(`PresenceQuery`, `RunOn`, `ReplicaDropped`).

The stages of a purge are taken one by one, each with what it found: the survey (`surveyed_of_ok`), the
disks (`traced_removeFromDisks`), the replica (`replicaDropped_of_ok`) and the files (`emptied_of_ok`).
What one of the three removals took away is still gone after those behind it, as nothing appears where
something is removed. The flag is looked at when the link is gone already, and still tells what was there
before: the catalog file beside it would be gone with it, and the purge would fail (`flag_missing`).
-/

namespace CatalogAdmin

open Session FileTree

variable {answers : List Sent → Sent → Except ClientError (List Row)} {site : Site}
  {table : TableName} {w v w' : World}

/-! ## The survey -/

/-- A query for the row of a table that is attached. The names of the table are values of placeholders,
and no part of the statement. -/
structure PresenceQuery (site : Site) (table : TableName) (q : Query) : Prop where
  sql : q.sql = "SELECT 1 FROM system.tables WHERE database = \x7bdatabase:String\x7d AND name = "
    ++ "\x7btable:String\x7d"
  database : q.parameter? "database" = some table.database
  table : q.parameter? "table" = some table.table
  timeout : q.timeout = some site.settings.server.timeouts.query

theorem presenceQuery_attachedQuery (site : Site) (table : TableName) :
    PresenceQuery site table (attachedQuery site table).query where
  sql := by
    show "SELECT 1 FROM system.tables " ++ tableCondition = _
    decide +kernel
  database := rfl
  table := rfl
  timeout := rfl

/-- On the way from `w` to `w'` the server listed its disks. -/
def Listed (answers : List Sent → Sent → Except ClientError (List Row)) (site : Site)
    (w w' : World) (inventory : List (Text × Text)) : Prop :=
  ∃ rows, World.Got answers w w' (inventoryQuery site) rows ∧ rows.mapM diskOf? = some inventory

/-- On the way from `w` to `w'` the server reported its version. -/
def Versioned (answers : List Sent → Sent → Except ClientError (List Row)) (site : Site)
    (w w' : World) (version : Version) : Prop :=
  ∃ rows written more, World.Got answers w w' (versionQuery site) rows ∧
    rows.mapM (Row.text? · "version") = some (written :: more) ∧
    Version.parse? written = some version

section Extend

variable {w₁ w₂ : World} {before after : List Sent} {inventory : List (Text × Text)} {version : Version}

theorem Listed.extend (h : Listed answers site w₁ w₂ inventory) (hb : w₁.sent = w.sent ++ before)
    (ha : w'.sent = w₂.sent ++ after) : Listed answers site w w' inventory := by
  obtain ⟨rows, hgot, hread⟩ := h
  exact ⟨rows, hgot.extend hb ha, hread⟩

theorem Versioned.extend (h : Versioned answers site w₁ w₂ version) (hb : w₁.sent = w.sent ++ before)
    (ha : w'.sent = w₂.sent ++ after) : Versioned answers site w w' version := by
  obtain ⟨rows, written, more, hgot, hread, hparse⟩ := h
  exact ⟨rows, written, more, hgot.extend hb ha, hread, hparse⟩

end Extend

namespace Session

/-- Where a table was found not to be attached, the server had no row for it. -/
theorem detached_of_ok (hs : site.server = .ofAnswers answers)
    (h : checkDetached site table w = .ok () v) :
    v = w.asking (attachedQuery site table) ∧
      answers w.sent (attachedQuery site table) = .ok [] := by
  refine ⟨?_, ?_⟩
  · rw [← after_of_ok h, after_checkDetached hs]
  obtain ⟨attached, v₁, hrows, hcheck⟩ := ok_of_bind h
  obtain ⟨rows, v₂, hsend, hend⟩ := ok_of_bind hrows
  replace hsend : send site.server (attachedQuery site table) w = .ok rows v₂ :=
    ok_of_adaptExcept hsend
  cases hend
  rw [hs, send_ofAnswers] at hsend
  cases ha : answers w.sent (attachedQuery site table) with
  | error e => rw [ha] at hsend; cases hsend
  | ok found =>
    rw [ha] at hsend
    cases hsend
    cases rows with
    | nil => rfl
    | cons => cases hcheck

/-- The record of a detached table is read, and nothing else is done. -/
theorem read_of_ok {record : Catalog.Record} (h : detachedRecord site table w = .ok record v) :
    v = w ∧ Catalog.readRecord w.tree (site.layout.tableFile table) = .ok record := by
  refine ⟨((silent_detachedRecord site table).ok h).symm, ?_⟩
  obtain ⟨present, v₁, hpresent, hread⟩ := ok_of_bind h
  have hsame : w = v₁ :=
    ((Keeps.look Eq.refl (FileTree.isPresent · (site.layout.tableFile table))).adaptExcept _).ok
      hpresent
  obtain ⟨-, hread⟩ := ok_of_check hread
  have hlook := ok_of_adaptExcept hread
  rw [hsame]
  cases hfound : Catalog.readRecord v₁.tree (site.layout.tableFile table) with
  | error e => rw [look_of_error hfound] at hlook; cases hlook
  | ok found => rw [look_of_ok hfound] at hlook; cases hlook; rfl

/-- The disks that data is removed from are those of the inventory that are not excluded. -/
theorem listed_of_ok (hs : site.server = .ofAnswers answers) {disks : List Disk}
    (h : listDisks site w = .ok disks v) :
    v = w.asking (inventoryQuery site) ∧
      ∃ inventory, Listed answers site w v inventory ∧ disks = includedDisks site inventory := by
  refine ⟨?_, ?_⟩
  · rw [← after_of_ok h, after_listDisks hs]
  obtain ⟨inventory, v₁, hrows, hdisks⟩ := ok_of_bind h
  obtain ⟨rows, hgot, hread⟩ := got_of_asTask_fetchAs answers hs hrows
  cases hclassify : classify (inventory.filter fun row =>
      !site.settings.disks.excluded.contains row.1) with
  | error clash => rw [hclassify] at hdisks; cases hdisks
  | ok found =>
    rw [hclassify] at hdisks
    cases hdisks
    exact ⟨inventory, ⟨rows, hgot, hread⟩, classify_of_ok hclassify⟩

/-- The form of the command is that of the version reported. -/
theorem versioned_of_ok (hs : site.server = .ofAnswers answers) {form : CommandForm}
    (h : commandForm site w = .ok form v) :
    v = w.asking (versionQuery site) ∧
      ∃ version, Versioned answers site w v version ∧ form = .ofVersion version := by
  refine ⟨?_, ?_⟩
  · rw [← after_of_ok h, after_commandForm hs]
  obtain ⟨version, v₁, hversion, hform⟩ := ok_of_bind h
  cases hform
  obtain ⟨written, v₂, hrows, hparse⟩ := ok_of_bind (ok_of_adaptExcept hversion)
  have htask : asTask .readingVersion (fetchAs site.server _ _) w = .ok written v₂ :=
    adaptExcept_of_ok hrows
  obtain ⟨rows, hgot, hread⟩ := got_of_asTask_fetchAs answers hs htask
  cases written with
  | nil => cases hparse
  | cons first more =>
    cases hfirst : Version.parse? first with
    | none => simp only [hfirst] at hparse; cases hparse
    | some found =>
      simp only [hfirst] at hparse
      cases hparse
      exact ⟨version, ⟨rows, first, more, hgot, hread, hfirst⟩, rfl⟩

/-- A survey asks three queries, and does nothing else. What it found it was told, also on the way to any
later world. -/
theorem surveyed_of_ok (hs : site.server = .ofAnswers answers) {record : Catalog.Record}
    {disks : List Disk} {form : CommandForm} (h : survey site table w = .ok (record, disks, form) v) :
    v = { w with sent := w.sent ++ [attachedQuery site table, inventoryQuery site, versionQuery site] } ∧
      Catalog.readRecord w.tree (site.layout.tableFile table) = .ok record ∧
      ∃ inventory version, disks = includedDisks site inventory ∧ form = .ofVersion version ∧
        ∀ w' later, w'.sent = v.sent ++ later → World.Got answers w w' (attachedQuery site table) [] ∧
          Listed answers site w w' inventory ∧ Versioned answers site w w' version := by
  obtain ⟨_, v₁, hpresence, h⟩ := ok_of_bind h
  obtain ⟨_, v₂, hrecord, h⟩ := ok_of_bind h
  obtain ⟨_, v₃, hdisks, h⟩ := ok_of_bind h
  obtain ⟨_, v₄, hform, h⟩ := ok_of_bind h
  cases h
  obtain ⟨rfl, habsent⟩ := detached_of_ok hs hpresence
  obtain ⟨rfl, hread⟩ := read_of_ok hrecord
  obtain ⟨rfl, inventory, hlisted, rfl⟩ := listed_of_ok hs hdisks
  obtain ⟨rfl, version, hversioned, rfl⟩ := versioned_of_ok hs hform
  refine ⟨by simp [World.asking], hread, inventory, version, rfl, rfl, fun w' later hlater => ⟨?_, ?_, ?_⟩⟩
  -- of the three queries, some were sent before and the others after
  · have hafter : w'.sent = (w.asking (attachedQuery site table)).sent ++
        (inventoryQuery site :: versionQuery site :: later) := by
      simp [hlater, World.asking]
    exact (World.Got.asking habsent).extend (List.append_nil _).symm hafter
  · have hafter : w'.sent = ((w.asking (attachedQuery site table)).asking (inventoryQuery site)).sent ++
        (versionQuery site :: later) := by
      simp [hlater, World.asking]
    exact hlisted.extend rfl hafter
  · have hbefore : ((w.asking (attachedQuery site table)).asking (inventoryQuery site)).sent =
        w.sent ++ [attachedQuery site table, inventoryQuery site] := by
      simp [World.asking]
    exact hversioned.extend hbefore hlater

/-- The remover runs once for each disk, and nothing is sent. -/
theorem traced_removeFromDisks (hs : site.server = .ofAnswers answers) (table : TableName)
    {uuid : Uuid} {form : CommandForm} {disks : List Disk}
    (h : removeFromDisks site uuid.storePath form disks w = .ok () v) :
    Traced site w v [] (disks.map (removalFrom site · uuid.storePath form)) := by
  -- all that a call for a disk needs of the findings is the UUID and the form
  let f : PurgeFindings :=
    { record := ⟨.table, uuid, [], .plain⟩, disks, form, root := [], name := [] }
  have hcompleted : Completed site table f (disks.map .disk) w v := completed_removeFromDisks h
  have htraced := hcompleted.traced hs (by simp [removalCalls])
  simp only [List.flatMap_map, PurgeCall.queries, PurgeCall.removals] at htraced
  rwa [List.flatMap_eq_nil_iff.2 (fun _ _ => rfl), ← List.map_eq_flatMap] at htraced

end Session

/-! ## The disks -/

/-- The run of the remover that removes the data of a table from a disk of the inventory: the path by the
table's UUID, the configuration that the settings have for the disk or else the default one, and the
command line that goes with the server's version. -/
structure RunOn (settings : DiskSettings) (uuid : Uuid) (version : Version) (listed : Text × Text)
    (r : Removal) : Prop where
  disk : r.disk = listed.1
  path : r.path = "store/" ++ uuid.text.take 3 ++ '/' :: uuid.text
  ownConfig : ∀ config, settings.configOverrides.lookup listed.1 = some config → r.config = config
  defaultConfig : settings.configOverrides.lookup listed.1 = none → r.config = settings.config
  form : r.form = .query ↔ 24 < version.major ∨ version.major = 24 ∧ 7 ≤ version.minor
  arguments : r.arguments = ("-C" :: r.config.text :: "--disk" :: listed.1 ::
    if 24 < version.major ∨ version.major = 24 ∧ 7 ≤ version.minor then
      ["--query", "remove -r " ++ r.path]
    else ["remove", r.path] : List Text)

theorem CommandForm.ofVersion_eq (v : Version) :
    ofVersion v = if 24 < v.major ∨ v.major = 24 ∧ 7 ≤ v.minor then .query else .positional := by
  simp [ofVersion, Version.atLeast]

theorem runOn_removalFrom (site : Site) (uuid : Uuid) (version : Version) (listed : Text × Text) :
    RunOn site.settings.disks uuid version listed
      (removalFrom site ⟨listed.1, listed.2, .ofType listed.2⟩ uuid.storePath (.ofVersion version)) where
  disk := rfl
  path := rfl
  ownConfig := fun config hown => by rw [removalFrom, DiskSettings.configFor, hown, Option.getD_some]
  defaultConfig := fun hnone => by rw [removalFrom, DiskSettings.configFor, hnone, Option.getD_none]
  form := by
    rw [removalFrom, CommandForm.ofVersion_eq]
    split <;> simp [*]
  arguments := by
    rw [removalFrom, Removal.arguments, CommandForm.ofVersion_eq]
    split <;> rfl

/-! ## The replica -/

/-- The request that dropped the replica of a table on the way from `w` to `w'`, and the replica's
path. The request names the path without the slashes at its end. A table without replicas has
neither. -/
inductive ReplicaDropped (answers : List Sent → Sent → Except ClientError (List Row)) (site : Site)
    (table : TableName) (record : Catalog.Record) (w w' : World) : Option Text → List Sent → Prop
  | plain : record.engine = .plain → ReplicaDropped answers site table record w w' none []
  | replicated {replica : Catalog.Replica} {root name path sql : Text} {slashes : Nat} :
      record.engine = .replicated replica →
      Expanded answers site table record.uuid w w' replica.path root →
      Expanded answers site table record.uuid w w' replica.name name →
      root = path ++ List.replicate slashes '/' → path.getLast? ≠ some '/' →
      tokens? sql = some [.word "SYSTEM", .word "DROP", .word "REPLICA", .literal name,
        .word "FROM", .word "ZKPATH", .literal path] →
      ReplicaDropped answers site table record w w' (some root)
        [⟨.execute, { sql, timeout := some site.settings.server.timeouts.system }⟩]

theorem ReplicaDropped.extend {record : Catalog.Record} {replicaPath : Option Text}
    {dropped before after : List Sent} {w₁ w₂ : World}
    (h : ReplicaDropped answers site table record w₁ w₂ replicaPath dropped)
    (hb : w₁.sent = w.sent ++ before) (ha : w'.sent = w₂.sent ++ after) :
    ReplicaDropped answers site table record w w' replicaPath dropped := by
  cases h with
  | plain he => exact .plain he
  | replicated he hpath hname hroot hslash hsql =>
    exact .replicated he (hpath.extend hb ha) (hname.extend hb ha) hroot hslash hsql

theorem Session.replicaDropped_of_ok (hs : site.server = .ofAnswers answers)
    {record : Catalog.Record} {replicaPath : Option Text}
    (h : dropReplicaOf site table record w = .ok replicaPath v) :
    ∃ asked dropped, (∀ s ∈ asked, s.query.sql.startsWith "SELECT" = true) ∧
      v = { w with sent := w.sent ++ asked ++ dropped } ∧
      ReplicaDropped answers site table record w v replicaPath dropped := by
  unfold dropReplicaOf at h
  cases he : record.engine with
  | plain =>
    simp only [he, Catalog.Engine.replica?] at h
    cases h
    exact ⟨[], [], by simp, by simp, .plain he⟩
  | replicated replica =>
    simp only [he, Catalog.Engine.replica?] at h
    obtain ⟨root, v₁, hpath, h⟩ := ok_of_bind h
    obtain ⟨name, v₂, hname, h⟩ := ok_of_bind h
    obtain ⟨_, v₃, hdrop, h⟩ := ok_of_bind h
    cases h
    have hafter := after_dropReplica hs root name v₂
    rw [after_of_ok hdrop] at hafter
    obtain ⟨asked₁, rfl, hasked₁⟩ := (selects_expandFor hs _ _ _).ok hpath
    obtain ⟨asked₂, rfl, hasked₂⟩ := (selects_expandFor hs _ _ _).ok hname
    subst hafter
    obtain ⟨slashes, hroot⟩ := exists_nodePath root
    refine ⟨asked₁ ++ asked₂, [dropRequest site root name], ?_, ?_, .replicated he ?_ ?_ hroot
      (getLast?_nodePath root) (Instruction.tokens?_statement (.dropReplica name root))⟩
    · intro s hmem
      rcases List.mem_append.1 hmem with hmem | hmem
      · exact hasked₁ s hmem
      · exact hasked₂ s hmem
    · simp [World.asking]
    · exact (expandFor_of_ok hs hpath).extend (List.append_nil _).symm
        (List.append_assoc (w.sent ++ asked₁) asked₂ [dropRequest site root name])
    · exact (expandFor_of_ok hs hname).extend rfl rfl

/-! ## Removals -/

variable {t t' : FileTree} {layout : Layout}

/-- What a path names is gone from `t`, if there was anything. -/
inductive Removed (t : FileTree) (p : Path) : FileTree → Bool → Prop
  | nothing : t.stat false p = .error .notFound → Removed t p t false
  | something {l : Location} {node : Node} :
      t.locate false p = .ok l → t.get? l = some node → Removed t p (t.erase l) true

namespace Removed

variable {p q : Path} {removed : Bool}

theorem pruned (h : Removed t p t' removed) : Pruned t t' p := by
  cases h with
  | nothing _ => exact .refl t p
  | something hl _ => exact .erase hl

/-- What was removed is gone. -/
theorem gone (h : Removed t p t' removed) (hne : t.locate false p ≠ .ok []) :
    t'.stat false p = .error .notFound := by
  cases h with
  | nothing hstat => exact hstat
  | something hl _ =>
    refine stat_erase hl ?_
    rintro rfl
    exact hne hl

/-- The answer tells if there was anything. -/
theorem removed_iff (h : Removed t p t' removed) :
    removed = true ↔ ∃ node, t.stat false p = .ok node := by
  cases h with
  | nothing hstat => simp [hstat]
  | something hl hg => exact ⟨fun _ => ⟨_, stat_of_get? hl hg⟩, fun _ => rfl⟩

end Removed

theorem removeDirectory_of_ok {p : Path} (h : removeDirectory p t = .ok () t') :
    ∃ l, t.locate true p = .ok l ∧ t' = t.erase l := by
  unfold removeDirectory at h
  rw [bind_of_ok (get_eq t)] at h
  cases hdir : t.locate true p with
  | error e => simp only [hdir] at h; cases h
  | ok dir =>
    cases hentry : t.locate false (withoutSlashes p) with
    | error e => simp only [hdir, hentry] at h; cases h
    | ok entry =>
      simp only [hdir, hentry] at h
      by_cases hsame : dir = entry
      · rw [if_pos hsame] at h
        cases h
        exact ⟨dir, rfl, rfl⟩
      · rw [if_neg hsame] at h
        cases h

namespace Session

theorem removed_of_ok {p : Path} {removed : Bool} (h : removePath p w = .ok removed v) :
    ∃ t, v = { w with tree := t } ∧ Removed w.tree p t removed := by
  unfold removePath at h
  cases hstat : w.tree.stat false p with
  | error e =>
    rw [hstat] at h
    cases e with
    | notFound =>
      cases h
      exact ⟨w.tree, rfl, .nothing hstat⟩
    | _ => cases h
  | ok node =>
    rw [hstat] at h
    obtain ⟨l, hl, hg⟩ := exists_of_stat hstat
    obtain ⟨_, v₁, hrun, hend⟩ := ok_of_bind h
    cases hend
    replace hrun := ok_of_adaptExcept hrun
    refine ⟨w.tree.erase l, ?_, .something hl hg⟩
    by_cases hnode : node = .directory
    · subst hnode
      rw [if_pos rfl] at hrun
      cases hremove : removeDirectory p w.tree with
      | error e t => rw [onTree_of_error hremove] at hrun; cases hrun
      | ok _ t =>
        rw [onTree_of_ok hremove] at hrun
        cases hrun
        -- a directory is no link, so following it leads nowhere else
        obtain ⟨dir, hdir, rfl⟩ := removeDirectory_of_ok hremove
        have hfollow := locate_follow hl fun _ => by rw [hg]; simp
        cases hfollow.symm.trans hdir
        rfl
    · rw [if_neg hnode, onTree_of_ok (removeFile_of_get? hl hg hnode)] at hrun
      cases hrun
      rfl

theorem catalogFile_removed_of_ok (h : removeCatalogFile site table w = .ok () v) :
    ∃ t, v = { w with tree := t } ∧ Removed w.tree (site.layout.tableFile table) t true := by
  replace h := ok_of_adaptExcept h
  rcases removeFile_cases (site.layout.tableFile table) w.tree with
    ⟨e, hrun⟩ | ⟨l, node, hl, hg, -, hrun⟩
  · rw [onTree_of_error hrun] at h
    cases h
  · rw [onTree_of_ok hrun] at h
    cases h
    exact ⟨_, rfl, .something hl hg⟩

end Session

/-! ## The files of a table -/

/-- A path leads to a place of the name that it ends in. -/
theorem FileTree.exists_place_of_steps {p : Path} {parts : List Text} {part : Text} {l : Location}
    (hl : t.locate false p = .ok l) (hsteps : steps p = parts ++ [part]) (hc : part ≠ ".")
    (hu : part ≠ "..") : ∃ mid, l = mid ++ [part] := by
  obtain ⟨-, _, _, -, hroute⟩ := leads_of_locate hl
  rw [hsteps] at hroute
  obtain ⟨mid, hmid, -⟩ := hroute.sibling hc hu
  exact ⟨mid, hmid⟩

theorem Layout.exists_place_tableFile {l : Location}
    (hl : t.locate false (layout.tableFile table) = .ok l) :
    ∃ mid, l = mid ++ [catalogName table.table] :=
  exists_place_of_steps hl (layout.steps_tableFile table) (catalogName_not_dots _).1
    (catalogName_not_dots _).2

theorem Layout.exists_place_detachedFlag {l : Location}
    (hl : t.locate false (layout.detachedFlag table) = .ok l) :
    ∃ mid, l = mid ++ [flagName table.table] :=
  exists_place_of_steps hl (layout.steps_detachedFlag table) (flagName_not_dots _).1
    (flagName_not_dots _).2

theorem Layout.exists_place_dataLink (htable : table.table ≠ []) {l : Location}
    (hl : t.locate false (layout.dataLink table) = .ok l) :
    ∃ mid, l = mid ++ [escapeName table.table] := by
  have hsteps := layout.steps_dataLink table
  rw [if_neg htable] at hsteps
  exact exists_place_of_steps hl hsteps (escapeName_not_dots _).1 (escapeName_not_dots _).2

/-- Where the catalog file is found, the flag is looked for beside it. -/
theorem Layout.locate_detachedFlag {c : Location}
    (hfile : t.locate false (layout.tableFile table) = .ok c)
    (hflag : t.stat false (layout.detachedFlag table) = .error .notFound) :
    ∃ mid, c = mid ++ [catalogName table.table] ∧
      t.locate false (layout.detachedFlag table) = .ok (mid ++ [flagName table.table]) := by
  obtain ⟨-, seen, n, hn, hroute⟩ := leads_of_locate hfile
  rw [layout.steps_tableFile, origin_tableFile] at hroute
  obtain ⟨mid, hc, hother⟩ :=
    hroute.sibling (catalogName_not_dots _).1 (catalogName_not_dots _).2
  refine ⟨mid, hc, ?_⟩
  have htext : (layout.detachedFlag table).text ≠ [] := by
    rw [layout.detachedFlag_eq]
    exact Path.text_join_ne_nil (Path.isAbsolute_of_not_mem (slash_not_mem_flagName _))
      (.inr (flagName_ne_nil _))
  have hwalkable : Walkable (layout.detachedFlag table) := by
    cases hl : t.locate false (layout.detachedFlag table) with
    | ok l => exact (leads_of_locate hl).1
    | error e =>
      rw [stat_of_error hl] at hflag
      cases hflag
      exact walkable_of_notFound hl htext
  have hlocate : t.locate false (layout.detachedFlag table) =
      if nameLimit < (flagName table.table).byteLength then .error .nameTooLong
      else .ok (mid ++ [flagName table.table]) := by
    rw [locate_eq_walk t false hwalkable, layout.steps_detachedFlag, origin_detachedFlag,
      hother _ _ hn, walk_last_name _ _ _ (flagName_not_dots _).1 (flagName_not_dots _).2]
  by_cases hlong : nameLimit < (flagName table.table).byteLength
  · rw [if_pos hlong] at hlocate
    rw [stat_of_error hlocate] at hflag
    cases hflag
  · rwa [if_neg hlong] at hlocate

/-- Where the catalog file is still found once the link is gone, and the flag is not, there was no
flag before either. -/
theorem flag_missing {t₁ : FileTree} {removed : Bool} {c : Location} {node : Node}
    (htable : table.table ≠ []) (hlink : Removed t (layout.dataLink table) t₁ removed)
    (hfile : t₁.locate false (layout.tableFile table) = .ok c) (hnode : t₁.get? c = some node)
    (hflag : t₁.stat false (layout.detachedFlag table) = .error .notFound) :
    t.stat false (layout.detachedFlag table) = .error .notFound := by
  cases hlink with
  | nothing _ => exact hflag
  | @something l _ hl _ =>
    obtain ⟨mid, rfl, hplace⟩ := layout.locate_detachedFlag hfile hflag
    obtain ⟨front, rfl⟩ := layout.exists_place_dataLink htable hl
    have herased := fun x => get?_erase t (front ++ [escapeName table.table]) x (by simp)
    have hbefore := (Pruned.erase hl).within.locate_of_ok hplace
    have hnone := get?_of_notFound hplace hflag
    -- the flag is not in what the link named: it has another name, and the catalog file is not
    have hoff : ¬ (front ++ [escapeName table.table]) <+: mid ++ [flagName table.table] := by
      intro hp
      rcases List.prefix_concat_iff.1 hp with hp | hp
      · have hname : escapeName table.table = flagName table.table := by
          simpa using (List.append_inj' hp rfl).2
        exact dot_not_mem_escapeName table.table (hname ▸ dot_mem_flagName table.table)
      · rw [herased, if_pos (hp.trans (List.prefix_append _ _))] at hnode
        cases hnode
    rw [herased, if_neg hoff] at hnone
    exact stat_of_none hbefore hnone

/-- `t'` is `t` without the files of a table: its link, its flag and its catalog file. The two answers
tell if there were a link and a flag. -/
structure Emptied (t : FileTree) (layout : Layout) (table : TableName)
    (linkRemoved flagRemoved : Bool) (t' : FileTree) : Prop where
  catalogFile : t'.stat false (layout.tableFile table) = .error .notFound
  detachedFlag : t'.stat false (layout.detachedFlag table) = .error .notFound
  dataLink : t'.stat false (layout.dataLink table) = .error .notFound
  linkRemoved : linkRemoved = true ↔ ∃ node, t.stat false (layout.dataLink table) = .ok node
  flagRemoved : flagRemoved = true ↔ ∃ node, t.stat false (layout.detachedFlag table) = .ok node
  kept : ∀ x, t.Outside (layout.dataLink table) x → t.Outside (layout.detachedFlag table) x →
    t.Outside (layout.tableFile table) x → t'.get? x = t.get? x
  here : t'.here = t.here
  /-- What a link points to is left alone, with all it holds but the table's own files. -/
  target : ∀ target l x, t.readLink (layout.dataLink table) = .ok target →
    t.locate true (layout.dataLink table) = .ok l → l <+: x → t.Grounded x.dropLast →
    t.locate false (layout.dataLink table) ≠ .ok x → t.Outside (layout.detachedFlag table) x →
    t.Outside (layout.tableFile table) x → t'.get? x = t.get? x

/-- Nothing in the tree is inside a link but the link itself. -/
theorem FileTree.outside_of_link {p target : Path} {x : Location} (h : t.readLink p = .ok target)
    (hx : t.Grounded x.dropLast) (hne : t.locate false p ≠ .ok x) : t.Outside p x := by
  intro l hl hp
  obtain ⟨l', hl', hg⟩ := exists_of_readLink h
  cases hl.symm.trans hl'
  by_cases hsame : l = x
  · exact hne (hsame ▸ hl)
  · have habove : l <+: x.dropLast := by
      rcases List.eq_nil_or_concat x with rfl | ⟨front, last, rfl⟩
      · exact absurd (List.prefix_nil.1 hp) hsame
      · rw [List.concat_eq_append] at hp hsame ⊢
        rw [List.dropLast_concat]
        exact (List.prefix_concat_iff.1 hp).resolve_left hsame
    rw [hx l habove] at hg
    cases hg

/-- Once all three are removed, they are gone, and nothing else is. -/
theorem emptied_of_removed {t₁ t₂ : FileTree} {linkRemoved flagRemoved : Bool}
    (htable : table.table ≠ []) (hlink : Removed t (layout.dataLink table) t₁ linkRemoved)
    (hflag : Removed t₁ (layout.detachedFlag table) t₂ flagRemoved)
    (hfile : Removed t₂ (layout.tableFile table) t' true) :
    Emptied t layout table linkRemoved flagRemoved t' := by
  have hkept : ∀ x, t.Outside (layout.dataLink table) x → t.Outside (layout.detachedFlag table) x →
      t.Outside (layout.tableFile table) x → t'.get? x = t.get? x := by
    intro x hx hx' hx''
    have h₁ := hlink.pruned.outside x hx
    have h₂ := hflag.pruned.outside x (hlink.pruned.outside_of hx')
    have h₃ := hfile.pruned.outside x (hflag.pruned.outside_of (hlink.pruned.outside_of hx''))
    rw [h₃, h₂, h₁]
  have hgone₁ : t₁.stat false (layout.dataLink table) = .error .notFound := by
    refine hlink.gone fun hl => ?_
    obtain ⟨mid, hnil⟩ := layout.exists_place_dataLink htable hl
    simp at hnil
  have hgone₂ : t₂.stat false (layout.detachedFlag table) = .error .notFound := by
    refine hflag.gone fun hl => ?_
    obtain ⟨mid, hnil⟩ := layout.exists_place_detachedFlag hl
    simp at hnil
  have hgone₃ : t'.stat false (layout.tableFile table) = .error .notFound := by
    refine hfile.gone fun hl => ?_
    obtain ⟨mid, hnil⟩ := layout.exists_place_tableFile hl
    simp at hnil
  have hlater := hfile.pruned.within
  refine ⟨hgone₃, hlater.stat hgone₂, (hlater.trans hflag.pruned.within).stat hgone₁,
    hlink.removed_iff, ?_, hkept, ?_, ?_⟩
  · -- what the link's removal took away with it cannot have been the flag
    rw [hflag.removed_iff]
    have hwithin := hlink.pruned.within
    constructor
    · rintro ⟨node, hstat⟩
      obtain ⟨l, hl, hg⟩ := exists_of_stat hstat
      exact ⟨node, stat_of_get? (hwithin.locate_of_ok hl) (hwithin.kept l node hg)⟩
    · rintro ⟨node, hstat⟩
      cases hflag with
      | something hl hg => exact ⟨_, stat_of_get? hl hg⟩
      | nothing hmissing =>
        cases hfile with
        | something hc hnode =>
          rw [flag_missing htable hlink hc hnode hmissing] at hstat
          cases hstat
  · rw [hfile.pruned.here, hflag.pruned.here, hlink.pruned.here]
  · intro target l x htarget _ _ hx hne hx' hx''
    exact hkept x (outside_of_link htarget hx hne) hx' hx''

/-- The removals behind the replica go well where all three files of a table are gone. -/
theorem Session.emptied_of_ok (htable : table.table ≠ []) {removed : Bool × Bool}
    (h : removeFiles site table v = .ok removed w') :
    ∃ t, w' = { v with tree := t } ∧ Emptied v.tree site.layout table removed.1 removed.2 t := by
  obtain ⟨linkRemoved, v₁, hlink, h⟩ := ok_of_bind h
  obtain ⟨flagRemoved, v₂, hflag, h⟩ := ok_of_bind h
  obtain ⟨_, v₃, hfile, h⟩ := ok_of_bind h
  cases h
  obtain ⟨t₁, rfl, hlinkGone⟩ := removed_of_ok hlink
  obtain ⟨t₂, rfl, hflagGone⟩ := removed_of_ok hflag
  obtain ⟨t₃, rfl, hfileGone⟩ := catalogFile_removed_of_ok hfile
  exact ⟨t₃, rfl, emptied_of_removed htable hlinkGone hflagGone hfileGone⟩

/-! ## The whole -/

/-- What a purge that ends well has done on the way from `w` to `w'`: the table was not attached, the
remover ran once for each disk that is not excluded, the replica was dropped if there is one, and the
table's files are gone from the tree that the remover left. -/
structure Purged (answers : List Sent → Sent → Except ClientError (List Row)) (site : Site)
    (table : TableName) (w : World) (report : PurgeReport) (w' : World) (record : Catalog.Record)
    (inventory : List (Text × Text)) (version : Version) (runs : List Removal) : Prop where
  absent : ∃ q, PresenceQuery site table q ∧ World.Got answers w w' ⟨.fetch, q⟩ []
  read : Catalog.readRecord w.tree (site.layout.tableFile table) = .ok record
  listed : Listed answers site w w' inventory
  versioned : Versioned answers site w w' version
  removals : w'.removals = w.removals ++ runs
  /-- The runs of the remover, one for each disk, in the order of the disks. -/
  disks : List.Forall₂ (RunOn site.settings.disks record.uuid version) (included site inventory) runs
  replica : ∃ asked dropped, (∀ s ∈ asked, s.query.sql.startsWith "SELECT" = true) ∧
    w'.sent = w.sent ++ asked ++ dropped ∧
    ReplicaDropped answers site table record w w' report.replicaPath dropped
  named : report.table = table ∧ report.uuid = record.uuid ∧
    report.catalogFile = site.layout.tableFile table ∧
    report.disks = (included site inventory).map (·.1)
  files : Emptied (site.remover.leave w.removals runs w.tree) site.layout table
    report.dataLinkRemoved report.detachedFlagRemoved w'.tree

theorem attachedQuery_select (site : Site) (table : TableName) :
    (attachedQuery site table).query.sql.startsWith "SELECT" = true := by
  rw [Text.startsWith_iff]
  exact ⟨_, rfl⟩

theorem inventoryQuery_select (site : Site) :
    (inventoryQuery site).query.sql.startsWith "SELECT" = true := by
  rw [Text.startsWith_iff]
  exact ⟨_, rfl⟩

theorem versionQuery_select (site : Site) :
    (versionQuery site).query.sql.startsWith "SELECT" = true := by
  rw [Text.startsWith_iff]
  exact ⟨_, rfl⟩

theorem Session.purged_of_ok (hs : site.server = .ofAnswers answers) (htable : table.table ≠ [])
    {report : PurgeReport} (h : attemptPurge site table w = .ok report w') :
    ∃ record inventory version runs,
      Purged answers site table w report w' record inventory version runs := by
  rw [attemptPurge_stages] at h
  obtain ⟨⟨record, disks, form⟩, v₁, hsurvey, h⟩ := ok_of_bind h
  obtain ⟨_, v₂, hremove, h⟩ := ok_of_bind h
  obtain ⟨replicaPath, v₃, hreplica, h⟩ := ok_of_bind h
  obtain ⟨removed, v₄, hfiles, h⟩ := ok_of_bind h
  cases h
  dsimp only at hremove hreplica
  obtain ⟨hstart, hread, inventory, version, rfl, rfl, htold⟩ := surveyed_of_ok hs hsurvey
  have htraced := traced_removeFromDisks hs table hremove
  obtain ⟨asked, dropped, hasked, rfl, hdropped⟩ := replicaDropped_of_ok hs hreplica
  obtain ⟨t, rfl, hemptied⟩ := emptied_of_ok htable hfiles
  have hquiet : v₂.sent = v₁.sent := by rw [htraced.sent, List.append_nil]
  have hsent : v₂.sent =
      w.sent ++ [attachedQuery site table, inventoryQuery site, versionQuery site] := by
    rw [hquiet, hstart]
  have hasked' : ∀ s ∈ [attachedQuery site table, inventoryQuery site, versionQuery site] ++ asked,
      s.query.sql.startsWith "SELECT" = true := by
    simp only [List.mem_append, List.mem_cons, List.not_mem_nil, or_false]
    rintro s ((rfl | rfl | rfl) | hmem)
    · exact attachedQuery_select site table
    · exact inventoryQuery_select site
    · exact versionQuery_select site
    · exact hasked s hmem
  obtain ⟨habsent, hlisted, hversioned⟩ :=
    htold { v₂ with tree := t, sent := v₂.sent ++ asked ++ dropped } (asked ++ dropped)
      (by rw [← hquiet, List.append_assoc])
  have hremovals := htraced.removals
  rw [hstart] at hremovals
  refine ⟨record, inventory, version, _,
    { absent := ⟨_, presenceQuery_attachedQuery site table, habsent⟩, read := hread, listed := hlisted
      versioned := hversioned, removals := hremovals, disks := ?_
      replica := ⟨_, dropped, hasked', ?_, ?_⟩, named := ⟨rfl, rfl, rfl, ?_⟩, files := ?_ }⟩
  · rw [includedDisks, List.map_map, List.forall₂_map_right_iff]
    exact List.forall₂_same.2 fun disk _ => runOn_removalFrom site record.uuid version disk
  · simp [hsent]
  · exact hdropped.extend hsent (List.append_nil _).symm
  · rw [includedDisks, List.map_map]
    rfl
  · have htree := htraced.tree
    rw [hstart] at htree
    rw [← htree]
    exact hemptied

end CatalogAdmin
