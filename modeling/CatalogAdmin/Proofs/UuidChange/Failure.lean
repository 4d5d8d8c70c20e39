import CatalogAdmin.Rehearsal
import CatalogAdmin.Settings.Validation
import CatalogAdmin.Proofs.Catalog.File
import CatalogAdmin.Proofs.Server.Statements
import CatalogAdmin.Proofs.TableError
import CatalogAdmin.Proofs.UuidChange.Guard
import CatalogAdmin.Proofs.UuidChange.Relocation

/-!
# What a failed change of UUID has touched

The phase that a change of UUID fails in says what it has touched. Until the catalog file takes the
new UUID it is nothing but the attachment of the table; from then on it is the catalog file, and maybe
a new directory for the store.

There is one more way to fail, and only with a relative root: the store is moved, and then the path of the
link turns out to have led through the link itself, which is gone (`LinkLost`). The error does not tell the
one from the other.

Results:
1. `HalfChanged.of_relocation`: what is left when the store could not be moved, place by place.
2. `changeUuid_failed`: every failure of a change of UUID, by its phase.
3. `changeUuid_moves_and_fails`: a store that is moved by a change that fails.
-/

namespace CatalogAdmin

open Session
open FileTree

/-! ## The files when a store could not be moved -/

/-- `t'` is `t` with a new UUID in a catalog file, and maybe a new directory for the new store. -/
structure HalfChanged (t t' : FileTree) (layout : Layout) (catalogFile : Path)
    (oldUuid newUuid : Uuid) : Prop where
  /-- The catalog file is what it was but for the UUID between its quotes. Nothing else that was there
  has changed. -/
  changed : ∃ old before value behind place, Catalog.uuidMark <:+ before ∧
    behind.head? = some Catalog.quote ∧
    Uuid.parse? value = some oldUuid ∧
    t.stat true catalogFile = .ok (.file old) ∧ old.content = .text (before ++ value ++ behind) ∧
    t'.stat true catalogFile =
      .ok (.file (FileTree.rewritten old (before ++ newUuid.text ++ behind))) ∧
    t.locate false catalogFile = .ok place ∧
    ∀ x node, x ≠ place → t.get? x = some node → t'.get? x = some node
  /-- The old store is still where it was. -/
  source : ∀ x, t.locate false (layout.storeDirectory oldUuid) = .ok x →
    t'.locate false (layout.storeDirectory oldUuid) = .ok x
  /-- What is new is the directory above the new store. -/
  added : ∀ x node, t.get? x = none → t'.get? x = some node → node = .directory ∧
    ∃ parent, (layout.storeDirectory newUuid).parent? = some parent ∧
      t'.locate false parent = .ok x
  here : t'.here = t.here

/-- What is left when the catalog file took the new UUID and then the store could not be moved. -/
theorem HalfChanged.of_relocation {t t₁ t' : FileTree} {layout : Layout} {catalogFile : Path}
    {oldUuid newUuid : Uuid} (hfile : t.Grounded (t.origin catalogFile))
    (hstart : t.Grounded (t.origin layout.root))
    (hset : Catalog.setUuid catalogFile newUuid t = .ok oldUuid t₁)
    (hopened : Opened t₁ layout newUuid t') :
    HalfChanged t t' layout catalogFile oldUuid newUuid := by
  obtain ⟨text, changed, old, place, hread, hreplace, hold, hplace, rfl⟩ :=
    Catalog.setUuid_of_ok hset
  obtain ⟨f, hf, htext⟩ := Catalog.exists_of_readText hread
  obtain rfl : f = old := by
    rw [hold] at hf
    cases hf
    rfl
  obtain ⟨_, site, above, below, -, hsite, hvalue, rfl, rfl⟩ := Catalog.replaceUuid_ok hreplace
  obtain ⟨-, hmark, hquote⟩ := Catalog.eq_of_uuidSite? hsite
  generalize hnew : Node.file (FileTree.rewritten f
    (above ++ site.before ++ newUuid.text ++ (site.behind ++ below))) = new at hopened
  have hne := place_ne_nil hold hplace
  have hput : ∀ x, (t.put place new).get? x = if x = place then some new else t.get? x :=
    fun x => get?_put t place x new hne
  -- neither the new text nor the new directory stands in the way of any path
  have keeps : ∀ {p x}, t.Grounded (t.origin p) → t.locate false p = .ok x →
      t'.locate false p = .ok x := fun hp hx =>
    hopened.locate (locate_put_place hfile hold hplace hp hx)
  have hsource : t.Grounded (t.origin (layout.storeDirectory oldUuid)) := by
    rw [origin_storeDirectory]
    exact hstart
  have hplace' : t'.get? place = some new := hopened.get?_of_some (by rw [hput, if_pos rfl])
  refine ⟨⟨f, above ++ site.before, site.value, site.behind ++ below, place, ?_, ?_, hvalue, hold,
    htext, ?_, hplace, ?_⟩, fun x => keeps hsource, ?_, hopened.here⟩
  · exact hmark.trans (List.suffix_append _ _)
  · rw [List.head?_append, hquote]
    rfl
  · rw [hnew]
    exact stat_of_place (keeps hfile hplace) hplace' fun target => by rw [← hnew]; simp
  · intro x node hx hg
    exact hopened.get?_of_some (by rw [hput, if_neg hx, hg])
  · intro x node hnone hsome
    have hnone' : (t.put place new).get? x = none := by
      rw [hput, if_neg, hnone]
      rintro rfl
      exact (get?_place hold hplace).1 hnone
    exact hopened.added hnone' hsome

/-- `t'` is what is left of `t`, in which a catalog file has the new UUID, when the store was moved and the
table's link, whose text is the path of the store, was removed and could not be made anew. -/
structure LinkLost (t t' : FileTree) (layout : Layout) (table : TableName) (oldUuid newUuid : Uuid)
    (cause : IoError) : Prop where
  relative : layout.root.isAbsolute = false
  /-- The store was moved, and then a link stood at the path of the table's link. Now it is gone. -/
  moved : ∃ t₂ t₃ a b l, Moving t t₂ t₃ layout oldUuid newUuid a b ∧
    t₃.Points (layout.dataLink table) (layout.storeDirectory oldUuid) ∧
    t₃.locate false (layout.dataLink table) = .ok l ∧ t' = t₃.erase l
  /-- Without the link its path leads nowhere. -/
  lost : t'.locate false (layout.dataLink table) = .error cause

/-- Moving a store fails before it is moved, or in making its link anew. -/
theorem opened_or_linkLost {t t' : FileTree} {layout : Layout} {table : TableName}
    {oldUuid newUuid : Uuid} {cause : IoError} (hstart : t.Grounded (t.origin layout.root))
    (h : relocateStore (layout.dataLink table) (layout.storeDirectory oldUuid)
      (layout.storeDirectory newUuid) t = .error cause t') :
    Opened t layout newUuid t' ∨ LinkLost t t' layout table oldUuid newUuid cause := by
  refine (relocateStore_error hstart (isAbsolute_dataLink_eq layout table) h).imp_right ?_
  rintro ⟨hroot, t₂, t₃, a, b, hmoving, hredirect⟩
  obtain ⟨hpoints, l, hl, rfl, hlost⟩ := redirect_of_error hredirect
  exact ⟨hroot, ⟨t₂, t₃, a, b, l, hmoving, hpoints, hl, rfl⟩, hlost⟩

/-! ## Failures by their phase -/

variable {answers : List Sent → Sent → Except ClientError (List Row)} {site : Site}
  {table : TableName} {newUuid : Uuid}

/-- Settings that pass their check have an absolute root. -/
theorem Settings.isAbsolute_root {s : Settings} (h : s.validate = .ok ()) :
    s.paths.root.isAbsolute = true := by
  have hfaults : s.faults = [] := by
    unfold validate at h
    cases hs : s.faults with
    | nil => rfl
    | cons fault more => rw [hs] at h; cases h
  unfold faults at hfaults
  have hpaths := List.map_eq_nil_iff.1 (List.append_eq_nil_iff.1 hfaults).2
  have hroot := List.filter_eq_nil_iff.1 hpaths (PathSetting.root, s.paths.root)
    (List.mem_cons_self ..)
  simpa using hroot

/-- What a change of UUID that failed in a phase has done on the way from `w` to `w'`, with these
queries. A failure to move the store tells of a store that could not be moved, or of one whose link was
lost. -/
inductive FailedIn (answers : List Sent → Sent → Except ClientError (List Row)) (site : Site)
    (table : TableName) (newUuid : Uuid) (w w' : World) (e : TableError) :
    Phase → List Sent → Prop
  | validating {asked : List Sent} : (∀ s ∈ asked, s.query.sql.startsWith "SELECT" = true) →
      w'.tree = w.tree → FailedIn answers site table newUuid w w' e .validating asked
  | detaching {asked : List Sent} {info : TableInfo} {sql : Text} :
      (∀ s ∈ asked, s.query.sql.startsWith "SELECT" = true) →
      Reported answers site table w w' (some info) →
      tokens? sql = some [.word "DETACH", .word "TABLE", .identifier table.database, .symbol '.',
        .identifier table.table] →
      e.kind = .query ∨ e.kind = .timeout → w'.tree = w.tree →
      FailedIn answers site table newUuid w w' e .detaching
        (asked ++ [⟨.execute, { sql, timeout := some site.settings.server.timeouts.detachTable }⟩])
  | changingCatalog {asked : List Sent} {info : Option TableInfo} :
      (∀ s ∈ asked, s.query.sql.startsWith "SELECT" = true) → w'.tree = w.tree →
      FailedIn answers site table newUuid w w' e .changingCatalog
        (asked ++ Prepared.detaching site table info)
  | relocatingStore {asked : List Sent} {info : Option TableInfo} {record : Catalog.Record}
      {cause : IoError} :
      (∀ s ∈ asked, s.query.sql.startsWith "SELECT" = true) →
      Validated answers site table newUuid w w' info record →
      e = .inconsistentState
        { table, oldUuid := record.uuid, newUuid, catalogFile := catalogFileOf site table info,
          source := site.layout.storeDirectory record.uuid,
          target := site.layout.storeDirectory newUuid, cause } →
      HalfChanged w.tree w'.tree site.layout (catalogFileOf site table info) record.uuid newUuid ∨
        (∃ t, Catalog.setUuid (catalogFileOf site table info) newUuid w.tree = .ok record.uuid t ∧
          LinkLost t w'.tree site.layout table record.uuid newUuid cause) →
      FailedIn answers site table newUuid w w' e .relocatingStore
        (asked ++ Prepared.detaching site table info)

/-- A run that fails has touched what the phase of its failure says. -/
theorem Course.failed (hs : site.server = .ofAnswers answers) {w v : World}
    {failure : UuidChangeFailure} (h : Course site table newUuid w (.error failure v))
    (hstart : w.tree.Grounded (w.tree.origin site.layout.root)) (w' : World)
    (hsent : w'.sent = v.sent) (htree : w'.tree = v.tree) :
    ∃ told asked, v.events = w.events ++ told ∧ v.sent = w.sent ++ asked ∧
      v.removals = w.removals ∧
      FailedIn answers site table newUuid w w' (failure.error.named table) failure.phase asked := by
  have hlater : w'.sent = v.sent ++ [] := hsent.trans (List.append_nil _).symm
  cases h with
  | unanswered hinfo =>
    obtain ⟨asked, rfl, hasked⟩ := (selects_tableInfo? hs table).error hinfo
    exact ⟨[], asked, (List.append_nil _).symm, rfl, rfl, .validating hasked htree⟩
  | invalid hinfo hvalid =>
    obtain ⟨asked, rfl, hasked⟩ := ((selects_tableInfo? hs table).ok hinfo).trans
      ((selects_validateUuidChange hs table _ newUuid).error hvalid)
    exact ⟨[], asked, (List.append_nil _).symm, rfl, rfl, .validating hasked htree⟩
  | @notDetached info record e v₁ v₂ v hinfo hvalid hdetach =>
    obtain ⟨⟨asked, rfl, hasked⟩, hvalidated⟩ := validated_of_ok hs hinfo hvalid
    obtain ⟨hkind, rfl⟩ := detach_of_error hs hdetach
    refine ⟨[.transition .validating .detaching], asked ++ [detachRequest site table], rfl, ?_, rfl,
      .detaching hasked (hvalidated.reported.extend hsent)
        (Instruction.tokens?_statement (.detach table false)) ?_ htree⟩
    · simp [World.asking, World.telling]
    · rwa [TableError.kind_named]
  | @notChanged info record e v tree hp hset =>
    obtain ⟨-, asked, hasked, rfl⟩ := hp.world hs
    -- the catalog file could not be changed, so it was not
    obtain rfl := Catalog.tree_of_setUuid_error hset
    exact ⟨_, asked ++ Prepared.detaching site table info, rfl, List.append_assoc .., rfl,
      .changingCatalog hasked htree⟩
  | @notRelocated info record oldUuid cause v tree tree' hp hset hmove =>
    obtain ⟨hvalidated, asked, hasked, rfl⟩ := hp.world hs
    -- the UUID that was replaced is the one that was found valid: nothing has changed in between
    obtain rfl := Catalog.uuid_of_setUuid hset hvalidated.read
    refine ⟨_, asked ++ Prepared.detaching site table info, List.append_assoc .., List.append_assoc ..,
      rfl, .relocatingStore hasked (hvalidated.extend [] hlater) rfl ?_⟩
    rw [htree]
    have hfile := grounded_catalogFileOf hstart table info
    have hstart' : tree.Grounded (tree.origin site.layout.root) := by
      rw [origin_of_here (Catalog.here_of_setUuid hset)]
      exact Catalog.grounded_of_setUuid hset hstart
    rcases opened_or_linkLost hstart' hmove with hopened | hlost
    · exact .inl (.of_relocation hfile hstart hset hopened)
    · exact .inr ⟨tree, hset, hlost⟩

/-- Every failure of a change of UUID tells the phase it happened in, and the phase tells what was
touched. No error but that of a half-done change leaves other files than before. With an absolute root the
change is half done in one way only (`LinkLost.relative`). -/
theorem changeUuid_failed (settings : Settings)
    (answers : List Sent → Sent → Except ClientError (List Row)) (remover : Remover)
    (table : TableName) (newUuid : Uuid) {w w' : World} {e : TableError}
    (hstart : w.tree.Grounded (w.tree.origin settings.paths.root))
    (h : changeUuid ⟨settings, .ofAnswers answers, remover⟩ table newUuid w = .error e w') :
    ∃ phase told asked, w'.events = w.events ++ told ++ [.transition phase .failed] ∧
      w'.sent = w.sent ++ asked ∧ w'.removals = w.removals ∧
      FailedIn answers ⟨settings, .ofAnswers answers, remover⟩ table newUuid w w' e phase asked ∧
      (e.kind ≠ .inconsistentState → w'.tree = w.tree) := by
  have hcourse := course_attemptUuidChange ⟨settings, .ofAnswers answers, remover⟩ table newUuid w
  unfold changeUuid at h
  cases hrun : attemptUuidChange ⟨settings, .ofAnswers answers, remover⟩ table newUuid w with
  | ok report v =>
    rw [hrun] at h
    cases h
  | error failure v =>
    rw [hrun] at h hcourse
    cases h
    obtain ⟨phase, error⟩ := failure
    obtain ⟨told, asked, hevents, hsent, hremovals, hfailed⟩ :=
      hcourse.failed rfl hstart (v.telling (.transition phase .failed)) rfl rfl
    refine ⟨phase, told, asked, ?_, hsent, hremovals, hfailed, fun hkind => ?_⟩
    · exact congrArg (· ++ [.transition phase .failed]) hevents
    · cases hfailed with
      | validating _ hsame => exact hsame
      | detaching _ _ _ _ hsame => exact hsame
      | changingCatalog _ hsame => exact hsame
      | relocatingStore _ _ he _ =>
        rw [he] at hkind
        exact absurd rfl hkind

/-! ## A store that is in the way -/

/-- A table with a store, and something where the store is to be moved. -/
def occupiedTree : FileTree where
  entries :=
    [(["srv"], .directory), (["srv", "metadata"], .directory), (["srv", "metadata", "db"], .directory),
      (["srv", "metadata", "db", "t.sql"],
        .file ⟨.text ("ATTACH TABLE _ UUID '" ++ (Uuid.constant 0).text ++ "'\r\nENGINE = Log\n"),
          0o640, 7, 7⟩),
      (["srv", "store"], .directory), (["srv", "store", "000"], .directory),
      (["srv", "store", "000", (Uuid.constant 0).text], .directory),
      (["srv", "store", "111"], .directory),
      (["srv", "store", "111", (Uuid.constant 1).text], .file ⟨.text [], 0o644, 0, 0⟩)]

/-- A server that has a table attached, and its catalog file at a path below the root. -/
def attachedAnswers (_ : List Sent) (_ : Sent) : Except ClientError (List Row) :=
  .ok [[("uuid", .string (Uuid.constant 0).text),
    ("metadata_path", .string "metadata/db/t.sql")]]

/-- The site of that server, with its files under `/srv`. -/
def occupiedSite : Site :=
  ⟨{ paths := { root := "/srv" } }, .ofAnswers attachedAnswers, Rehearsal.remover [] []⟩

/-- Whether a run fails in moving the store. -/
def failsRelocating : EStateM.Result TableError World UuidChangeReport → Bool
  | .ok _ _ => false
  | .error e w => e.kind = .inconsistentState ∧
      w.events.getLast? = some (.transition .relocatingStore .failed)

theorem exists_of_failsRelocating {r : EStateM.Result TableError World UuidChangeReport}
    (h : failsRelocating r = true) :
    ∃ e w, r = .error e w ∧ e.kind = .inconsistentState ∧
      w.events.getLast? = some (.transition .relocatingStore .failed) := by
  cases r with
  | ok => cases h
  | error e w =>
    obtain ⟨hkind, hlast⟩ := of_decide_eq_true h
    exact ⟨e, w, rfl, hkind, hlast⟩

/-- The change fails where the store is to be moved, and leaves the files half changed. -/
theorem changeUuid_failed_occupied :
    occupiedTree.Grounded (occupiedTree.origin occupiedSite.settings.paths.root) ∧
    ∃ e w', changeUuid occupiedSite ⟨"db", "t"⟩ (Uuid.constant 1) { tree := occupiedTree } =
        .error e w' ∧ e.kind = .inconsistentState ∧
      ∃ (info : Option TableInfo) (record : Catalog.Record),
        HalfChanged occupiedTree w'.tree ⟨"/srv"⟩ (catalogFileOf occupiedSite ⟨"db", "t"⟩ info)
          record.uuid (Uuid.constant 1) := by
  have hstart : occupiedTree.Grounded (occupiedTree.origin occupiedSite.settings.paths.root) :=
    grounded_origin _ (by decide)
  have hrun : failsRelocating (changeUuid occupiedSite ⟨"db", "t"⟩ (Uuid.constant 1)
      { tree := occupiedTree }) = true := by
    decide +kernel
  obtain ⟨e, w', h, hkind, hlast⟩ := exists_of_failsRelocating hrun
  obtain ⟨phase, told, asked, hevents, -, -, hfailed, -⟩ := changeUuid_failed _ _ _ _ _ hstart h
  rw [hevents, List.getLast?_concat] at hlast
  cases hlast
  cases hfailed with
  | @relocatingStore _ info record _ _ _ _ hleft =>
    have hroot : occupiedSite.layout.root.isAbsolute = true := Settings.isAbsolute_root rfl
    refine ⟨hstart, e, w', h, hkind, info, record, hleft.resolve_right ?_⟩
    rintro ⟨_, -, hlost⟩
    cases hlost.relative.symm.trans hroot

/-! ## A link that is on its own way -/

/-- A site with a relative root, which leads through the link of a table. -/
def entangledSite : Site :=
  ⟨{ paths := { root := "r/data/db/t/up" } }, .ofAnswers fun _ _ => .ok [], Rehearsal.remover [] []⟩

/-- The program is started in `/tool`, from where `r` leads to the directory of the server. The link of the
table has the text of the path of its store, but leads to another directory by this text, from where `up`
leads back. -/
def entangledTree : FileTree :=
  let elsewhere : Location := ["srv", "data", "db", "r", "data", "db", "t", "up", "store", "000",
    (Uuid.constant 0).text]
  let directories : List Location := [["tool"], ["srv", "metadata", "db"],
    ["srv", "store", "000", (Uuid.constant 0).text], elsewhere]
  { entries :=
      (["tool", "r"], .link "/srv") ::
      (["srv", "metadata", "db", "t.sql"],
        .file ⟨.text ("ATTACH TABLE _ UUID '" ++ (Uuid.constant 0).text ++ "'\nENGINE = Log\n"),
          0o640, 7, 7⟩) ::
      (["srv", "data", "db", "t"], .link (entangledSite.layout.storeDirectory (Uuid.constant 0))) ::
      (elsewhere.concat "up", .link "/srv") ::
      (directories.flatMap List.inits).map (·, .directory)
    here := ["tool"] }

/-- The change fails where the store is to be moved, but the store is moved, and the link is gone. -/
theorem changeUuid_moves_and_fails :
    let source : Location := ["srv", "store", "000", (Uuid.constant 0).text]
    let target : Location := ["srv", "store", "111", (Uuid.constant 1).text]
    let link : Location := ["srv", "data", "db", "t"]
    entangledTree.locate false (entangledSite.layout.storeDirectory (Uuid.constant 0)) = .ok source ∧
    entangledTree.get? source = some .directory ∧
    entangledTree.get? link = some (.link (entangledSite.layout.storeDirectory (Uuid.constant 0))) ∧
    ∃ e w', changeUuid entangledSite ⟨"db", "t"⟩ (Uuid.constant 1) { tree := entangledTree } =
        .error e w' ∧ e.kind = .inconsistentState ∧
      w'.events.getLast? = some (.transition .relocatingStore .failed) ∧
      w'.tree.get? source = none ∧ w'.tree.get? target = some .directory ∧
      w'.tree.get? link = none := by
  intro source target link
  have hrun : failsWith (fun e w => decide (e.kind = .inconsistentState ∧
      w.events.getLast? = some (.transition .relocatingStore .failed) ∧ w.tree.get? source = none ∧
      w.tree.get? target = some .directory ∧ w.tree.get? link = none))
      (changeUuid entangledSite ⟨"db", "t"⟩ (Uuid.constant 1) { tree := entangledTree }) = true := by
    decide +kernel
  obtain ⟨e, w', h, hend⟩ := exists_of_failsWith hrun
  exact ⟨by decide +kernel, by decide +kernel, by decide +kernel, e, w', h, of_decide_eq_true hend⟩

end CatalogAdmin
