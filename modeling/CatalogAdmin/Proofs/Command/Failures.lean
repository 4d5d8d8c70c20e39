import CatalogAdmin.Command.Run
import CatalogAdmin.Proofs.Purge.Failure
import CatalogAdmin.Proofs.Session.Errors
import CatalogAdmin.Proofs.UuidChange.Failure

/-!
# How failures are told

A command that fails has a chain of errors: its own, and the cause underneath if there is one. The program
tells the chain, and takes its exit code from the first error in it that has a kind (`exitCodeOf`). The
error of an operation on a table is one link, whatever it is wrapped in, so its kind decides; a failure to
read a catalog file ends with the same code wherever it comes from.

Results:
1. `Failure.exitCode_eq`, `Failure.report_eq`, `runCommandLine_of_error`: what the program tells and how
   it ends, by the chain.
2. `Course.errors`: what a change of UUID fails with; `concernsOnly_attemptPurge` is the same for a purge.
3. `failures_told`: every failed change of UUID and every failed purge tells its table, and ends with the
   exit code of the innermost error.
-/

namespace CatalogAdmin

open Session

/-! ## Chains -/

/-- An error in a chain: that of an operation on a table, that of a catalog file, or another one, which
has no kind. -/
inductive ChainedError
  | table (e : TableError)
  | catalog (e : Catalog.FileError)
  | other (wording : Text)

/-- The wording of an error in a chain. -/
def ChainedError.message : ChainedError → Text
  | .table e => e.message
  | .catalog e => e.message
  | .other wording => wording

/-- The error that a failure is. -/
def Failure.own : Failure → ChainedError
  | .table e => .table e
  | .catalog e => .catalog e
  | f => .other f.message

/-- The errors of a failure, from its own to the cause underneath. -/
def Failure.chain (f : Failure) : List ChainedError :=
  f.own :: (f.causeMessage?.map ChainedError.other).toList

/-- The exit code for a chain: that of the first error with a kind, and 1 if none has one. -/
def exitCodeOf : List ChainedError → Nat
  | [] => 1
  | .table e :: _ => e.kind.exitCode
  | .catalog e :: _ => e.kind.exitCode
  | .other _ :: more => exitCodeOf more

/-- What is printed for a chain: the first error, and a line for each cause. -/
def reportOf : List ChainedError → Text
  | [] => []
  | first :: causes =>
    "Error: " ++ first.message ++ '\n' ::
      causes.flatMap fun cause => "  caused by: " ++ cause.message ++ "\n"

theorem Failure.exitCode_eq (f : Failure) : f.exitCode = exitCodeOf f.chain := by
  cases f with
  | load e => cases e <;> rfl
  | _ => rfl

theorem Failure.message_own (f : Failure) : f.own.message = f.message := by
  cases f <;> rfl

theorem Failure.report_eq (f : Failure) : f.report = reportOf f.chain := by
  unfold report chain reportOf
  dsimp only
  rw [f.message_own]
  cases f.causeMessage? with
  | none => rfl
  | some cause => simp [ChainedError.message]

/-- The innermost error of an operation on a table decides the exit code. -/
theorem exitCodeOf_table (e : TableError) :
    exitCodeOf (Failure.table e).chain = e.inner.kind.exitCode := by
  rw [TableError.kind_inner]
  rfl

/-! ## Commands that fail -/

section Commands

variable {site : Site} {table : TableName} {newUuid : Uuid} {w w' : World} {f : Failure}

theorem error_of_run_changeUuid (h : Command.run site (.changeUuid table newUuid) w = .error f w') :
    ∃ e, changeUuid site table newUuid w = .error e w' ∧ f = .table e := by
  rcases error_of_bind h with hchange | ⟨report, v, -, hreport⟩
  · exact error_of_adaptExcept hchange
  · cases hreport

theorem error_of_run_deleteDetached (h : Command.run site (.deleteDetached table) w = .error f w') :
    ∃ e, purge site table w = .error e w' ∧ f = .table e := by
  rcases error_of_bind h with hpurge | ⟨report, v, -, hreport⟩
  · exact error_of_adaptExcept hpurge
  · cases hreport

theorem error_of_readCatalogFile {path : Path} (h : readCatalogFile path w = .error f w') :
    ∃ m, Catalog.readRecord w.tree path = .error m ∧ f = .catalog m := by
  obtain ⟨m, hlook, rfl⟩ := error_of_adaptExcept h
  cases hread : Catalog.readRecord w.tree path with
  | ok record => rw [look_of_ok hread] at hlook; cases hlook
  | error m' => rw [look_of_error hread] at hlook; cases hlook; exact ⟨m, rfl, rfl⟩

theorem error_of_run_showTable (h : Command.run site (.showTable table) w = .error f w') :
    ∃ m, Catalog.readRecord w.tree (site.layout.tableFile table) = .error m ∧ f = .catalog m := by
  rcases error_of_bind h with hread | ⟨record, v, -, hshow⟩
  · exact error_of_readCatalogFile hread
  · cases hshow

theorem error_of_run_showDatabase {database : Text}
    (h : Command.run site (.showDatabase database) w = .error f w') :
    ∃ m, Catalog.readRecord w.tree (site.layout.databaseFile database) = .error m ∧
      f = .catalog m := by
  rcases error_of_bind h with hread | ⟨record, v, -, hshow⟩
  · exact error_of_readCatalogFile hread
  · cases hshow

/-- A command that fails ends the program with the exit code of its chain, and its chain is told. -/
theorem runCommandLine_of_error {surroundings : Surroundings} {words : List Text} {i : Invocation}
    {settings : Settings} (hwords : surroundings.invocation words = .ok i)
    (hload : Settings.load w.tree surroundings.environment i.settingsFile = .ok settings)
    (hrun : i.command.run (surroundings.site settings) w = .error f w') :
    runCommandLine surroundings words w =
      ({ exitCode := exitCodeOf f.chain, stderr := reportOf f.chain }, w') := by
  have hi : i.run surroundings w = .error f w' := by
    unfold Invocation.run
    rw [bind_of_ok (adaptExcept_of_ok (look_of_ok hload)), hrun]
  rw [← f.exitCode_eq, ← f.report_eq]
  unfold runCommandLine
  rw [hwords]
  simp only [hi]

end Commands

/-! ## Errors that are told -/

/-- An error of an operation on a table as it is told: it names the table and, where a change is half
done, both UUIDs; its exit code is that of the innermost error's kind, and one of a catalog file has the
exit code that it has alone. What failed is not tried again. -/
structure Told (table : TableName) (e : TableError) : Prop where
  names : table.database ++ '.' :: table.table <:+: e.message
  halfDone : ∀ s, e.inner = .inconsistentState s →
    s.oldUuid.text <:+: e.message ∧ s.newUuid.text <:+: e.message
  exitCode : exitCodeOf (Failure.table e).chain = e.inner.kind.exitCode
  catalog : ∀ m, e.inner = .metadata m →
    exitCodeOf (Failure.table e).chain = exitCodeOf (Failure.catalog m).chain
  final : e.isRetryable = false

variable {site : Site} {table : TableName} {newUuid : Uuid} {w w' v : World} {e : TableError}

/-- An error that names no other table is told when its table is put before it. -/
theorem told_named (h : ∀ other, e.table? = some other → other = table) :
    Told table (e.named table) := by
  refine ⟨TableError.text_infix_named h, fun s hs => ⟨?_, ?_⟩, exitCodeOf_table _, fun m hm => ?_, rfl⟩
  · exact TableError.halfDone_infix hs (by simp)
  · exact TableError.halfDone_infix hs (by simp)
  · rw [exitCodeOf_table, hm]
    rfl

/-- What a change of UUID fails with: an error that names no other table, or one that tells of the half-done
change, with the UUID that the catalog file held and the new one. -/
theorem Course.errors {failure : UuidChangeFailure}
    (h : Course site table newUuid w (.error failure v)) :
    failure.error.ConcernsOnly table ∨
    ∃ s info record u tree, failure.error = .inconsistentState s ∧ s.table = table ∧
      s.newUuid = newUuid ∧ Prepared site table newUuid w info record u ∧
      Catalog.setUuid (catalogFileOf site table info) newUuid u.tree = .ok s.oldUuid tree := by
  cases h with
  | unanswered hinfo => exact .inl ((plain_tableInfo? site table _ _ _ hinfo).concernsOnly table)
  | invalid hinfo hvalid =>
    exact .inl (concernsOnly_validateUuidChange site table _ newUuid _ _ _ hvalid)
  | notDetached hinfo hvalid hdetach =>
    exact .inl ((plain_asTask _ _ _ _ _ hdetach).concernsOnly table)
  | notChanged hprepared hset => exact .inl ((TableError.plain_metadata _).concernsOnly table)
  | notRelocated hprepared hset hmove => exact .inr ⟨_, _, _, _, _, rfl, rfl, rfl, hprepared, hset⟩

/-- A failed change of UUID tells its table. A half-done one tells the UUID that the catalog file held and
the one it was given. -/
theorem told_changeUuid (h : changeUuid site table newUuid w = .error e w') :
    Told table e ∧ ∀ s, e.inner = .inconsistentState s →
      s.table = table ∧ s.newUuid = newUuid ∧ ∃ info record v tree,
        Prepared site table newUuid w info record v ∧
        Catalog.setUuid (catalogFileOf site table info) newUuid v.tree = .ok s.oldUuid tree := by
  obtain ⟨failure, v, hrun, rfl, -⟩ := exists_of_changeUuid_error h
  have hcourse := course_attemptUuidChange site table newUuid w
  rw [hrun] at hcourse
  rcases hcourse.errors with hconcerns | ⟨s, info, record, u, tree, he, rfl, hnew, hprepared, hset⟩
  · refine ⟨told_named hconcerns.names, fun s hs => absurd ?_ hconcerns.notHalfDone⟩
    rw [TableError.inner_named] at hs
    exact TableError.kind_eq_inconsistentState_iff.2 ⟨s, hs⟩
  · rw [he]
    refine ⟨told_named fun _ hother => (Option.some.inj hother).symm, fun s' hs' => ?_⟩
    cases hs'
    exact ⟨rfl, hnew, info, record, u, tree, hprepared, hset⟩

/-- A failed purge tells its table, and leaves no change of UUID half done. -/
theorem told_purge (hremover : site.remover.NamesNoTable)
    (h : purge site table w = .error e w') : Told table e ∧ e.kind ≠ .inconsistentState := by
  obtain ⟨cause, hrun, rfl⟩ := error_of_adaptExcept h
  have hconcerns := concernsOnly_attemptPurge hremover table _ _ _ hrun
  exact ⟨told_named hconcerns.names, by rw [TableError.kind_named]; exact hconcerns.notHalfDone⟩

/-- A command that changes the UUID of a table or purges it fails with an error that tells the table. -/
theorem told_of_run {command : Command} {f : Failure} (hremover : site.remover.NamesNoTable)
    (hcommand : command = .changeUuid table newUuid ∨ command = .deleteDetached table)
    (hrun : command.run site w = .error f w') : ∃ e, f = .table e ∧ Told table e := by
  rcases hcommand with rfl | rfl
  · obtain ⟨e, h, rfl⟩ := error_of_run_changeUuid hrun
    exact ⟨e, rfl, (told_changeUuid h).1⟩
  · obtain ⟨e, h, rfl⟩ := error_of_run_deleteDetached hrun
    exact ⟨e, rfl, (told_purge hremover h).1⟩

/-- A table that is put before an error changes neither its kind and exit code nor its cause, and is put
before it once. Every failed change of UUID and every failed purge tells its table, and a half-done change
also the UUID that the catalog file held and the one it was given. For a purge the errors of the remover
itself must name no table, as those of the host's programs do. The program tells the chain of errors and
ends with its exit code: for these commands that of the innermost error, which for a catalog file is the one
that a command gets which only reads it. -/
theorem failures_told :
    (∀ (e : TableError) (table other : TableName),
      (e.named table).kind = e.kind ∧ (e.named table).kind.exitCode = e.kind.exitCode ∧
      (e.named table).inner = e.inner ∧ (e.named table).named other = e.named table ∧
      e.inner.kind = e.kind ∧ ∀ t e', e.inner ≠ .onTable t e') ∧
    (∀ site table newUuid w e w', changeUuid site table newUuid w = .error e w' →
      Told table e ∧ ∀ s, e.inner = .inconsistentState s →
        s.table = table ∧ s.newUuid = newUuid ∧ ∃ info record v tree,
          Prepared site table newUuid w info record v ∧
          Catalog.setUuid (catalogFileOf site table info) newUuid v.tree = .ok s.oldUuid tree) ∧
    (∀ site table w e w', site.remover.NamesNoTable → purge site table w = .error e w' →
      Told table e ∧ e.kind ≠ .inconsistentState) ∧
    (∀ (host : Host) disks, (host.remover disks).NamesNoTable) ∧
    ∀ (surroundings : Surroundings) words i settings w f w',
      surroundings.invocation words = .ok i →
      Settings.load w.tree surroundings.environment i.settingsFile = .ok settings →
      i.command.run (surroundings.site settings) w = .error f w' →
      runCommandLine surroundings words w =
        ({ exitCode := exitCodeOf f.chain, stderr := reportOf f.chain }, w') ∧
      (∀ table newUuid, i.command = .changeUuid table newUuid ∨ i.command = .deleteDetached table →
        ∃ e, f = .table e ∧ Told table e) ∧
      (∀ table database, i.command = .showTable table ∨ i.command = .showDatabase database →
        ∃ m, f = .catalog m) := by
  refine ⟨fun e table other => ?_, ?_, ?_, Host.remover_namesNoTable, ?_⟩
  · have hkind := TableError.kind_named e table
    exact ⟨hkind, congrArg ErrorKind.exitCode hkind, TableError.inner_named e table,
      TableError.named_named e table other, TableError.kind_inner e, TableError.inner_ne_onTable e⟩
  · exact fun _ _ _ _ _ _ h => told_changeUuid h
  · exact fun _ _ _ _ _ hremover h => told_purge hremover h
  · intro surroundings words i settings w f w' hwords hload hrun
    refine ⟨runCommandLine_of_error hwords hload hrun, fun table newUuid hcommand => ?_,
      fun table database hcommand => ?_⟩
    · exact told_of_run (surroundings.host.remover_namesNoTable settings.disks) hcommand hrun
    · rcases hcommand with hcommand | hcommand <;> rw [hcommand] at hrun
      · obtain ⟨m, -, hm⟩ := error_of_run_showTable hrun
        exact ⟨m, hm⟩
      · obtain ⟨m, -, hm⟩ := error_of_run_showDatabase hrun
        exact ⟨m, hm⟩

/-- A network over which every query has one row for an answer, so that every table is attached. -/
def attachingNetwork : Surroundings where
  environment := []
  network := fun _ _ => .response 200 "\x7b\"data\": [\x7b\"1\": 1\x7d]\x7d"
  host := ⟨[], []⟩

/-- A change that is left half done, a purge that the remover fails in, and a purge of an attached table as
a command. -/
theorem failures_told_attached :
    (∃ e w', changeUuid occupiedSite ⟨"db", "t"⟩ (Uuid.constant 1) { tree := occupiedTree } =
        .error e w' ∧ Told ⟨"db", "t"⟩ e ∧
      ∃ s, e.inner = .inconsistentState s ∧ s.newUuid = Uuid.constant 1) ∧
    (∃ e w', purge (eventsSite 36) ⟨"db", "events"⟩ { tree := detachedTree } = .error e w' ∧
      e.kind = .externalTool ∧ Told ⟨"db", "events"⟩ e) ∧
    Told ⟨"db", "events"⟩ (.validation (.tableAttached ⟨"db", "events"⟩)) ∧
    ∃ w', runCommandLine attachingNetwork ["table", "delete-detached", "db", "events"]
        { tree := detachedTree } =
      ({ exitCode := 2,
         stderr := "Error: table db.events is attached; delete it with DROP TABLE instead\n" }, w') := by
  obtain ⟨-, hchange, hpurge, -, hprogram⟩ := failures_told
  refine ⟨?_, ?_, ?_⟩
  · have hrun : failsRelocating (changeUuid occupiedSite ⟨"db", "t"⟩ (Uuid.constant 1)
        { tree := occupiedTree }) = true := by
      decide +kernel
    obtain ⟨e, w', h, hkind, -⟩ := exists_of_failsRelocating hrun
    obtain ⟨htold, hhalf⟩ := hchange _ _ _ _ _ _ h
    obtain ⟨s, hs⟩ := TableError.kind_eq_inconsistentState_iff.1 hkind
    exact ⟨e, w', h, htold, s, hs, (hhalf s hs).2.1⟩
  · have hrun : failsWith (fun e _ => e.kind = .externalTool)
        (purge (eventsSite 36) ⟨"db", "events"⟩ { tree := detachedTree }) = true := by
      decide +kernel
    obtain ⟨e, w', h, hkind⟩ := exists_of_failsWith hrun
    have hremover : (eventsSite 36).remover.NamesNoTable := fun _ _ _ _ h => by cases h
    exact ⟨e, w', h, of_decide_eq_true hkind, (hpurge _ _ _ _ _ hremover h).1⟩
  · have hwords : attachingNetwork.invocation ["table", "delete-detached", "db", "events"] =
        .ok { command := .deleteDetached ⟨"db", "events"⟩ } := by
      decide +kernel
    have hload : Settings.load detachedTree attachingNetwork.environment none = .ok {} := by
      decide +kernel
    have hrun : failsWith (fun f _ => f = .table (.validation (.tableAttached ⟨"db", "events"⟩)))
        (Command.run (attachingNetwork.site {}) (.deleteDetached ⟨"db", "events"⟩)
          { tree := detachedTree }) = true := by
      decide +kernel
    obtain ⟨f, w', h, hf⟩ := exists_of_failsWith hrun
    obtain rfl := of_decide_eq_true hf
    obtain ⟨hend, htold, -⟩ := hprogram _ _ _ _ _ _ _ hwords hload h
    obtain ⟨e, he, htold⟩ := htold ⟨"db", "events"⟩ (Uuid.constant 0) (.inr rfl)
    cases he
    exact ⟨htold, w', hend⟩

end CatalogAdmin
