import CatalogAdmin.Proofs.Catalog.File
import CatalogAdmin.Proofs.UuidChange.Failure

/-!
# Catalog files that cannot take the new UUID

Validation reads a catalog file also where its UUID literal is not closed, but such a file takes no
new UUID. This is found out when the table is detached already. `setUuid_of_error` shows that it is
the one reason why a file that was found valid does not take its new UUID, and
`changeUuid_of_open_literal` what it means for whole runs.
-/

namespace CatalogAdmin

open Session

/-! ## The file -/

namespace Catalog

variable {t t' : FileTree} {p : Path}

/-- A file that has a record, and room beside it, fails to take a new UUID only for a literal that is not
closed. -/
theorem setUuid_of_error {uuid : Uuid} {record : Record} {e : FileError}
    (h : setUuid p uuid t = .error e t') (hread : readRecord t p = .ok record) :
    ∃ text, t.readText p = .ok text ∧ Record.parse text = .ok record ∧
      (t.RoomBeside p → ¬ Closed text.lines ∧ e = .parse p .missingUuid) := by
  obtain ⟨text, htext, hparse⟩ := readRecord_eq_ok_iff.1 hread
  refine ⟨text, htext, hparse, fun hroom => ?_⟩
  have hformat := ((format_iff text).1 record).1 hparse
  by_cases hclosed : Closed text.lines
  · -- the text takes the UUID, and the file takes the text
    obtain ⟨old, hstat, -⟩ := exists_of_readText htext
    obtain ⟨l, hl, -⟩ := FileTree.exists_of_stat hstat
    obtain ⟨place, hplace⟩ := FileTree.exists_place hl
    cases h.symm.trans
      (setUuid_of_text htext (replaceUuid_of_closed hformat hclosed uuid) hstat hplace hroom)
  · unfold setUuid modify modifyBy at h
    rw [bind_of_ok (get_eq t), htext] at h
    simp only [replaceUuid_of_open hformat hclosed] at h
    cases h
    exact ⟨hclosed, rfl⟩

/-- A file with a record took a new UUID, so its literal is closed. -/
theorem closed_of_setUuid {uuid previous : Uuid} {record : Record}
    (h : setUuid p uuid t = .ok previous t') (hread : readRecord t p = .ok record) :
    ∃ text, t.readText p = .ok text ∧ Record.parse text = .ok record ∧ Closed text.lines := by
  obtain ⟨text, htext, hparse⟩ := readRecord_eq_ok_iff.1 hread
  obtain ⟨found, _, _, _, hfound, hreplace, -⟩ := setUuid_of_ok h
  obtain rfl : text = found := Except.ok.inj (htext.symm.trans hfound)
  exact ⟨text, htext, hparse, (replaceUuid_of_parse hparse hreplace).1⟩

end Catalog

/-! ## The run -/

section Runs

variable {answers : List Sent → Sent → Except ClientError (List Row)} {site : Site}
  {table : TableName} {newUuid : Uuid} {w v w' : World}

/-- A run that failed at the catalog file had found the change valid. Where there is room beside the file
its literal is not closed. -/
theorem Course.notChanged_of_phase (hs : site.server = .ofAnswers answers)
    {failure : UuidChangeFailure} (h : Course site table newUuid w (.error failure v))
    (hphase : failure.phase = .changingCatalog) :
    ∃ info record text, Validated answers site table newUuid w v info record ∧
      w.tree.readText (catalogFileOf site table info) = .ok text ∧
      Catalog.Record.parse text = .ok record ∧
      (w.tree.RoomBeside (catalogFileOf site table info) → ¬ Catalog.Closed text.lines ∧
        failure.error = .metadata (.parse (catalogFileOf site table info) .missingUuid)) := by
  cases h with
  | unanswered _ | invalid _ _ | notDetached _ _ _ | notRelocated _ _ _ => cases hphase
  | @notChanged info record e v tree hp hset =>
    obtain ⟨hvalidated, asked, -, rfl⟩ := hp.world hs
    -- the file is the one that was read in validation
    obtain ⟨text, htext, hparse, hopen⟩ := Catalog.setUuid_of_error hset hvalidated.read
    exact ⟨info, record, text, hvalidated.extend [] (List.append_nil _).symm, htext, hparse,
      fun hroom => (hopen hroom).imp_right fun h => congrArg TableError.metadata h⟩

/-- A run that went well changed a file whose literal is closed. -/
theorem Course.closed_of_changed (hs : site.server = .ofAnswers answers)
    {report : UuidChangeReport} (h : Course site table newUuid w (.ok report v)) :
    ∃ info text, w.tree.readText (catalogFileOf site table info) = .ok text ∧
      Catalog.Closed text.lines := by
  cases h with
  | @changed info record oldUuid _ v _ tree hp hset _ =>
    obtain ⟨hvalidated, asked, -, rfl⟩ := hp.world hs
    obtain ⟨text, htext, -, hclosed⟩ := Catalog.closed_of_setUuid hset hvalidated.read
    exact ⟨info, text, htext, hclosed⟩

end Runs

/-- A text that is read takes a new UUID, and gives back the one that was read, if and only if its
UUID literal is closed. A change of UUID that fails at the catalog file, with the table detached, has
found the change of that file valid. Unless no new file can be made beside it, its literal is not
closed. No run changes such a file. -/
theorem changeUuid_of_open_literal (settings : Settings)
    (answers : List Sent → Sent → Except ClientError (List Row)) (remover : Remover)
    (table : TableName) (newUuid : Uuid) :
    let site : Site := ⟨settings, .ofAnswers answers, remover⟩
    (∀ text record uuid, Catalog.Record.parse text = .ok record →
      ((∃ changed, Catalog.replaceUuid text uuid = .ok (record.uuid, changed)) ↔
        Catalog.Closed text.lines) ∧
      (¬ Catalog.Closed text.lines → Catalog.replaceUuid text uuid = .error .missingUuid)) ∧
    (∀ w e w', changeUuid site table newUuid w = .error e w' →
      w'.events.getLast? = some (.transition .changingCatalog .failed) →
      ∃ info record text, Validated answers site table newUuid w w' info record ∧
        w.tree.readText (catalogFileOf site table info) = .ok text ∧
        Catalog.Record.parse text = .ok record ∧
        (w.tree.RoomBeside (catalogFileOf site table info) → ¬ Catalog.Closed text.lines ∧
          e = (TableError.metadata
            (.parse (catalogFileOf site table info) .missingUuid)).named table)) ∧
    ∀ w report w', changeUuid site table newUuid w = .ok report w' →
      ∃ info text, w.tree.readText (catalogFileOf site table info) = .ok text ∧
        Catalog.Closed text.lines := by
  intro site
  refine ⟨?_, ?_, ?_⟩
  · intro text record uuid hparse
    have hformat := ((Catalog.format_iff text).1 record).1 hparse
    refine ⟨⟨?_, fun hclosed => ⟨_, Catalog.replaceUuid_of_closed hformat hclosed uuid⟩⟩,
      fun hopen => Catalog.replaceUuid_of_open hformat hopen uuid⟩
    rintro ⟨changed, hreplace⟩
    exact (Catalog.replaceUuid_of_parse hparse hreplace).1
  · intro w e w' h hlast
    obtain ⟨failure, v, hrun, rfl, rfl⟩ := exists_of_changeUuid_error h
    have hcourse := course_attemptUuidChange site table newUuid w
    rw [hrun] at hcourse
    have hphase : failure.phase = .changingCatalog := by
      simpa [World.telling] using hlast
    obtain ⟨info, record, text, hvalidated, htext, hparse, hopen⟩ :=
      hcourse.notChanged_of_phase rfl hphase
    exact ⟨info, record, text, hvalidated.extend [] (List.append_nil _).symm, htext, hparse,
      fun hroom => (hopen hroom).imp_right fun h => congrArg (TableError.named · table) h⟩
  · intro w report w' h
    have hcourse := course_attemptUuidChange site table newUuid w
    unfold changeUuid at h
    cases hrun : attemptUuidChange site table newUuid w with
    | error failure v => rw [hrun] at h; cases h
    | ok found v =>
      rw [hrun] at hcourse
      exact hcourse.closed_of_changed rfl

/-! ## A literal without its closing quote -/

/-- A catalog file whose UUID literal ends with its line. -/
def openFile : Text := "ATTACH TABLE _ UUID '" ++ (Uuid.constant 0).text ++ "\nENGINE = Log\n"

/-- A tree with that file. -/
def openTree : FileTree where
  entries :=
    [(["srv"], .directory), (["srv", "metadata"], .directory), (["srv", "metadata", "db"], .directory),
      (["srv", "metadata", "db", "t.sql"], .file ⟨.text openFile, 0o640, 7, 7⟩)]

/-- The run detaches the table, fails at the catalog file, and leaves the files as they were. -/
theorem openFile_detached :
    ∃ e w', changeUuid occupiedSite ⟨"db", "t"⟩ (Uuid.constant 1) { tree := openTree } =
        .error e w' ∧ w'.events.getLast? = some (.transition .changingCatalog .failed) ∧
      (∃ s ∈ w'.sent, s.IsDetach) ∧ w'.tree = openTree := by
  have hrun : failsWith (fun _ w => decide (w.events.getLast? =
      some (.transition .changingCatalog .failed) ∧ (∃ s ∈ w.sent, s.IsDetach) ∧ w.tree = openTree))
      (changeUuid occupiedSite ⟨"db", "t"⟩ (Uuid.constant 1) { tree := openTree }) = true := by
    decide +kernel
  obtain ⟨e, w', h, hend⟩ := exists_of_failsWith hrun
  exact ⟨e, w', h, of_decide_eq_true hend⟩

theorem openFile_parse :
    Catalog.Record.parse openFile = .ok ⟨.table, Uuid.constant 0, "Log", .plain⟩ := rfl

theorem info_of_attachedAnswers {site : Site} {table : TableName} {w w' : World} {info : Option TableInfo}
    (h : Reported attachedAnswers site table w w' info) :
    info = some ⟨Uuid.constant 0, "metadata/db/t.sql"⟩ := by
  obtain ⟨rows, infos, ⟨_, _, -, hrows⟩, hread, rfl⟩ := h
  cases hrows
  have hinfos : [(⟨Uuid.constant 0, "metadata/db/t.sql"⟩ : TableInfo)] = infos :=
    Option.some.inj ((show _ = _ by decide +kernel).trans hread)
  rw [← hinfos]
  rfl

/-- The file is read and takes no UUID, and the change of its UUID fails for its literal, with the
table detached. Where the literal is closed and no store is in the way, the change goes well. -/
theorem changeUuid_of_open_literal_attached :
    ((∃ changed, Catalog.replaceUuid openFile (Uuid.constant 1) = .ok (Uuid.constant 0, changed)) ↔
      Catalog.Closed openFile.lines) ∧
    (∃ e w', changeUuid occupiedSite ⟨"db", "t"⟩ (Uuid.constant 1) { tree := openTree } =
        .error e w' ∧ (∃ s ∈ w'.sent, s.IsDetach) ∧
      ∃ (info : Option TableInfo) (record : Catalog.Record) (text : Text),
        Catalog.Record.parse text = .ok record ∧ ¬ Catalog.Closed text.lines ∧
        e = (TableError.metadata
          (.parse (catalogFileOf occupiedSite ⟨"db", "t"⟩ info) .missingUuid)).named ⟨"db", "t"⟩) ∧
    ∃ report w', changeUuid occupiedSite ⟨"db", "t"⟩ (Uuid.constant 1)
        { tree := occupiedTree.erase ["srv", "store"] } = .ok report w' ∧
      ∃ (info : Option TableInfo) (text : Text),
        (occupiedTree.erase ["srv", "store"]).readText
          (catalogFileOf occupiedSite ⟨"db", "t"⟩ info) = .ok text ∧ Catalog.Closed text.lines := by
  obtain ⟨htexts, hfailed, hchanged⟩ := changeUuid_of_open_literal occupiedSite.settings
    attachedAnswers occupiedSite.remover ⟨"db", "t"⟩ (Uuid.constant 1)
  refine ⟨(htexts _ _ _ openFile_parse).1, ?_, ?_⟩
  · obtain ⟨e, w', h, hlast, hdetached, -⟩ := openFile_detached
    obtain ⟨info, record, text, hvalidated, -, hparse, hopen⟩ := hfailed _ _ _ h hlast
    have hroom : openTree.RoomBeside (catalogFileOf occupiedSite ⟨"db", "t"⟩ info) := by
      rw [info_of_attachedAnswers hvalidated.reported]
      decide +kernel
    obtain ⟨hopen, he⟩ := hopen hroom
    exact ⟨e, w', h, hdetached, info, record, text, hparse, hopen, he⟩
  · have hrun : endsWell (changeUuid occupiedSite ⟨"db", "t"⟩ (Uuid.constant 1)
        { tree := occupiedTree.erase ["srv", "store"] }) = true := by
      decide +kernel
    obtain ⟨report, w', h⟩ := exists_of_endsWell hrun
    exact ⟨report, w', h, hchanged _ _ _ h⟩

/-- Reading does not ask for the closing quote that replacing needs: this file is read, no UUID can be
replaced in it, and a change of UUID detaches the table before it finds out. -/
theorem openFile_read_not_replaced :
    (∃ record, Catalog.Record.parse openFile = .ok record ∧
      ∀ uuid, Catalog.replaceUuid openFile uuid = .error .missingUuid) ∧
    ∃ e w', changeUuid occupiedSite ⟨"db", "t"⟩ (Uuid.constant 1) { tree := openTree } =
        .error e w' ∧ (∃ s ∈ w'.sent, s.IsDetach) ∧ w'.tree = openTree := by
  obtain ⟨e, w', h, -, hdetached, htree⟩ := openFile_detached
  exact ⟨⟨_, openFile_parse, fun _ => rfl⟩, e, w', h, hdetached, htree⟩

end CatalogAdmin
