import CatalogAdmin.Catalog.File
import CatalogAdmin.Proofs.Catalog.Declaration
import CatalogAdmin.Proofs.Catalog.NewUuid
import CatalogAdmin.Proofs.FileTree.Changes
import CatalogAdmin.Proofs.FileTree.Moves
import CatalogAdmin.Proofs.FileTree.Staging

/-!
# Catalog files where they stand

A file has a record if its text is read as that record (`readRecord_eq_ok_iff`). Giving it a new UUID
fails and changes nothing, or puts the new text in its place (`setUuid_cases`).
-/

namespace CatalogAdmin.Catalog

open Session
open FileTree

variable {t t' : FileTree} {p : Path}

/-- A file has a record if its text is read as that record. -/
theorem readRecord_eq_ok_iff {record : Record} :
    readRecord t p = .ok record ↔ ∃ text, t.readText p = .ok text ∧ Record.parse text = .ok record := by
  unfold readRecord
  cases t.readText p with
  | error e => simp
  | ok text => cases hparse : Record.parse text <;> simp [hparse]

/-- What is read of a file is what its text is parsed to. -/
theorem parse_of_readRecord {record : Record} {text : Text} (h : readRecord t p = .ok record)
    (htext : t.readText p = .ok text) : Record.parse text = .ok record := by
  obtain ⟨found, hfound, hparse⟩ := readRecord_eq_ok_iff.1 h
  obtain rfl : text = found := Except.ok.inj (htext.symm.trans hfound)
  exact hparse

theorem exists_of_readText {text : Text} (h : t.readText p = .ok text) :
    ∃ f, t.stat true p = .ok (.file f) ∧ f.content = .text text := by
  unfold readText at h
  cases hs : t.stat true p with
  | error e => rw [hs] at h; cases h
  | ok node =>
    rw [hs] at h
    cases node with
    | directory | link => cases h
    | file f =>
      obtain ⟨content, mode, owner, group⟩ := f
      cases content with
      | text found => cases h; exact ⟨_, rfl, rfl⟩
      | bytes => cases h

theorem readText_of_stat {f : File} {text : Text} (h : t.stat true p = .ok (.file f))
    (hcontent : f.content = .text text) : t.readText p = .ok text := by
  obtain ⟨content, mode, owner, group⟩ := f
  cases hcontent
  rw [readText, h]
  rfl

/-- Ways of writing that do the same in a tree change a file's text alike. -/
theorem modifyBy_congr {α : Type} {write write' : Text → EStateM IoError FileTree Unit} (p : Path)
    (change : Text → Except ParseError (α × Text)) (h : ∀ text, write text t = write' text t) :
    modifyBy write p change t = modifyBy write' p change t := by
  unfold modifyBy
  rw [bind_of_ok (get_eq t), bind_of_ok (get_eq t)]
  cases t.readText p with
  | error e => rfl
  | ok text =>
  cases hchange : change text with
  | error e => simp only [hchange]
  | ok result =>
    simp only [hchange]
    cases hrun : write' result.2 t with
    | ok _ t' =>
      rw [bind_of_ok (adaptExcept_of_ok ((h result.2).trans hrun)), bind_of_ok (adaptExcept_of_ok hrun)]
    | error e t' =>
      rw [bind_of_error (adaptExcept_of_error ((h result.2).trans hrun)),
        bind_of_error (adaptExcept_of_error hrun)]

/-- How changing a file's text ends: it fails and changes nothing, or the file stands with the new text
where the path led before its last link. -/
theorem modify_cases {α : Type} (p : Path) (change : Text → Except ParseError (α × Text))
    (t : FileTree) :
    (∃ e, Catalog.modify p change t = .error e t) ∨
    ∃ text changed answer old place, t.readText p = .ok text ∧ change text = .ok (answer, changed) ∧
      t.stat true p = .ok (.file old) ∧ t.locate false p = .ok place ∧
      Catalog.modify p change t = .ok answer (t.put place (.file (rewritten old changed))) := by
  unfold Catalog.modify modifyBy
  rw [bind_of_ok (get_eq t)]
  cases hread : t.readText p with
  | error e => exact .inl ⟨.io p e, rfl⟩
  | ok text =>
  cases hchange : change text with
  | error e => exact .inl ⟨.parse p e, by simp only [hchange]; rfl⟩
  | ok result =>
  obtain ⟨answer, changed⟩ := result
  simp only [hchange]
  rcases replaceText_cases p changed t with ⟨e, hrun⟩ | ⟨old, place, hold, hplace, hrun⟩
  · exact .inl ⟨.io p e, bind_of_error (adaptExcept_of_error hrun)⟩
  · exact .inr ⟨text, changed, answer, old, place, rfl, hchange, hold, hplace,
      bind_of_ok (adaptExcept_of_ok hrun)⟩

/-- How giving a catalog file a new UUID ends: it fails and changes nothing, or the file stands with
the new text where the path led before its last link. -/
theorem setUuid_cases (p : Path) (uuid : Uuid) (t : FileTree) :
    (∃ e, setUuid p uuid t = .error e t) ∨
    ∃ text changed previous old place, t.readText p = .ok text ∧
      replaceUuid text uuid = .ok (previous, changed) ∧ t.stat true p = .ok (.file old) ∧
      t.locate false p = .ok place ∧
      setUuid p uuid t = .ok previous (t.put place (.file (rewritten old changed))) :=
  modify_cases p (fun text => replaceUuid text uuid) t

/-- How giving a catalog file a new engine ends: it fails and changes nothing, or the file stands with
the new text where the path led before its last link. -/
theorem setEngine_cases (p : Path) (d : Declaration) (t : FileTree) :
    (∃ e, setEngine p d t = .error e t) ∨
    ∃ text changed old place, t.readText p = .ok text ∧ replaceEngine text d.text = .ok changed ∧
      t.stat true p = .ok (.file old) ∧ t.locate false p = .ok place ∧
      setEngine p d t = .ok () (t.put place (.file (rewritten old changed))) := by
  rcases modify_cases p (fun text => (replaceEngine text d.text).map ((), ·)) t with
    hfail | ⟨text, changed, _, old, place, htext, hchange, hold, hplace, hrun⟩
  · exact .inl hfail
  · cases hengine : replaceEngine text d.text with
    | error e => rw [hengine] at hchange; cases hchange
    | ok found =>
      rw [hengine] at hchange
      cases hchange
      exact .inr ⟨text, changed, old, place, htext, hengine, hold, hplace, hrun⟩

/-- A file that took a new engine is read as before, with that engine. -/
theorem parse_of_setEngine {text changed : Text} {record : Record} {d : Declaration}
    (hr : Record.parse text = .ok record) (hd : d.OnOneLine)
    (h : replaceEngine text d.text = .ok changed) :
    Record.parse changed = .ok { record with engineName := d.engineName, engine := d.engine } := by
  obtain ⟨uuidLine, engineLine, huuid, hengine, hdescribes⟩ := ((format_iff text).1 record).1 hr
  obtain ⟨value, hvalue, hparse⟩ := hdescribes.uuid
  have hheaders := headers_of_one huuid hdescribes.kind hvalue
  have hone : (text.lines.filter isEngineLine).length = 1 := by
    rw [filter_isEngineLine, hengine]
    rfl
  obtain ⟨piece, hpiece⟩ := List.length_eq_one_iff.1 ((length_engine_pieces text).trans hone)
  rw [replaceEngine, hpiece] at h
  cases h
  exact parse_withEngine hheaders hparse hone hd

/-- Where a catalog file took a new UUID, it held a text with another one in its place. -/
theorem setUuid_of_ok {uuid previous : Uuid} (h : setUuid p uuid t = .ok previous t') :
    ∃ text changed old place, t.readText p = .ok text ∧
      replaceUuid text uuid = .ok (previous, changed) ∧ t.stat true p = .ok (.file old) ∧
      t.locate false p = .ok place ∧ t' = t.put place (.file (rewritten old changed)) := by
  rcases setUuid_cases p uuid t with ⟨e, hrun⟩ |
    ⟨text, changed, _, old, place, htext, hreplace, hold, hplace, hrun⟩
  · rw [hrun] at h
    cases h
  · rw [hrun] at h
    cases h
    exact ⟨text, changed, old, place, htext, hreplace, hold, hplace, rfl⟩

/-- The start directory is where it was when a file took a new UUID. -/
theorem here_of_setUuid {uuid previous : Uuid} (h : setUuid p uuid t = .ok previous t') :
    t'.here = t.here := by
  obtain ⟨_, _, _, _, -, -, -, -, rfl⟩ := setUuid_of_ok h
  rfl

/-- Directories are directories still when a file took a new UUID. -/
theorem grounded_of_setUuid {uuid previous : Uuid} {dir : Location}
    (h : setUuid p uuid t = .ok previous t') (hdir : t.Grounded dir) : t'.Grounded dir := by
  obtain ⟨_, _, _, _, -, -, hold, hplace, rfl⟩ := setUuid_of_ok h
  exact hdir.put_place hold hplace _

/-- A file whose text takes a new UUID gets it, where there is room beside it. -/
theorem setUuid_of_text {uuid previous : Uuid} {text changed : Text} {old : File} {place : Location}
    (htext : t.readText p = .ok text) (hreplace : replaceUuid text uuid = .ok (previous, changed))
    (hold : t.stat true p = .ok (.file old)) (hplace : t.locate false p = .ok place)
    (hroom : t.RoomBeside p) :
    setUuid p uuid t = .ok previous (t.put place (.file (rewritten old changed))) := by
  unfold setUuid Catalog.modify modifyBy
  rw [bind_of_ok (get_eq t), htext]
  simp only [hreplace]
  exact bind_of_ok (adaptExcept_of_ok (replaceText_of_room hold hplace hroom changed))

/-- Without room beside it a file takes no new UUID. -/
theorem setUuid_of_no_room {uuid previous : Uuid} {text changed : Text} {old : File}
    (htext : t.readText p = .ok text) (hreplace : replaceUuid text uuid = .ok (previous, changed))
    (hold : t.stat true p = .ok (.file old)) (hroom : ¬ t.RoomBeside p) :
    setUuid p uuid t = .error (.io p (t.noRoomCause p)) t := by
  unfold setUuid Catalog.modify modifyBy
  rw [bind_of_ok (get_eq t), htext]
  simp only [hreplace]
  exact bind_of_error (adaptExcept_of_error (replaceText_of_no_room hold hroom changed))

/-- Where two trees have the same at a path and beside it, a file takes a new UUID in both, or in
none. -/
theorem setUuid_congr (uuid : Uuid) (hstat : t'.stat true p = t.stat true p)
    (hlocate : t'.locate false p = t.locate false p) (hbeside : t'.SameBeside t p) :
    (∃ e, setUuid p uuid t = .error e t ∧ setUuid p uuid t' = .error e t') ∨
    ∃ previous f f' place, t.stat true p = .ok (.file f) ∧ t.locate false p = .ok place ∧
      setUuid p uuid t = .ok previous (t.put place (.file f')) ∧
      setUuid p uuid t' = .ok previous (t'.put place (.file f')) := by
  have hsame : t'.readText p = t.readText p := by rw [readText, readText, hstat]
  cases htext : t.readText p with
  | error e =>
    have hrun : ∀ tree : FileTree, tree.readText p = .error e →
        setUuid p uuid tree = .error (.io p e) tree := fun tree h => by
      unfold setUuid Catalog.modify modifyBy
      rw [bind_of_ok (get_eq tree), h]
      rfl
    exact .inl ⟨_, hrun t htext, hrun t' (hsame.trans htext)⟩
  | ok text =>
  cases hreplace : replaceUuid text uuid with
  | error e =>
    have hrun : ∀ tree : FileTree, tree.readText p = .ok text →
        setUuid p uuid tree = .error (.parse p e) tree := fun tree h => by
      unfold setUuid Catalog.modify modifyBy
      rw [bind_of_ok (get_eq tree), h]
      simp only [hreplace]
      rfl
    exact .inl ⟨_, hrun t htext, hrun t' (hsame.trans htext)⟩
  | ok answer =>
    obtain ⟨previous, changed⟩ := answer
    obtain ⟨f, hfile, -⟩ := exists_of_readText htext
    by_cases hroom : t.RoomBeside p
    · obtain ⟨l, hl, -⟩ := exists_of_stat hfile
      obtain ⟨place, hplace⟩ := exists_place hl
      exact .inr ⟨previous, f, _, place, hfile, hplace,
        setUuid_of_text htext hreplace hfile hplace hroom,
        setUuid_of_text (hsame.trans htext) hreplace (hstat.trans hfile) (hlocate.trans hplace)
          (hbeside.roomBeside_iff.2 hroom)⟩
    · have hroom' : ¬ t'.RoomBeside p := fun h => hroom (hbeside.roomBeside_iff.1 h)
      refine .inl ⟨_, setUuid_of_no_room htext hreplace hfile hroom, ?_⟩
      rw [← hbeside.noRoomCause_eq]
      exact setUuid_of_no_room (hsame.trans htext) hreplace (hstat.trans hfile) hroom'

theorem tree_of_setUuid_error {uuid : Uuid} {e : FileError} (h : setUuid p uuid t = .error e t') :
    t' = t := by
  rcases setUuid_cases p uuid t with ⟨_, hrun⟩ | ⟨_, _, _, _, _, _, _, _, _, hrun⟩
  · rw [hrun] at h
    cases h
    rfl
  · rw [hrun] at h
    cases h

/-- The UUID that is replaced is the one in the record of the file. -/
theorem uuid_of_setUuid {uuid previous : Uuid} {record : Record}
    (hset : setUuid p uuid t = .ok previous t') (hread : readRecord t p = .ok record) :
    record.uuid = previous := by
  obtain ⟨text, changed, _, _, htext, hreplace, _, _, _⟩ := setUuid_of_ok hset
  exact (replaceUuid_of_parse (parse_of_readRecord hread htext) hreplace).2.1

end CatalogAdmin.Catalog
