import CatalogAdmin.Command.Run
import CatalogAdmin.Proofs.Catalog.LineFeeds
import CatalogAdmin.Proofs.Purge.DatabaseFile

/-!
# Databases that are given another engine

The command looks at the catalog file before it writes, not after it. What it writes is read as the
database that was there, with the new engine, if the words of the engine hold no line feed; if one does,
the file is read as nothing any more (`setEngine_effect`). The command line takes words with line feeds,
so a database can be lost to its own command (`setEngine_loses_database`).
-/

namespace CatalogAdmin

open Session FileTree

variable {site : Site} {database : Text} {engine : EngineChoice} {w w' : World} {t : FileTree}
  {p : Path} {d : Catalog.Declaration}

/-- How giving a database another engine ends: it fails and changes nothing, or its catalog file stands
with the declaration in the place of its engine line. -/
theorem setDatabaseEngine_cases (layout : Layout) (database : Text) (d : Catalog.Declaration)
    (w : World) :
    (∃ e, setDatabaseEngine layout database d w = .error e w) ∨
    ∃ record text changed old place,
      Catalog.readRecord w.tree (layout.databaseFile database) = .ok record ∧
      record.kind = .database ∧ w.tree.readText (layout.databaseFile database) = .ok text ∧
      Catalog.replaceEngine text d.text = .ok changed ∧
      w.tree.stat true (layout.databaseFile database) = .ok (.file old) ∧
      w.tree.locate false (layout.databaseFile database) = .ok place ∧
      setDatabaseEngine layout database d w =
        .ok () { w with tree := w.tree.put place (.file (FileTree.rewritten old changed)) } := by
  unfold setDatabaseEngine readCatalogFile
  cases hread : Catalog.readRecord w.tree (layout.databaseFile database) with
  | error e => exact .inl ⟨_, bind_of_error (adaptExcept_of_error (Session.look_of_error hread))⟩
  | ok record =>
    rw [bind_of_ok (adaptExcept_of_ok (Session.look_of_ok hread))]
    by_cases hkind : record.kind = .database
    · simp only [if_neg (not_not_intro hkind)]
      rcases Catalog.setEngine_cases (layout.databaseFile database) d w.tree with
        ⟨e, hrun⟩ | ⟨text, changed, old, place, htext, hchange, hold, hplace, hrun⟩
      · exact .inl ⟨_, adaptExcept_of_error (onTree_of_error hrun)⟩
      · exact .inr ⟨record, text, changed, old, place, rfl, hkind, htext, hchange, hold, hplace,
          adaptExcept_of_ok (onTree_of_ok hrun)⟩
    · simp only [if_pos hkind]
      exact .inl ⟨_, rfl⟩

/-- A path is walked from a directory, if relative paths are. -/
theorem FileTree.grounded_origin_of_here (h : t.Grounded t.here) (p : Path) :
    t.Grounded (t.origin p) := by
  unfold origin
  split
  · exact t.grounded_nil
  · exact h

/-- A file that was written anew is read with its new text. -/
theorem FileTree.readText_put_place {old f : File} {place : Location} {text : Text}
    (ho : t.Grounded (t.origin p)) (hold : t.stat true p = .ok (.file old))
    (hplace : t.locate false p = .ok place) (hcontent : f.content = .text text) :
    (t.put place (.file f)).readText p = .ok text := by
  have hlocate : (t.put place (.file f)).locate false p = .ok place :=
    locate_put_place ho hold hplace ho hplace
  have hget : (t.put place (.file f)).get? place = some (.file f) := by
    rw [get?_put _ _ _ _ (place_ne_nil hold hplace), if_pos rfl]
  exact Catalog.readText_of_stat (stat_of_place hlocate hget fun _ => by simp) hcontent

/-- A database that is to have another engine is told so in its catalog file or, where that fails,
nowhere. Afterwards the file is read as the database that was there, with the engine, if the words of
the engine hold no line feed. If one of them does the file cannot be read. -/
theorem setEngine_effect (hhere : w.tree.Grounded w.tree.here) :
    (∀ failure w', Command.run site (.setEngine database engine) w = .error failure w' →
      w'.tree = w.tree) ∧
    ∀ output w', Command.run site (.setEngine database engine) w = .ok output w' →
      ∃ d record, engine.declaration? = some d ∧
        Catalog.readRecord w.tree (site.layout.databaseFile database) = .ok record ∧
        record.kind = .database ∧
        (d.OnOneLine → Catalog.readRecord w'.tree (site.layout.databaseFile database) =
          .ok { record with engineName := d.engineName, engine := d.engine }) ∧
        (¬ d.OnOneLine → ∃ e, Catalog.readRecord w'.tree (site.layout.databaseFile database) =
          .error (.parse (site.layout.databaseFile database) e)) := by
  cases hd : engine.declaration? with
  | none =>
    have hrun : Command.run site (.setEngine database engine) w = .error .engineWords w := by
      simp only [Command.run, hd]
      rfl
    refine ⟨fun failure w' h => ?_, fun output w' h => ?_⟩
    · rw [hrun] at h
      cases h
      rfl
    · rw [hrun] at h
      cases h
  | some d =>
    have hrun : Command.run site (.setEngine database engine) w =
        (setDatabaseEngine site.layout database d >>= fun _ => pure []) w := by
      simp only [Command.run, hd]
    rw [hrun]
    rcases setDatabaseEngine_cases site.layout database d w with ⟨e, hset⟩ |
      ⟨record, text, changed, old, place, hread, hkind, htext, hchange, hold, hplace, hset⟩
    · rw [bind_of_error hset]
      refine ⟨fun failure w' h => ?_, fun output w' h => ?_⟩
      · cases h
        rfl
      · cases h
    · rw [bind_of_ok hset]
      refine ⟨fun failure w' h => ?_, fun output w' h => ?_⟩
      · cases h
      · cases h
        have ho := grounded_origin_of_here hhere (site.layout.databaseFile database)
        have htext' := readText_put_place (f := FileTree.rewritten old changed) ho hold hplace rfl
        refine ⟨d, record, rfl, hread, hkind, fun hone => ?_, fun hmany => ?_⟩
        · have hparse := Catalog.parse_of_readRecord hread htext
          exact Catalog.readRecord_eq_ok_iff.2
            ⟨changed, htext', Catalog.parse_of_setEngine hparse hone hchange⟩
        · obtain ⟨e, he⟩ := Catalog.parse_of_lineFeed hmany hchange
          refine ⟨e, ?_⟩
          rw [Catalog.readRecord]
          simp only [htext', he]

/-- A database is given a replicated engine whose words hold a quote and a carriage return. -/
theorem setEngine_effect_shop :
    let engine : EngineChoice := .replicated ["/ch/'shop'", "s1", ['r', '\r']]
    let catalogFile := (eventsSite 0).layout.databaseFile "shop"
    shopTree.Grounded shopTree.here ∧
    ∃ record output w',
      Command.run (eventsSite 0) (.setEngine "shop" engine) { tree := shopTree } = .ok output w' ∧
      Catalog.readRecord shopTree catalogFile = .ok record ∧ record.kind = .database ∧
      Catalog.readRecord w'.tree catalogFile = .ok { record with
        engineName := "Replicated",
        engine := .replicated ⟨"/ch/'shop'", some "s1", ['r', '\r']⟩ } := by
  intro engine catalogFile
  have hhere : shopTree.Grounded shopTree.here := shopTree.grounded_nil
  have hends : endsWell (Command.run (eventsSite 0) (.setEngine "shop" engine) { tree := shopTree }) =
      true := by decide +kernel
  obtain ⟨output, w', hrun⟩ := exists_of_endsWell hends
  obtain ⟨d, record, hd, hread, hkind, hone, -⟩ :=
    (setEngine_effect (w := { tree := shopTree }) hhere).2 output w' hrun
  cases hd
  exact ⟨hhere, record, output, w', hrun, hread, hkind,
    hone ⟨by decide, by decide, by decide⟩⟩

/-- Whether a file is read as an object. -/
def isRead (t : FileTree) (p : Path) : Bool := (Catalog.readRecord t p).toOption.isSome

/-- A database is given an engine with a line feed in its path. The command ends well, and the database
cannot be read any more. -/
theorem setEngine_loses_database :
    let engine : EngineChoice := .replicated [['/', 'p', '\n', 'x'], "s", "r"]
    let catalogFile := (eventsSite 0).layout.databaseFile "shop"
    (∃ record, Catalog.readRecord shopTree catalogFile = .ok record ∧ record.kind = .database) ∧
    ∃ output w',
      Command.run (eventsSite 0) (.setEngine "shop" engine) { tree := shopTree } = .ok output w' ∧
      isRead w'.tree catalogFile = false := by
  intro engine catalogFile
  have hends : endsWith (fun _ w => !isRead w.tree catalogFile)
      (Command.run (eventsSite 0) (.setEngine "shop" engine) { tree := shopTree }) = true := by
    decide +kernel
  obtain ⟨output, w', hrun, hlost⟩ := exists_of_endsWith hends
  exact ⟨⟨_, rfl, rfl⟩, output, w', hrun, by simpa using hlost⟩

end CatalogAdmin
