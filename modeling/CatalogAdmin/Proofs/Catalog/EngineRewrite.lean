import CatalogAdmin.Proofs.Catalog.File
import CatalogAdmin.Proofs.FileTree.Staging

/-!
# Texts that take a new engine

`replaceEngine` counts the engine lines among the pieces of a text, `Record.parse` among its lines. They
count the same, since no mark reaches into a line ending, so a text is refused a new engine for the fault
that a reader of it would name. A text that takes one changes in the engine line alone, which keeps its
own ending; of two engines that a text takes in turn the second stays.

In a file tree the new text comes into the place of the old one through another file
(`setEngineThrough`). Where that fails at any step, everything stands as it was.
-/

namespace CatalogAdmin.Catalog

open Session
open FileTree

variable {text changed declaration : Text} {d e : Declaration}

/-! ## The engine line -/

theorem length_engineLines (text : Text) :
    (text.pieces.filter isEngineLine).length = (engineLines text.lines).length := by
  rw [length_engine_pieces, filter_isEngineLine]

/-- A text takes a new engine if it has one engine line. -/
theorem replaceEngine_eq_ok_iff :
    replaceEngine text declaration = .ok changed ↔ (engineLines text.lines).length = 1 ∧
      changed = (text.pieces.map (withEngine declaration)).flatten := by
  rw [← length_engineLines, replaceEngine]
  rcases text.pieces.filter isEngineLine with _ | ⟨line, _ | ⟨other, more⟩⟩
  · refine iff_of_false (fun h => ?_) (fun h => ?_)
    · cases h
    · cases h.1
  · exact ⟨fun h => ⟨rfl, (Except.ok.inj h).symm⟩, fun h => congrArg Except.ok h.2.symm⟩
  · refine iff_of_false (fun h => ?_) (fun h => ?_)
    · cases h
    · cases h.1

/-- A text is refused a new engine for having no engine line, or for having several. -/
theorem replaceEngine_eq_error_iff {fault : ParseError} :
    replaceEngine text declaration = .error fault ↔
      ((engineLines text.lines).length = 0 ∧ fault = .missingEngine) ∨
      (1 < (engineLines text.lines).length ∧
        fault = .duplicateEngine (engineLines text.lines).length) := by
  rw [← length_engineLines, replaceEngine]
  rcases text.pieces.filter isEngineLine with _ | ⟨line, _ | ⟨other, more⟩⟩
  · refine ⟨fun h => .inl ⟨rfl, (Except.error.inj h).symm⟩, ?_⟩
    rintro (⟨-, rfl⟩ | ⟨hmany, -⟩)
    · rfl
    · exact absurd hmany (by simp)
  · refine ⟨fun h => ?_, ?_⟩
    · cases h
    · rintro (⟨hnone, -⟩ | ⟨hmany, -⟩)
      · cases hnone
      · exact absurd hmany (by simp)
  · refine ⟨fun h => .inr ⟨by simp, (Except.error.inj h).symm⟩, ?_⟩
    rintro (⟨hnone, -⟩ | ⟨-, rfl⟩)
    · cases hnone
    · rfl

/-- A text that is refused a new engine is refused by its reader for the same fault, if the reader gets
past the UUID lines. -/
theorem parse_of_replaceEngine_error {fault : ParseError} (huuid : (uuidLines text.lines).length = 1)
    (h : replaceEngine text declaration = .error fault) : Record.parse text = .error fault := by
  refine FirstFault.parse_eq ?_
  rcases replaceEngine_eq_error_iff.1 h with ⟨hnone, rfl⟩ | ⟨hmany, rfl⟩
  · exact .noEngine huuid (List.length_eq_zero_iff.1 hnone)
  · exact .manyEngines huuid hmany

/-! ## The text with a new engine -/

/-- `changed` is `text` with a declaration in the place of its engine line, which keeps its ending. -/
def EngineReplaced (text declaration changed : Text) : Prop :=
  ∃ above line below, text.pieces = above ++ line :: below ∧ isEngineLine line = true ∧
    (∀ other ∈ above ++ below, isEngineLine other = false) ∧
    changed.pieces = above ++ (declaration ++ line.ending) :: below

theorem map_withEngine_of_none {ps : List Text} (h : ∀ piece ∈ ps, isEngineLine piece = false) :
    ps.map (withEngine declaration) = ps := by
  have hsame : ∀ piece ∈ ps, withEngine declaration piece = id piece := by
    intro piece hpiece
    rw [withEngine, h piece hpiece]
    rfl
  rw [List.map_congr_left hsame, List.map_id]

/-- The one engine line of a text, and the text with a declaration in its place. -/
theorem exists_engine_piece (hone : (engineLines text.lines).length = 1) :
    ∃ above line below, text.pieces = above ++ line :: below ∧ isEngineLine line = true ∧
      (∀ other ∈ above ++ below, isEngineLine other = false) ∧
      ∀ declaration, text.pieces.map (withEngine declaration) =
        above ++ (declaration ++ line.ending) :: below := by
  obtain ⟨line, hline⟩ := List.length_eq_one_iff.1 ((length_engineLines text).trans hone)
  obtain ⟨above, below, hpieces, habove, hmark, hbelow⟩ := List.filter_eq_cons_iff.1 hline
  have habove : ∀ piece ∈ above, isEngineLine piece = false := fun piece hpiece => by
    simpa using habove piece hpiece
  have hbelow : ∀ piece ∈ below, isEngineLine piece = false := fun piece hpiece => by
    simpa using List.filter_eq_nil_iff.1 hbelow piece hpiece
  refine ⟨above, line, below, hpieces, hmark, ?_, fun declaration => ?_⟩
  · intro other hother
    rcases List.mem_append.1 hother with hother | hother
    · exact habove other hother
    · exact hbelow other hother
  · have hnew : withEngine declaration line = declaration ++ line.ending := by
      rw [withEngine, if_pos hmark]
    rw [hpieces, List.map_append, List.map_cons, hnew, map_withEngine_of_none habove,
      map_withEngine_of_none hbelow]

theorem engineReplaced_of_ok (hd : d.OnOneLine) (h : replaceEngine text d.text = .ok changed) :
    EngineReplaced text d.text changed := by
  obtain ⟨hone, rfl⟩ := replaceEngine_eq_ok_iff.1 h
  obtain ⟨above, line, below, hpieces, hmark, hothers, hnew⟩ := exists_engine_piece hone
  exact ⟨above, line, below, hpieces, hmark, hothers, (pieces_withEngine hd text).trans (hnew d.text)⟩

theorem ending_text (hd : d.OnOneLine) (piece : Text) :
    Text.ending (d.text ++ piece.ending) = piece.ending := by
  have hline : Text.withoutEnding (d.text ++ piece.ending) = d.text :=
    Text.withoutEnding_append_ending (Declaration.not_mem_text hd) d.getLast?_text piece
  have happ := Text.withoutEnding_append (d.text ++ piece.ending)
  rw [hline] at happ
  exact List.append_cancel_left happ

theorem isEngineLine_text (d : Declaration) (ending : Text) : isEngineLine (d.text ++ ending) = true :=
  Text.startsWith_iff.2 ((Text.startsWith_iff.1 d.startsWith_text).trans (List.prefix_append _ _))

theorem isEngineLine_withEngine (d : Declaration) (piece : Text) :
    isEngineLine (withEngine d.text piece) = isEngineLine piece := by
  rw [withEngine]
  split
  · next hmark => rw [isEngineLine_text, hmark]
  · rfl

/-- Of two declarations in one place the second stays. -/
theorem withEngine_again (hd : d.OnOneLine) (declaration piece : Text) :
    withEngine declaration (withEngine d.text piece) = withEngine declaration piece := by
  rw [withEngine, isEngineLine_withEngine, withEngine]
  split
  · rw [withEngine, if_pos ‹_›, ending_text hd]
  · rw [withEngine, if_neg ‹_›]

/-- A text that took one engine takes another as it would have done at first. -/
theorem replaceEngine_again (hd : d.OnOneLine) (h : replaceEngine text d.text = .ok changed)
    (declaration : Text) : replaceEngine changed declaration = replaceEngine text declaration := by
  obtain ⟨hone, rfl⟩ := replaceEngine_eq_ok_iff.1 h
  have hpieces := pieces_withEngine hd text
  have hcount : (engineLines (Text.lines (text.pieces.map (withEngine d.text)).flatten)).length = 1 := by
    rw [← length_engineLines, hpieces, List.filter_map, List.length_map, ← hone, ← length_engineLines]
    congr 2
    funext piece
    exact isEngineLine_withEngine d piece
  rw [replaceEngine_eq_ok_iff.2 ⟨hone, rfl⟩, replaceEngine_eq_ok_iff.2 ⟨hcount, rfl⟩, hpieces,
    List.map_map]
  congr 3
  funext piece
  exact withEngine_again hd declaration piece

/-! ## Through another file -/

/-- Gives the object a catalog file describes a new engine, as `setEngine` does, where the new text is
written to a file at `temp` first, in some way of working on that file. -/
def setEngineThrough (temp : Path) (work : Text → File → EStateM IoError File Unit) (p : Path)
    (d : Declaration) : EStateM FileError FileTree Unit :=
  modifyBy (fun text => replaceThrough temp p (work text)) p
    fun text => (replaceEngine text d.text).map ((), ·)

variable {t t' : FileTree} {p temp : Path} {failure : FileError}

/-- A new engine comes through a file that is made beside the old one and takes over what it needs. -/
theorem setEngine_eq_through (p : Path) (d : Declaration) (t : FileTree) :
    setEngine p d t = setEngineThrough (t.beside p) takeOver p d t :=
  modifyBy_congr p _ fun text => replaceText_eq p text t

/-- Where a file could not be given a new engine everything is as it was, whatever was done to the other
file by then. -/
theorem setEngineThrough_error {work : Text → File → EStateM IoError File Unit}
    (h : setEngineThrough temp work p d t = .error failure t') : t' = t := by
  unfold setEngineThrough modifyBy at h
  rw [bind_of_ok (get_eq t)] at h
  cases htext : t.readText p with
  | error e => simp only [htext] at h; cases h; rfl
  | ok text =>
  cases hchange : replaceEngine text d.text with
  | error e => simp only [htext, hchange] at h; cases h; rfl
  | ok changed =>
    simp only [htext, hchange] at h
    rcases error_of_bind h with hwrite | ⟨_, _, -, hanswer⟩
    · obtain ⟨e, hrun, -⟩ := error_of_adaptExcept hwrite
      exact replaceThrough_error hrun
    · cases hanswer

theorem tree_of_setEngine_error (h : setEngine p d t = .error failure t') : t' = t :=
  setEngineThrough_error ((setEngine_eq_through p d t).symm.trans h)

/-- Where there is room beside the file, the new text may as well be written to any other new file. -/
theorem setEngine_eq_of_room {l : Location} (hroom : t.RoomBeside p) (hl : t.locate false temp = .ok l)
    (hfree : t.get? l = none) (d : Declaration) :
    setEngine p d t = setEngineThrough temp takeOver p d t := by
  obtain ⟨l', hl', hfree'⟩ := hroom
  rw [setEngine_eq_through]
  exact modifyBy_congr p _ fun text => replaceThrough_congr hl' hfree' hl hfree p (takeOver text)

/-! ## Replacing as an update -/

/-- A text takes a new engine if one of its lines declares one, counted by pieces or by lines, and is
otherwise refused for the fault that its reader would find in that count. It changes in the engine line
alone, and takes any engine in turn with the result that the first text would have given. In a file tree
the new text comes through a file beside the old one, or any other new file, and a failure leaves
everything as it was, at whatever step of the work on that file it comes. -/
theorem replaceEngine_effect (text : Text) (hd : d.OnOneLine) :
    (text.pieces.filter isEngineLine).length = (engineLines text.lines).length ∧
    ((∃ changed, replaceEngine text d.text = .ok changed) ↔ (engineLines text.lines).length = 1) ∧
    (∀ fault, replaceEngine text d.text = .error fault ↔
      ((engineLines text.lines).length = 0 ∧ fault = .missingEngine) ∨
      (1 < (engineLines text.lines).length ∧
        fault = .duplicateEngine (engineLines text.lines).length)) ∧
    ((uuidLines text.lines).length = 1 → ∀ fault, replaceEngine text d.text = .error fault →
      Record.parse text = .error fault) ∧
    (∀ changed, replaceEngine text d.text = .ok changed → EngineReplaced text d.text changed ∧
      ∀ e : Declaration, replaceEngine changed e.text = replaceEngine text e.text) ∧
    ∀ (t : FileTree) (p temp : Path),
      (∀ failure t', setEngine p d t = .error failure t' → t' = t) ∧
      (∀ work failure t', setEngineThrough temp work p d t = .error failure t' → t' = t) ∧
      setEngine p d t = setEngineThrough (t.beside p) takeOver p d t ∧
      (t.RoomBeside p → ∀ l, t.locate false temp = .ok l → t.get? l = none →
        setEngine p d t = setEngineThrough temp takeOver p d t) := by
  refine ⟨length_engineLines text, ⟨?_, ?_⟩, fun fault => replaceEngine_eq_error_iff,
    fun huuid fault hfault => parse_of_replaceEngine_error huuid hfault, ?_, ?_⟩
  · rintro ⟨changed, hchange⟩
    exact (replaceEngine_eq_ok_iff.1 hchange).1
  · intro hone
    exact ⟨_, replaceEngine_eq_ok_iff.2 ⟨hone, rfl⟩⟩
  · intro changed hchange
    exact ⟨engineReplaced_of_ok hd hchange, fun e => replaceEngine_again hd hchange e.text⟩
  · intro t p temp
    exact ⟨fun failure t' => tree_of_setEngine_error, fun work failure t' => setEngineThrough_error,
      setEngine_eq_through p d t, fun hroom l hl hfree => setEngine_eq_of_room hroom hl hfree d⟩

/-- A text with line endings of each kind, stray carriage returns, and an engine line that no reader
accepts. -/
def mixedEndings : Text := "-- moved\r\r\n\n ENGINE = Kept\nENGINE = Lost('(\r\nATTACH TABLE t\r"

/-- A tree with a file of that text. -/
def mixedTree : FileTree := { entries := [(["db.sql"], .file { content := .text mixedEndings })] }

/-- A declaration with quotes, parentheses and a carriage return in its arguments. -/
def oddDeclaration : Declaration := .replicated "/a'b\\" ['\r', ')'] ""

/-- The text takes the declaration, and then another. Where the file that is to hold the new text cannot
be written, the tree is as it was. -/
theorem replaceEngine_effect_mixedEndings :
    oddDeclaration.OnOneLine ∧
    ∃ changed, replaceEngine mixedEndings oddDeclaration.text = .ok changed ∧
      EngineReplaced mixedEndings oddDeclaration.text changed ∧
      replaceEngine changed Declaration.atomic.text = replaceEngine mixedEndings Declaration.atomic.text ∧
      ∃ failure t', setEngineThrough ⟨"/.tmp"⟩ (fun _ _ => throw .permissionDenied) ⟨"/db.sql"⟩
          oddDeclaration mixedTree = .error failure t' ∧ t' = mixedTree := by
  have hd : oddDeclaration.OnOneLine := ⟨by decide, by decide, by decide⟩
  obtain ⟨-, hiff, -, -, hchanges, hfiles⟩ := replaceEngine_effect mixedEndings hd
  obtain ⟨changed, hchange⟩ := hiff.2 (by decide +kernel)
  obtain ⟨hreplaced, hagain⟩ := hchanges changed hchange
  obtain ⟨failure, t', hrun, -⟩ := exists_of_failsWith (p := fun _ _ => true)
    (r := setEngineThrough ⟨"/.tmp"⟩ (fun _ _ => throw .permissionDenied) ⟨"/db.sql"⟩
      oddDeclaration mixedTree) (by decide +kernel)
  exact ⟨hd, changed, hchange, hreplaced, hagain .atomic, failure, t', hrun,
    (hfiles mixedTree ⟨"/db.sql"⟩ ⟨"/.tmp"⟩).2.1 _ failure t' hrun⟩

end CatalogAdmin.Catalog
