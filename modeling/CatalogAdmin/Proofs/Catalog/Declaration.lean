import CatalogAdmin.Catalog.Replacement
import CatalogAdmin.Proofs.Text.Pieces

/-!
# Engine declarations come back as they were given

A declaration is written into a catalog file by the file's pieces and read from it by the file's
lines. The reader meets it behind an ending that the replaced line had, with each argument escaped.

Results:
1. `argumentsFrom_write`: the reader of argument lists takes a written argument back.
2. `read_text`: a declaration is read as what it declares, for either kind of object.
3. `lines_withEngine`: the declaration stands in the place of the engine line, and no other line
   changes.
4. `parse_replaceEngine`: a file with one UUID and one engine line takes any declaration without line
   feeds, and is then read as the object it described, with that engine.
-/

namespace CatalogAdmin.Catalog

/-! ## Reading a declaration -/

theorem argumentsFrom_other (depth : Nat) {c : Char} (rest : Text) (h₁ : c ≠ '(') (h₂ : c ≠ ')')
    (h₃ : c ≠ '\'') : argumentsFrom depth (c :: rest) = argumentsFrom depth rest := by
  rw [argumentsFrom.eq_5]
  · exact h₁
  · exact h₂
  · exact h₃

/-- Behind a quote an argument is read, and the reader goes on behind it. -/
theorem argumentsFrom_quote (depth : Nat) {rest value left : Text}
    (h : Text.Quoted.read quote rest = some (value, left)) :
    argumentsFrom depth (quote :: rest) = (argumentsFrom depth left).map (value :: ·) := by
  show argumentsFrom depth ('\'' :: rest) = _
  rw [argumentsFrom]
  split
  · next hr => rw [h] at hr; cases hr
  · next hr => rw [h] at hr; cases hr; rfl

/-- Behind a quote that is not closed there are no arguments. -/
theorem argumentsFrom_open (depth : Nat) {inside : Text} (h : Text.Quoted.read quote inside = none) :
    argumentsFrom depth (quote :: inside) = .error .unterminatedQuote := by
  show argumentsFrom depth ('\'' :: inside) = _
  rw [argumentsFrom]
  split
  · rfl
  · next hr => rw [h] at hr; cases hr

/-- A written argument is read back, and the reader goes on behind it. -/
theorem argumentsFrom_write (depth : Nat) (value rest : Text) :
    argumentsFrom depth (Text.Quoted.write quote value ++ rest) =
      (argumentsFrom depth rest).map (value :: ·) := by
  have hwritten : Text.Quoted.write quote value ++ rest =
      quote :: (Text.Quoted.escape quote value ++ quote :: rest) := by
    simp [Text.Quoted.write]
  rw [hwritten]
  exact argumentsFrom_quote depth (Text.Quoted.read_write quote value rest (by decide))

theorem argumentsFrom_close (rest : Text) : argumentsFrom 0 (')' :: rest) = .ok [] := by
  rw [argumentsFrom, if_pos rfl]

theorem argumentsFrom_outward (depth : Nat) (rest : Text) :
    argumentsFrom (depth + 1) (')' :: rest) = argumentsFrom depth rest := by
  rw [argumentsFrom, if_neg (Nat.succ_ne_zero depth), Nat.add_sub_cancel]

namespace Declaration

/-- The engine a declaration declares. -/
def engine : Declaration → Engine
  | .atomic => .plain
  | .replicated path shard name => .replicated ⟨path, some shard, name⟩

/-- The engine's name. -/
def engineName : Declaration → Text
  | .atomic => "Atomic"
  | .replicated .. => "Replicated"

/-- A declaration whose arguments hold no line feed. -/
def OnOneLine : Declaration → Prop
  | .atomic => True
  | .replicated path shard name => '\n' ∉ path ∧ '\n' ∉ shard ∧ '\n' ∉ name

/-- The arguments of a replicated engine as they are written, behind the opening parenthesis. -/
def arguments (path shard name : Text) : Text :=
  Text.Quoted.write quote path ++ (',' :: ' ' :: (Text.Quoted.write quote shard ++
    (',' :: ' ' :: (Text.Quoted.write quote name ++ [')']))))

theorem text_replicated (path shard name : Text) :
    (replicated path shard name).text =
      engineMark ++ (' ' :: ("Replicated".toList ++ '(' :: arguments path shard name)) := by
  have hopen : (" Replicated(" : Text) = ' ' :: ("Replicated".toList ++ ['(']) := by decide
  have hcomma : (", " : Text) = [',', ' '] := by decide
  have hclose : (")" : Text) = [')'] := by decide
  simp only [text, arguments, hopen, hcomma, hclose, List.append_assoc, List.cons_append,
    List.nil_append]

theorem text_atomic : atomic.text = engineMark ++ (' ' :: "Atomic".toList) := by
  decide

theorem quotedArguments_list (inside : Text) :
    quotedArguments ('(' :: inside) = argumentsFrom 0 inside := by
  have hcut : Text.cut ('(' :: inside) "(" = some ([], inside) := by
    simp [Text.cut, Text.startsWith]
  rw [quotedArguments, hcut]

/-- Between two arguments the reader passes a comma and a blank. -/
theorem argumentsFrom_separator (depth : Nat) (rest : Text) :
    argumentsFrom depth (',' :: ' ' :: rest) = argumentsFrom depth rest := by
  rw [argumentsFrom_other depth _ (by decide) (by decide) (by decide),
    argumentsFrom_other depth _ (by decide) (by decide) (by decide)]

theorem quotedArguments_arguments (path shard name : Text) :
    quotedArguments ('(' :: arguments path shard name) = .ok [path, shard, name] := by
  rw [quotedArguments_list]
  simp only [arguments, argumentsFrom_write, argumentsFrom_separator, argumentsFrom_close, Except.map]

/-- An engine name is read up to the first character that no name holds. -/
theorem read_name (kind : ObjectKind) (c : Char) (more rest : Text) (hc : Text.isBlank c = false)
    (hn : (c :: more).all isNameChar = true) (hr : rest.takeWhile isNameChar = []) :
    Engine.read kind (' ' :: ((c :: more) ++ rest)) =
      (Engine.of kind (c :: more) rest).map fun engine => (c :: more, engine) := by
  rw [List.all_eq_true] at hn
  have hspace : Text.isBlank ' ' = true := by decide
  have htrim : Text.trimStart (' ' :: ((c :: more) ++ rest)) = (c :: more) ++ rest := by
    rw [Text.trimStart, List.dropWhile_cons_of_pos hspace, List.cons_append,
      List.dropWhile_cons_of_neg (by simp [hc])]
  have hname : ((c :: more) ++ rest).takeWhile isNameChar = c :: more := by
    rw [List.takeWhile_append_of_pos hn, hr, List.append_nil]
  have hrest : rest.dropWhile isNameChar = rest := by
    have := List.takeWhile_append_dropWhile (p := isNameChar) (l := rest)
    rwa [hr, List.nil_append] at this
  simp only [Engine.read, htrim, hname, List.dropWhile_append_of_pos hn, hrest]
  cases Engine.of kind (c :: more) rest <;> rfl

/-- What a replicated engine is, its arguments say. -/
theorem read_replicated (kind : ObjectKind) (inside : Text) :
    Engine.read kind (' ' :: ("Replicated".toList ++ '(' :: inside)) =
      (Engine.of kind "Replicated" ('(' :: inside)).map fun engine => ("Replicated".toList, engine) :=
  read_name kind 'R' "eplicated".toList ('(' :: inside) (by decide) (by decide)
    (List.takeWhile_cons_of_neg (by decide))

/-- A declaration is read as what it declares. -/
theorem read_text (kind : ObjectKind) (d : Declaration) :
    Engine.read kind (d.text.drop engineMark.length) = .ok (d.engineName, d.engine) := by
  cases d with
  | atomic =>
    rw [text_atomic, List.drop_left]
    have := read_name kind 'A' "tomic".toList [] (by decide) (by decide) rfl
    rw [List.append_nil] at this
    exact this
  | replicated path shard name =>
    rw [text_replicated, List.drop_left, read_replicated]
    have hof : Engine.of kind "Replicated" ('(' :: arguments path shard name) =
        .ok (replicated path shard name).engine := by
      have hne : ¬ ("Replicated" : Text) = "Atomic" := by decide
      rw [Engine.of, if_neg hne, if_pos rfl, quotedArguments_arguments]
      rfl
    rw [hof]
    rfl

/-! ## Declarations as lines -/

theorem not_mem_escape {c q : Char} {t : Text} (hc : c ≠ '\\') (h : c ∉ t) :
    c ∉ Text.Quoted.escape q t := by
  induction t with
  | nil => simp [Text.Quoted.escape]
  | cons d rest ih =>
    obtain ⟨hd, hr⟩ := not_or.1 (mt List.mem_cons.2 h)
    rw [Text.Quoted.escape]
    split <;> simp [hc, hd, ih hr]

theorem not_mem_write {c : Char} {t : Text} (hc : c ≠ '\\') (hq : c ≠ quote) (h : c ∉ t) :
    c ∉ Text.Quoted.write quote t := by
  simp [Text.Quoted.write, hq, not_mem_escape hc h]

theorem startsWith_text (d : Declaration) : d.text.startsWith engineMark = true := by
  rw [Text.startsWith_iff]
  cases d with
  | atomic => rw [text_atomic]; exact List.prefix_append _ _
  | replicated => rw [text_replicated]; exact List.prefix_append _ _

theorem not_mem_text {d : Declaration} (h : d.OnOneLine) : '\n' ∉ d.text := by
  cases d with
  | atomic => decide
  | replicated path shard name =>
    -- escaping adds backslashes only
    obtain ⟨hp, hs, hn⟩ := h
    have hmark : '\n' ∉ engineMark := by decide
    have written : ∀ {t : Text}, '\n' ∉ t → '\n' ∉ Text.Quoted.write quote t :=
      not_mem_write (by decide) (by decide)
    rw [text_replicated]
    simp [arguments, hmark, written hp, written hs, written hn]

theorem getLast?_text (d : Declaration) : d.text.getLast? ≠ some '\r' := by
  cases d with
  | atomic => decide
  | replicated path shard name =>
    have hclose : (")" : Text) = [')'] := by decide
    rw [text, hclose, List.getLast?_concat]
    decide

end Declaration

/-! ## The engine line of a file -/

theorem isEngineLine_withoutEnding (piece : Text) :
    isEngineLine piece.withoutEnding = isEngineLine piece :=
  Text.startsWith_withoutEnding (by decide) (by decide) piece

/-- A line that declares the engine names no UUID. -/
theorem header?_of_isEngineLine {line : Text} (h : isEngineLine line = true) :
    header? line = none := by
  have hne : ¬ line.startsWith attachMark = true := by
    intro ha
    rcases List.prefix_or_prefix_of_prefix (Text.startsWith_iff.1 h) (Text.startsWith_iff.1 ha) with
      hp | hp
    · exact absurd hp (by decide)
    · exact absurd hp (by decide)
  rw [header?, cutAtUuid, if_neg hne]
  rfl

/-- A declaration of one line with the ending of a piece is a piece. -/
theorem arePieces_withEngine {d : Declaration} (hd : d.OnOneLine) {ps : List Text}
    (h : Text.ArePieces ps) : Text.ArePieces (ps.map (withEngine d.text)) := by
  induction h with
  | nil => exact .nil
  | @last body hne hb =>
    rw [List.map_singleton, withEngine]
    split
    · rw [Text.ending_of_not_mem hb, List.append_nil]
      have hsome := (Text.startsWith_iff.1 d.startsWith_text).ne_nil (by decide)
      exact .last hsome (Declaration.not_mem_text hd)
    · exact .last hne hb
  | @cons body more hb _ ih =>
    rw [List.map_cons, withEngine]
    split
    · obtain ⟨e, he, hend⟩ := Text.exists_ending body
      rw [hend, ← List.append_assoc]
      refine .cons ?_ ih
      rw [List.mem_append, not_or]
      exact ⟨Declaration.not_mem_text hd, he⟩
    · exact .cons hb ih

/-- Where a declaration stands in the place of every engine line, the other pieces are as they were. -/
theorem pieces_withEngine {d : Declaration} (hd : d.OnOneLine) (text : Text) :
    Text.pieces (text.pieces.map (withEngine d.text)).flatten = text.pieces.map (withEngine d.text) :=
  Text.pieces_flatten (arePieces_withEngine hd (Text.arePieces_pieces text))

/-- The lines of a text in which a declaration stands in the place of every engine line. -/
theorem lines_withEngine {d : Declaration} (hd : d.OnOneLine) (text : Text) :
    Text.lines (text.pieces.map (withEngine d.text)).flatten =
      text.lines.map fun line => if isEngineLine line then d.text else line := by
  rw [Text.lines, pieces_withEngine hd text, Text.lines, List.map_map, List.map_map]
  apply List.map_congr_left
  intro piece _
  simp only [Function.comp_apply, isEngineLine_withoutEnding, withEngine]
  split
  · exact Text.withoutEnding_append_ending (Declaration.not_mem_text hd) d.getLast?_text piece
  · rfl

theorem filterMap_header?_replaced (lines : List Text) (d : Declaration) :
    (lines.map fun line => if isEngineLine line then d.text else line).filterMap header? =
      lines.filterMap header? := by
  rw [List.filterMap_map]
  congr 1
  funext line
  rw [Function.comp_apply]
  split
  · next h => rw [header?_of_isEngineLine h, header?_of_isEngineLine d.startsWith_text]
  · rfl

theorem filter_isEngineLine_replaced (lines : List Text) (d : Declaration) :
    (lines.map fun line => if isEngineLine line then d.text else line).filter isEngineLine =
      (lines.filter isEngineLine).map fun _ => d.text := by
  have hd : isEngineLine d.text = true := d.startsWith_text
  induction lines with
  | nil => rfl
  | cons line rest ih =>
    by_cases h : isEngineLine line = true
    · simp [h, hd, ih]
    · simp [h, ih]

theorem length_engine_pieces (text : Text) :
    (text.pieces.filter isEngineLine).length = (text.lines.filter isEngineLine).length := by
  rw [Text.lines, List.filter_map, List.length_map]
  congr 2
  funext piece
  exact (isEngineLine_withoutEnding piece).symm

/-! ## Writing and reading -/

/-- A text with one UUID line and one engine line is read as before with a declaration in the place of
the engine line, but for the engine. -/
theorem parse_withEngine {text value : Text} {kind : ObjectKind} {uuid : Uuid} {d : Declaration}
    (hheader : text.lines.filterMap header? = [(kind, value)]) (huuid : Uuid.parse? value = some uuid)
    (hone : (text.lines.filter isEngineLine).length = 1) (hd : d.OnOneLine) :
    Record.parse (text.pieces.map (withEngine d.text)).flatten =
      .ok { kind, uuid, engineName := d.engineName, engine := d.engine } := by
  obtain ⟨old, hold⟩ := List.length_eq_one_iff.1 hone
  rw [Record.parse, lines_withEngine hd, filterMap_header?_replaced, hheader,
    filter_isEngineLine_replaced, hold]
  have hread := d.read_text kind
  simp only [List.map_singleton, theOnly, huuid, hread, bind, Except.bind]
  rfl

/-- A file with one UUID line and one engine line takes any declaration without line feeds, whatever
the engine line said before. It is then read as the object it described, with that engine. -/
theorem parse_replaceEngine {text value : Text} {kind : ObjectKind} {uuid : Uuid}
    {d : Declaration} (hheader : text.lines.filterMap header? = [(kind, value)])
    (huuid : Uuid.parse? value = some uuid) (hone : (text.lines.filter isEngineLine).length = 1)
    (hd : d.OnOneLine) :
    ∃ changed, replaceEngine text d.text = .ok changed ∧
      Record.parse changed = .ok { kind, uuid, engineName := d.engineName, engine := d.engine } := by
  obtain ⟨piece, hpiece⟩ := List.length_eq_one_iff.1 ((length_engine_pieces text).trans hone)
  refine ⟨(text.pieces.map (withEngine d.text)).flatten, ?_, parse_withEngine hheader huuid hone hd⟩
  rw [replaceEngine, hpiece]
  rfl

/-- A file whose engine line no reader accepts, with both kinds of line endings. -/
def brokenFile : Text :=
  "-- moved\nATTACH DATABASE _ UUID '00112233-4455-6677-8899-aabbccddeeff'\r\nENGINE = Lost('(\r\n)"

/-- Quotes, backslashes, parentheses, a carriage return and an empty argument come back. -/
theorem parse_replaceEngine_brokenFile :
    Record.parse brokenFile = .error (.unsupportedEngine .database "Lost") ∧
    ∃ changed uuid, Uuid.parse? "00112233-4455-6677-8899-aabbccddeeff" = some uuid ∧
      replaceEngine brokenFile
        (Declaration.replicated "/a'b\\" ['\r', ')'] "").text = .ok changed ∧
      Record.parse changed = .ok
        { kind := .database, uuid, engineName := "Replicated",
          engine := .replicated ⟨"/a'b\\", some ['\r', ')'], ""⟩ } := by
  have hbroken : Record.parse brokenFile = .error (.unsupportedEngine .database "Lost") := rfl
  obtain ⟨uuid, huuid⟩ : ∃ uuid, Uuid.parse? "00112233-4455-6677-8899-aabbccddeeff" = some uuid :=
    ⟨_, rfl⟩
  have hheader : brokenFile.lines.filterMap header? =
      [(ObjectKind.database, ("00112233-4455-6677-8899-aabbccddeeff" : Text))] := by
    decide
  obtain ⟨changed, hc, hp⟩ := parse_replaceEngine
    (d := .replicated "/a'b\\" ['\r', ')'] "") hheader huuid (by decide)
    ⟨by decide, by decide, by decide⟩
  exact ⟨hbroken, changed, uuid, huuid, hc, hp⟩

end CatalogAdmin.Catalog
