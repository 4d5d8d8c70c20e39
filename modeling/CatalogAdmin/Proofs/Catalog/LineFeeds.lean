import CatalogAdmin.Proofs.Catalog.EngineRewrite

/-!
# Declarations with line feeds

Backslashes and quotes are escaped where an argument is written, line feeds are not. A declaration with a
line feed in an argument takes several lines, the first of which ends inside a quote. Whatever the other
lines hold, the first is an engine line that no reader gets past, so a text that takes such a declaration
is read as no object (`parse_of_lineFeed`).
-/

namespace CatalogAdmin.Catalog

variable {text changed value t : Text} {d : Declaration}

/-! ## Arguments that break off -/

/-- No start of an escaped text closes the quote that it stands behind. -/
theorem read_of_prefix_escape {inside : Text} (h : inside <+: Text.Quoted.escape quote value) :
    Text.Quoted.read quote inside = none := by
  cases hread : Text.Quoted.read quote inside with
  | none => rfl
  | some found =>
    obtain ⟨_, left⟩ := found
    obtain ⟨closed, rfl, hspells⟩ := Text.Quoted.exists_of_read hread
    obtain ⟨more, hmore⟩ := h
    -- with a closing quote behind it the whole would be read to two different quotes
    have hfirst := hspells.read (by decide) (left ++ more ++ [quote])
    have hwhole := Text.Quoted.read_write quote value [] (by decide)
    rw [← hmore] at hwhole
    simp only [List.append_assoc, List.cons_append] at hfirst hwhole
    rw [hfirst] at hwhole
    have hleft := congrArg (List.length ∘ Prod.snd) (Option.some.inj hwhole)
    simp at hleft

theorem mem_escape {c q : Char} (h : c ∈ value) : c ∈ Text.Quoted.escape q value := by
  induction value with
  | nil => cases h
  | cons d rest ih =>
    rw [Text.Quoted.escape]
    rcases List.mem_cons.1 h with rfl | hrest
    · split <;> simp
    · split <;> simp [ih hrest]

/-- Arguments with a line feed inside a quote. No start of what stands before the line feed closes the
quote. -/
def BreaksOff (arguments : Text) : Prop :=
  ∃ done inside rest, arguments = done ++ quote :: inside ++ '\n' :: rest ∧
    '\n' ∉ done ++ quote :: inside ∧
    ∀ start, start <+: inside → argumentsFrom 0 (done ++ quote :: start) = .error .unterminatedQuote

theorem breaksOff_write (h : '\n' ∈ value) (more : Text) :
    BreaksOff (Text.Quoted.write quote value ++ more) := by
  obtain ⟨inside, rest, hsplit, hn⟩ := List.eq_append_cons_of_mem (mem_escape (q := quote) h)
  refine ⟨[], inside, rest ++ quote :: more, ?_, ?_, fun start hstart => ?_⟩
  · simp [Text.Quoted.write, hsplit]
  · exact List.not_mem_cons_of_ne_of_not_mem (by decide) hn
  · have hwhole : inside <+: Text.Quoted.escape quote value := ⟨_, hsplit.symm⟩
    exact argumentsFrom_open 0 (read_of_prefix_escape (hstart.trans hwhole))

/-- Arguments break off also behind one that is closed. -/
theorem BreaksOff.behind (h : BreaksOff t) (hvalue : '\n' ∉ value) :
    BreaksOff (Text.Quoted.write quote value ++ (',' :: ' ' :: t)) := by
  obtain ⟨done, inside, rest, rfl, hn, hopen⟩ := h
  refine ⟨Text.Quoted.write quote value ++ (',' :: ' ' :: done), inside, rest, ?_, ?_,
    fun start hstart => ?_⟩
  · simp
  · have hwritten := Declaration.not_mem_write (by decide) (by decide) hvalue
    simpa [hwritten] using hn
  · simp only [List.append_assoc, List.cons_append, argumentsFrom_write,
      Declaration.argumentsFrom_separator, hopen start hstart]
    rfl

theorem breaksOff_arguments {path shard name : Text}
    (h : ¬ (Declaration.replicated path shard name).OnOneLine) :
    BreaksOff (Declaration.arguments path shard name) := by
  rw [Declaration.arguments]
  by_cases hpath : '\n' ∈ path
  · exact breaksOff_write hpath _
  by_cases hshard : '\n' ∈ shard
  · exact (breaksOff_write hshard _).behind hpath
  · have hname : '\n' ∈ name := Classical.byContradiction fun hname => h ⟨hpath, hshard, hname⟩
    exact ((breaksOff_write hname _).behind hshard).behind hpath

/-! ## The first line of a declaration -/

/-- A line that ends inside an open quote, as it is read: with a carriage return at its end or without. -/
theorem exists_start {done inside : Text} (hn : '\n' ∉ done ++ quote :: inside) :
    ∃ start, start <+: inside ∧
      Text.withoutEnding (done ++ quote :: inside ++ ['\n']) = done ++ quote :: start := by
  rcases List.eq_nil_or_concat inside with rfl | ⟨start, c, hinside⟩
  · refine ⟨[], List.prefix_rfl, Text.withoutEnding_lf hn ?_⟩
    rw [List.getLast?_concat]
    decide
  · rw [List.concat_eq_append] at hinside
    subst hinside
    have hline : done ++ quote :: (start ++ [c]) = (done ++ quote :: start) ++ [c] := by simp
    by_cases hc : c = '\r'
    · subst hc
      refine ⟨start, List.prefix_append _ _, ?_⟩
      rw [hline, List.append_assoc]
      exact Text.withoutEnding_crlf _
    · refine ⟨start ++ [c], List.prefix_rfl, Text.withoutEnding_lf hn ?_⟩
      rw [hline, List.getLast?_concat]
      exact fun h => hc (Option.some.inj h)

/-- The pieces in front of another stay pieces, whatever follows them. -/
theorem pieces_flatten_append {above below : List Text} {piece : Text}
    (h : Text.ArePieces (above ++ piece :: below)) (t : Text) :
    Text.pieces (above.flatten ++ t) = above ++ Text.pieces t := by
  induction above with
  | nil => rfl
  | cons first more ih =>
    rw [List.cons_append] at h
    generalize hrest : more ++ piece :: below = rest at h
    cases h with
    | last => simp at hrest
    | @cons body _ hn h =>
      subst hrest
      rw [List.flatten_cons, List.append_assoc, List.append_assoc, List.singleton_append,
        Text.pieces_append hn, ih h, List.cons_append]

/-- A declaration with a line feed begins with a line that ends inside an open quote. -/
theorem Declaration.exists_lineFeed (h : ¬ d.OnOneLine) :
    ∃ done inside rest, d.text = engineMark ++ done ++ quote :: inside ++ '\n' :: rest ∧
      '\n' ∉ engineMark ++ done ++ quote :: inside ∧
      ∀ kind start, start <+: inside →
        Engine.read kind (done ++ quote :: start) = .error .unterminatedQuote := by
  cases d with
  | atomic => exact absurd trivial h
  | replicated path shard name =>
    obtain ⟨done, inside, rest, harguments, hn, hopen⟩ := breaksOff_arguments h
    refine ⟨' ' :: ("Replicated".toList ++ '(' :: done), inside, rest, ?_, ?_, ?_⟩
    · rw [text_replicated, harguments]
      simp
    · have hfront : '\n' ∉ engineMark ++ (' ' :: ("Replicated".toList ++ ['('])) := by decide
      simp only [List.mem_append, List.mem_cons, not_or] at hfront hn ⊢
      obtain ⟨hmark, hblank, hname, hopen, -⟩ := hfront
      obtain ⟨hdone, hquote, hinside⟩ := hn
      exact ⟨⟨hmark, hblank, hname, hopen, hdone⟩, hquote, hinside⟩
    · intro kind start hstart
      have hshape : ' ' :: ("Replicated".toList ++ '(' :: done) ++ quote :: start =
          ' ' :: ("Replicated".toList ++ '(' :: (done ++ quote :: start)) := by simp
      rw [hshape, read_replicated, Engine.of_replicated, quotedArguments_list, hopen start hstart]
      rfl

/-! ## Texts that take such a declaration -/

/-- In a text that is read, every engine line is read as the engine of the object. -/
theorem read_of_parse {record : Record} {declaration : Text} (h : Record.parse text = .ok record)
    (hline : engineMark ++ declaration ∈ text.lines) :
    Engine.read record.kind declaration = .ok (record.engineName, record.engine) := by
  obtain ⟨uuidLine, engineLine, -, hengine, hdescribes⟩ := ((format_iff text).1 record).1 h
  obtain ⟨declared, arguments, rfl, hnamed, hdeclares⟩ := hdescribes.engine
  have hmem : engineMark ++ declaration ∈ engineLines text.lines :=
    List.mem_filter.2 ⟨hline, decide_eq_true (List.prefix_append _ _)⟩
  rw [hengine, List.mem_singleton] at hmem
  obtain rfl := List.append_cancel_left hmem
  rw [hnamed.read_eq, hdeclares.of_eq]
  rfl

/-- A text that takes a declaration with a line feed is read as no object. -/
theorem parse_of_lineFeed (hd : ¬ d.OnOneLine) (h : replaceEngine text d.text = .ok changed) :
    ∃ e, Record.parse changed = .error e := by
  obtain ⟨hone, rfl⟩ := replaceEngine_eq_ok_iff.1 h
  obtain ⟨above, line, below, hpieces, -, -, hnew⟩ := exists_engine_piece hone
  obtain ⟨done, inside, rest, htext, hn, hread⟩ := d.exists_lineFeed hd
  obtain ⟨start, hstart, hline⟩ := exists_start hn
  have hmem : engineMark ++ (done ++ quote :: start) ∈
      Text.lines (text.pieces.map (withEngine d.text)).flatten := by
    have hare := Text.arePieces_pieces text
    rw [hpieces] at hare
    rw [Text.lines, hnew, List.flatten_append, pieces_flatten_append hare, List.flatten_cons, htext]
    refine List.mem_map.2 ⟨_, List.mem_append_right _ ?_, hline.trans (List.append_assoc ..)⟩
    rw [List.append_assoc, List.append_assoc, List.cons_append, Text.pieces_append hn]
    exact List.mem_cons_self
  cases hparse : Record.parse (text.pieces.map (withEngine d.text)).flatten with
  | error e => exact ⟨e, rfl⟩
  | ok record =>
    have hok := read_of_parse hparse hmem
    rw [hread record.kind start hstart] at hok
    cases hok

end CatalogAdmin.Catalog
