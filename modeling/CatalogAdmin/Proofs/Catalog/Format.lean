import CatalogAdmin.Catalog.Parser
import CatalogAdmin.Proofs.Catalog.EngineLine
import CatalogAdmin.Proofs.Text.Lines

/-!
# The format of catalog files

A catalog file has one line that names the UUID and one that declares the engine. `Describes` says
what the two lines say of an object, `FirstFault` what is wrong with a file of another form. Where
several things are wrong, it is the first of: the number of UUID lines, the number of engine lines,
the UUID, the engine.

Results:
1. `header?_eq_some_iff`: what is read off a line is what the line says.
2. `parse_congr`: only the UUID lines and the engine lines count.
3. `Record.parse_iff`: a text is read as what its two lines describe, and refused for its first fault.
-/

namespace CatalogAdmin.Catalog

/-! ## The two lines -/

/-- A line that names a UUID. -/
def IsUuidLine (line : Text) : Prop := attachMark <+: line ∧ uuidMark <:+: line

instance (line : Text) : Decidable (IsUuidLine line) :=
  decidable_of_iff (line.startsWith attachMark = true ∧ line.contains uuidMark = true)
    (and_congr Text.startsWith_iff Text.contains_iff)

/-- The lines that name a UUID. -/
def uuidLines (lines : List Text) : List Text := lines.filter (IsUuidLine ·)

/-- The lines that declare an engine. -/
def engineLines (lines : List Text) : List Text := lines.filter (engineMark <+: ·)

/-- The UUID as a line writes it: what stands between the first mark and the next quote, or the end of
the line. -/
def NamesUuid (line value : Text) : Prop :=
  ∃ before behind, line = before ++ uuidMark ++ (value ++ behind) ∧
    (∀ earlier later, line = earlier ++ uuidMark ++ later → before.length ≤ earlier.length) ∧
    (∀ c ∈ value, c ≠ quote) ∧ ∀ c ∈ behind.head?, c = quote

/-- The kind of object a line is about. -/
def IsAbout (line : Text) (kind : ObjectKind) : Prop := kind = .database ↔ databaseMark <+: line

/-- What the line that names the UUID and the line that declares the engine say of an object. -/
structure Describes (uuidLine engineLine : Text) (record : Record) : Prop where
  kind : IsAbout uuidLine record.kind
  uuid : ∃ value, NamesUuid uuidLine value ∧ Uuid.parse? value = some record.uuid
  engine : ∃ declaration arguments, engineLine = engineMark ++ declaration ∧
    Named declaration record.engineName arguments ∧
    Declares record.kind record.engineName arguments record.engine

/-- The first thing that is wrong with a file of these lines. -/
inductive FirstFault (lines : List Text) : ParseError → Prop
  | noUuid : uuidLines lines = [] → FirstFault lines .missingUuid
  | manyUuids :
      1 < (uuidLines lines).length → FirstFault lines (.duplicateUuid (uuidLines lines).length)
  | noEngine :
      (uuidLines lines).length = 1 → engineLines lines = [] → FirstFault lines .missingEngine
  | manyEngines :
      (uuidLines lines).length = 1 → 1 < (engineLines lines).length →
      FirstFault lines (.duplicateEngine (engineLines lines).length)
  | invalidUuid {uuidLine value : Text} :
      uuidLines lines = [uuidLine] → (engineLines lines).length = 1 → NamesUuid uuidLine value →
      Uuid.parse? value = none → FirstFault lines (.invalidUuid value)
  | engine {uuidLine value declaration name arguments : Text} {uuid : Uuid} {kind : ObjectKind}
      {e : ParseError} :
      uuidLines lines = [uuidLine] → engineLines lines = [engineMark ++ declaration] →
      NamesUuid uuidLine value → Uuid.parse? value = some uuid → IsAbout uuidLine kind →
      Named declaration name arguments → EngineFault kind name arguments e → FirstFault lines e

/-! ## Reading a line -/

variable {line value : Text} {kind : ObjectKind} {lines : List Text}

theorem kindOf_eq_iff : kindOf line = kind ↔ IsAbout line kind := by
  rw [kindOf, IsAbout, ← Text.startsWith_iff]
  cases kind <;> cases line.startsWith databaseMark <;> decide

/-- What is read off a line that names a UUID is what the line says. -/
theorem header?_eq_some_iff :
    header? line = some (kind, value) ↔ attachMark <+: line ∧ IsAbout line kind ∧ NamesUuid line value := by
  rw [← kindOf_eq_iff, ← Text.startsWith_iff, header?, cutAtUuid]
  have hvalue : ∀ behind rest : Text,
      behind.takeWhile (· ≠ quote) = value ∧ behind.dropWhile (· ≠ quote) = rest ↔
        behind = value ++ rest ∧ (∀ c ∈ value, c ≠ quote) ∧ ∀ c ∈ rest.head?, c = quote := by
    intro behind rest
    rw [Text.takeWhile_dropWhile_iff]
    simp
  split
  · next hattach =>
    rw [Option.map_map]
    constructor
    · intro h
      obtain ⟨⟨before, behind⟩, hcut, he⟩ := Option.map_eq_some_iff.1 h
      obtain ⟨rfl, rfl⟩ := Prod.mk.inj he
      obtain ⟨hline, hfirst⟩ := Text.cut_eq_some_iff.1 hcut
      obtain ⟨hbehind, hopen, hclose⟩ := (hvalue behind _).1 ⟨rfl, rfl⟩
      exact ⟨hattach, rfl, before, _, by rw [← hbehind]; exact hline, hfirst, hopen, hclose⟩
    · rintro ⟨-, rfl, before, rest, hline, hfirst, hopen, hclose⟩
      rw [Text.cut_eq_some_iff.2 ⟨hline, hfirst⟩]
      simp only [Option.map_some, Function.comp_apply, ((hvalue _ rest).2 ⟨rfl, hopen, hclose⟩).1]
  · next hattach => simp [hattach]

theorem isSome_header?_iff : (header? line).isSome = true ↔ IsUuidLine line := by
  rw [header?, cutAtUuid, Option.isSome_map, IsUuidLine, ← Text.startsWith_iff, ← Text.contains_iff]
  split
  · next hattach => simp [Text.contains, hattach]
  · next hattach => simp [hattach]

theorem exists_namesUuid (h : IsUuidLine line) :
    ∃ kind value, IsAbout line kind ∧ NamesUuid line value := by
  obtain ⟨⟨kind, value⟩, hheader⟩ := Option.isSome_iff_exists.1 (isSome_header?_iff.2 h)
  exact ⟨kind, value, (header?_eq_some_iff.1 hheader).2⟩

/-! ## Reading lines -/

theorem filterMap_header? (lines : List Text) :
    lines.filterMap header? = (uuidLines lines).filterMap header? := by
  rw [uuidLines, List.filterMap_filter]
  congr 1
  funext line
  split
  · rfl
  · next hline =>
    rw [← Option.not_isSome_iff_eq_none, isSome_header?_iff]
    simpa using hline

theorem length_filterMap_header? (lines : List Text) :
    (lines.filterMap header?).length = (uuidLines lines).length := by
  rw [List.length_filterMap_eq_countP, uuidLines, List.countP_eq_length_filter]
  congr 2
  funext line
  rw [Bool.eq_iff_iff, isSome_header?_iff, decide_eq_true_iff]

theorem filter_isEngineLine (lines : List Text) :
    lines.filter isEngineLine = engineLines lines := by
  rw [engineLines]
  congr 1
  funext line
  rw [Bool.eq_iff_iff, isEngineLine, Text.startsWith_iff, decide_eq_true_iff]

theorem headers_of_one (h : uuidLines lines = [line]) (hkind : IsAbout line kind)
    (hvalue : NamesUuid line value) : lines.filterMap header? = [(kind, value)] := by
  have hline : line ∈ uuidLines lines := h ▸ List.mem_singleton_self line
  have hattach : IsUuidLine line := by simpa using (List.mem_filter.1 hline).2
  rw [filterMap_header?, h, List.filterMap_cons, header?_eq_some_iff.2 ⟨hattach.1, hkind, hvalue⟩]
  rfl

theorem theOnly_many {α : Type} {missing : ParseError} {duplicate : Nat → ParseError}
    {found : List α} (h : 1 < found.length) :
    theOnly missing duplicate found = .error (duplicate found.length) := by
  rcases found with _ | ⟨_, _ | _⟩
  case cons.cons => rfl
  all_goals simp at h

theorem exists_theOnly {α : Type} (missing : ParseError) (duplicate : Nat → ParseError)
    {found : List α} (h : found.length = 1) : ∃ x, theOnly missing duplicate found = .ok x := by
  obtain ⟨x, rfl⟩ := List.length_eq_one_iff.1 h
  exact ⟨x, rfl⟩

/-- Only the lines that name a UUID and those that declare an engine count. -/
theorem parse_congr {text other : Text} (huuid : uuidLines other.lines = uuidLines text.lines)
    (hengine : engineLines other.lines = engineLines text.lines) :
    Record.parse other = Record.parse text := by
  simp only [Record.parse, filterMap_header? other.lines, filterMap_header? text.lines,
    filter_isEngineLine, huuid, hengine]

/-! ## Reading a file -/

/-- The object that a file of these lines describes. -/
def Format (lines : List Text) (record : Record) : Prop :=
  ∃ uuidLine engineLine, uuidLines lines = [uuidLine] ∧ engineLines lines = [engineLine] ∧
    Describes uuidLine engineLine record

variable {text : Text}

theorem Format.parse_eq {record : Record} (h : Format text.lines record) :
    Record.parse text = .ok record := by
  obtain ⟨uuidLine, engineLine, huuid, hengine, hdescribes⟩ := h
  obtain ⟨value, hvalue, hparse⟩ := hdescribes.uuid
  obtain ⟨declaration, arguments, rfl, hnamed, hdeclares⟩ := hdescribes.engine
  have hheaders := headers_of_one huuid hdescribes.kind hvalue
  have hread : Engine.read record.kind ((engineMark ++ declaration).drop engineMark.length) =
      .ok (record.engineName, record.engine) := by
    rw [List.drop_left, hnamed.read_eq, hdeclares.of_eq]
    rfl
  simp only [Record.parse, hheaders, filter_isEngineLine, hengine, theOnly, bind, Except.bind, hparse,
    hread]
  rfl

theorem FirstFault.parse_eq {e : ParseError} (h : FirstFault text.lines e) :
    Record.parse text = .error e := by
  have hlen := length_filterMap_header? text.lines
  cases h with
  | noUuid hnone =>
    rw [hnone, List.length_nil, List.length_eq_zero_iff] at hlen
    simp only [Record.parse, hlen, theOnly]
    rfl
  | manyUuids hmany =>
    simp only [Record.parse, theOnly_many (hlen ▸ hmany), hlen]
    rfl
  | noEngine hone hnone =>
    obtain ⟨header, hheader⟩ := exists_theOnly .missingUuid .duplicateUuid (hlen.trans hone)
    have hengine : theOnly .missingEngine .duplicateEngine (engineLines text.lines) =
        .error .missingEngine := by rw [hnone]; rfl
    simp only [Record.parse, hheader, filter_isEngineLine, hengine]
    rfl
  | manyEngines hone hmany =>
    obtain ⟨header, hheader⟩ := exists_theOnly .missingUuid .duplicateUuid (hlen.trans hone)
    simp only [Record.parse, hheader, filter_isEngineLine, theOnly_many hmany]
    rfl
  | @invalidUuid uuidLine value huuid hone hvalue hparse =>
    obtain ⟨engineLine, hengine⟩ := List.length_eq_one_iff.1 hone
    have hheaders := headers_of_one huuid (kindOf_eq_iff.1 rfl) hvalue
    simp only [Record.parse, hheaders, filter_isEngineLine, hengine, theOnly, bind, Except.bind, hparse]
    rfl
  | @engine uuidLine value declaration name arguments uuid kind e huuid hengine hvalue hparse hkind
      hnamed hfault =>
    have hheaders := headers_of_one huuid hkind hvalue
    have hread : Engine.read kind ((engineMark ++ declaration).drop engineMark.length) = .error e := by
      rw [List.drop_left, hnamed.read_eq, hfault.of_eq]
      rfl
    simp only [Record.parse, hheaders, filter_isEngineLine, hengine, theOnly, bind, Except.bind, hparse,
      hread]

/-- Lines describe an object, or there is something wrong with them. -/
theorem format_or_fault (lines : List Text) :
    (∃ record, Format lines record) ∨ ∃ e, FirstFault lines e := by
  -- exactly one line of a kind is one between none and many
  have count : ∀ found : List Text, found = [] ∨ (∃ line, found = [line]) ∨ 1 < found.length := by
    rintro (_ | ⟨line, _ | _⟩)
    · exact .inl rfl
    · exact .inr (.inl ⟨line, rfl⟩)
    · exact .inr (.inr (by simp))
  rcases count (uuidLines lines) with hnone | ⟨uuidLine, huuid⟩ | hmany
  · exact .inr ⟨_, .noUuid hnone⟩
  · rcases count (engineLines lines) with hnone | ⟨engineLine, hengine⟩ | hmany
    · exact .inr ⟨_, .noEngine (by rw [huuid]; rfl) hnone⟩
    · have hline : uuidLine ∈ uuidLines lines := huuid ▸ List.mem_singleton_self uuidLine
      have hdeclared : engineLine ∈ engineLines lines := hengine ▸ List.mem_singleton_self engineLine
      obtain ⟨kind, value, hkind, hvalue⟩ :=
        exists_namesUuid (by simpa using (List.mem_filter.1 hline).2)
      obtain ⟨declaration, rfl⟩ : engineMark <+: engineLine := by
        simpa using (List.mem_filter.1 hdeclared).2
      obtain ⟨name, arguments, hnamed⟩ := exists_named declaration
      cases hparse : Uuid.parse? value with
      | none => exact .inr ⟨_, .invalidUuid huuid (by rw [hengine]; rfl) hvalue hparse⟩
      | some uuid =>
        rcases declares_or_fault kind name arguments with ⟨engine, hdeclares⟩ | ⟨e, hfault⟩
        · exact .inl ⟨⟨kind, uuid, name, engine⟩, uuidLine, _, huuid, hengine, hkind,
            ⟨value, hvalue, hparse⟩, declaration, arguments, rfl, hnamed, hdeclares⟩
        · exact .inr ⟨e, .engine huuid hengine hvalue hparse hkind hnamed hfault⟩
    · exact .inr ⟨_, .manyEngines (by rw [huuid]; rfl) hmany⟩
  · exact .inr ⟨_, .manyUuids hmany⟩

/-- A text is read as what its lines describe, and refused for the first thing that is wrong with
them. -/
theorem format_iff (text : Text) :
    (∀ record, Record.parse text = .ok record ↔ Format text.lines record) ∧
      ∀ e, Record.parse text = .error e ↔ FirstFault text.lines e :=
  except_iff (fun _ => Format.parse_eq) (fun _ => FirstFault.parse_eq) (format_or_fault text.lines)

/-- A text is read as what its two lines describe, and refused for the first thing that is wrong with
it. Other lines, and line endings of either kind, make no difference. -/
theorem Record.parse_iff (text : Text) : ∃ lines, Text.Written lines text ∧
    (∀ record, Record.parse text = .ok record ↔ Format lines record) ∧
    (∀ e, Record.parse text = .error e ↔ FirstFault lines e) ∧
    ∀ other lines', Text.Written lines' other → uuidLines lines' = uuidLines lines →
      engineLines lines' = engineLines lines → Record.parse other = Record.parse text := by
  obtain ⟨hok, herror⟩ := format_iff text
  refine ⟨text.lines, Text.written_lines text, hok, herror, ?_⟩
  intro other lines' hother huuid hengine
  rw [← hother.lines_eq] at huuid hengine
  exact parse_congr huuid hengine

end CatalogAdmin.Catalog
