import CatalogAdmin.Proofs.Catalog.Format
import CatalogAdmin.Proofs.Catalog.UuidLiteral
import CatalogAdmin.Proofs.Uuid

/-!
# Files that take a new UUID

A file is read also where its UUID literal has no closing quote, but it takes a new UUID only where it
has one (`ClosesUuid`).

Results:
1. `replaceUuid_of_closed`, `replaceUuid_of_open`: a file that is read takes any UUID if its literal is
   closed, and none if not. The reader goes by lines and the replacement by pieces, and the reader does
   not ask for a closing quote.
2. `parse_replaceUuid`: a file that took a new UUID is read as before, with that UUID.
3. `replaceUuid_back`: taking the old UUID again brings the old text back, where that spelled the UUID
   with hyphens and small letters.
-/

namespace CatalogAdmin.Catalog

/-! ## Closed literals -/

/-- A line in which a quote follows the mark before the UUID. -/
def ClosesUuid (line : Text) : Prop :=
  ∃ before value behind, line = before ++ uuidMark ++ (value ++ quote :: behind)

/-- A line with a closed UUID literal, taken apart. -/
structure Literal (line before value behind : Text) : Prop where
  line_eq : line = before ++ uuidMark ++ (value ++ quote :: behind)
  attach : attachMark <+: line
  first : ∀ earlier later, line = earlier ++ uuidMark ++ later → before.length ≤ earlier.length
  plain : quote ∉ value

/-- Lines of which none leaves a UUID literal open. -/
def Closed (lines : List Text) : Prop := ∀ line ∈ uuidLines lines, ClosesUuid line

variable {line before value behind : Text} {uuid : Uuid}

theorem exists_literal (h : IsUuidLine line) (hc : ClosesUuid line) :
    ∃ before value behind, Literal line before value behind := by
  obtain ⟨kind, value, -, before, rest, hline, hfirst, hplain, hrest⟩ := exists_namesUuid h
  cases rest with
  | cons c behind =>
    obtain rfl : c = quote := hrest c rfl
    exact ⟨before, value, behind, hline, h.1, hfirst, fun hq => hplain quote hq rfl⟩
  | nil =>
    -- a quote behind some mark also stands behind the first
    obtain ⟨before', value', behind', hline'⟩ := hc
    have hle := hfirst before' _ hline'
    have hsuffix : value' ++ quote :: behind' <:+ value := by
      have hall : value <:+ line := ⟨before ++ uuidMark, by rw [hline, List.append_nil]⟩
      refine List.suffix_of_suffix_length_le ⟨_, hline'.symm⟩ hall ?_
      have hlen := congrArg List.length (hline.symm.trans hline')
      simp only [List.length_append, List.length_cons, List.length_nil] at hlen ⊢
      omega
    exact absurd rfl (hplain quote (hsuffix.subset (by simp)))

namespace Literal

theorem isUuidLine (h : Literal line before value behind) : IsUuidLine line :=
  ⟨h.attach, before, value ++ quote :: behind, h.line_eq.symm⟩

theorem closes (h : Literal line before value behind) : ClosesUuid line :=
  ⟨before, value, behind, h.line_eq⟩

theorem namesUuid (h : Literal line before value behind) : NamesUuid line value := by
  refine ⟨before, quote :: behind, h.line_eq, h.first, ?_, ?_⟩
  · intro c hc
    exact ne_of_mem_of_not_mem hc h.plain
  · intro c hc
    exact (Option.some.inj hc).symm

theorem uuidSite?_eq (h : Literal line before value behind) :
    uuidSite? line = some ⟨before ++ uuidMark, value, quote :: behind⟩ := by
  have hcut : line.cut uuidMark = some (before, value ++ quote :: behind) :=
    Text.cut_eq_some_iff.2 ⟨h.line_eq, h.first⟩
  unfold uuidSite? cutAtUuid
  rw [if_pos (Text.startsWith_iff.2 h.attach), hcut]
  simp only [Option.map_some, Option.bind_eq_bind, Option.bind_some, takeWhile_quote h.plain,
    dropWhile_quote h.plain]
  rfl

theorem withUuid_eq (h : Literal line before value behind) (uuid : Uuid) :
    withUuid uuid line = before ++ uuidMark ++ (uuid.text ++ quote :: behind) := by
  rw [withUuid, h.uuidSite?_eq]
  exact List.append_assoc ..

end Literal

theorem uuidSite?_eq_none (h : ¬ (IsUuidLine line ∧ ClosesUuid line)) : uuidSite? line = none := by
  cases hsite : uuidSite? line with
  | none => rfl
  | some site =>
    obtain ⟨rest, hcut, hclosed, -, -⟩ := exists_of_uuidSite? hsite
    have hheader : (header? line).isSome = true := by
      rw [header?, hcut]
      rfl
    obtain ⟨hline, before, hbefore⟩ := eq_of_cutAtUuid hcut
    have hquote : quote ∈ rest := by
      refine Decidable.byContradiction fun hopen => hclosed ?_
      exact dropWhile_of_not_mem hopen
    obtain ⟨value, behind, rfl⟩ := List.append_of_mem hquote
    refine absurd ⟨isSome_header?_iff.1 hheader, before, value, behind, ?_⟩ h
    rw [hline, hbefore]

theorem withUuid_eq_self (h : ¬ (IsUuidLine line ∧ ClosesUuid line)) : withUuid uuid line = line := by
  rw [withUuid, uuidSite?_eq_none h]

/-! ## Lines with a new UUID -/

theorem not_mem_text {c : Char} (hc : c ≠ '-') (hdigit : ∀ d, Text.hexChar d ≠ c) (uuid : Uuid) :
    c ∉ uuid.text := by
  intro hmem
  rcases Uuid.mem_text hmem with rfl | ⟨d, rfl⟩
  · exact hc rfl
  · exact hdigit d rfl

/-- What a line begins with, it begins with under another UUID. -/
theorem Literal.prefix_withUuid {front : Text} (h : Literal line before value behind)
    (hf : ¬ uuidMark <:+: front) : front <+: withUuid uuid line ↔ front <+: line := by
  rw [h.withUuid_eq, h.line_eq]
  constructor
  · intro hp
    exact (Text.prefix_of_not_infix hf hp).trans (List.prefix_append _ _)
  · intro hp
    exact (Text.prefix_of_not_infix hf hp).trans (List.prefix_append _ _)

theorem not_infix_attachMark : ¬ uuidMark <:+: attachMark := by
  rw [← Text.contains_iff]
  decide

theorem not_infix_databaseMark : ¬ uuidMark <:+: databaseMark := by
  rw [← Text.contains_iff]
  decide

theorem not_infix_engineMark : ¬ uuidMark <:+: engineMark := by
  rw [← Text.contains_iff]
  decide

/-- A closed literal takes a new UUID. -/
theorem Literal.withUuid (h : Literal line before value behind) (uuid : Uuid) :
    Literal (withUuid uuid line) before uuid.text behind where
  line_eq := h.withUuid_eq uuid
  attach := (h.prefix_withUuid not_infix_attachMark).2 h.attach
  first := by
    intro earlier later he
    have hfirst := h.first
    rw [h.line_eq] at hfirst
    rw [h.withUuid_eq] at he
    exact Text.first_of_first hfirst he
  plain := not_mem_text (by decide) (by decide) uuid

theorem withUuid_cases (uuid : Uuid) (line : Text) :
    withUuid uuid line = line ∨ ∃ before value behind, Literal line before value behind := by
  by_cases h : IsUuidLine line ∧ ClosesUuid line
  · exact .inr (exists_literal h.1 h.2)
  · exact .inl (withUuid_eq_self h)

theorem isUuidLine_withUuid : IsUuidLine (withUuid uuid line) ↔ IsUuidLine line := by
  rcases withUuid_cases uuid line with h | ⟨_, _, _, h⟩
  · rw [h]
  · exact iff_of_true (h.withUuid uuid).isUuidLine h.isUuidLine

theorem engineMark_withUuid : engineMark <+: withUuid uuid line ↔ engineMark <+: line := by
  rcases withUuid_cases uuid line with h | ⟨_, _, _, h⟩
  · rw [h]
  · exact h.prefix_withUuid not_infix_engineMark

theorem withUuid_of_engineMark (h : engineMark <+: line) : withUuid uuid line = line := by
  refine withUuid_eq_self fun hline => ?_
  have hheader := isSome_header?_iff.2 hline.1
  rw [header?_of_isEngineLine (Text.startsWith_iff.2 h)] at hheader
  cases hheader

theorem not_mem_withUuid (h : '\n' ∉ line) : '\n' ∉ withUuid uuid line := by
  rcases withUuid_cases uuid line with hw | ⟨before, value, behind, hl⟩
  · rwa [hw]
  · have hnew := not_mem_text (c := '\n') (by decide) (by decide) uuid
    rw [hl.line_eq] at h
    rw [hl.withUuid_eq]
    simp only [List.mem_append, not_or] at h ⊢
    exact ⟨h.1, hnew, h.2.2⟩

theorem withUuid_ne_nil (h : line ≠ []) : withUuid uuid line ≠ [] := by
  rcases withUuid_cases uuid line with hw | ⟨before, value, behind, hl⟩
  · rwa [hw]
  · rw [hl.withUuid_eq]
    simp

theorem getLast?_withUuid : (withUuid uuid line).getLast? = line.getLast? := by
  rcases withUuid_cases uuid line with hw | ⟨before, value, behind, hl⟩
  · rw [hw]
  · rw [hl.withUuid_eq, hl.line_eq]
    simp only [List.getLast?_append, List.getLast?_cons, Option.some_or]

theorem withUuid_append {e : Text} (he : ∀ c ∈ e, c = '\r' ∨ c = '\n') :
    withUuid uuid (line ++ e) = withUuid uuid line ++ e := by
  rw [withUuid, withUuid, uuidSite?_append he]
  cases uuidSite? line with
  | none => rfl
  | some site => simp only [Option.map_some, List.append_assoc]

/-! ## Texts with a new UUID -/

/-- Lines that are written with a new UUID stand in the text that takes it. -/
theorem written_withUuid {ls : List Text} {t : Text} (h : Text.Written ls t) (uuid : Uuid) :
    Text.Written (ls.map (withUuid uuid)) (t.pieces.map (withUuid uuid)).flatten := by
  induction h with
  | nil => exact .nil
  | @last line hne hn =>
    rw [Text.pieces_of_not_mem hne hn]
    simpa using Text.Written.last (withUuid_ne_nil hne) (not_mem_withUuid hn)
  | @lf line rest more hn hr _ ih =>
    have hpiece : withUuid uuid (line ++ ['\n']) = withUuid uuid line ++ ['\n'] :=
      withUuid_append (by simp)
    rw [Text.pieces_append hn, List.map_cons, List.map_cons, List.flatten_cons, hpiece, List.append_assoc]
    exact .lf (not_mem_withUuid hn) (by rwa [getLast?_withUuid]) ih
  | @crlf line rest more hn _ ih =>
    have hpiece : withUuid uuid (line ++ ['\r'] ++ ['\n']) = withUuid uuid line ++ ['\r', '\n'] := by
      rw [List.append_assoc]
      exact withUuid_append (by simp)
    have hbody : '\n' ∉ line ++ ['\r'] := by simp [hn]
    have hpieces := Text.pieces_append hbody rest
    rw [List.append_assoc, List.singleton_append] at hpieces
    rw [hpieces, List.map_cons, List.map_cons, List.flatten_cons, hpiece, List.append_assoc]
    exact .crlf (not_mem_withUuid hn) ih

theorem lines_withUuid (text : Text) (uuid : Uuid) :
    Text.lines (text.pieces.map (withUuid uuid)).flatten = text.lines.map (withUuid uuid) :=
  (written_withUuid (Text.written_lines text) uuid).lines_eq

theorem uuidLines_withUuid (lines : List Text) (uuid : Uuid) :
    uuidLines (lines.map (withUuid uuid)) = (uuidLines lines).map (withUuid uuid) := by
  rw [uuidLines, uuidLines, List.filter_map]
  congr 2
  funext line
  exact decide_eq_decide.2 isUuidLine_withUuid

theorem engineLines_withUuid (lines : List Text) (uuid : Uuid) :
    engineLines (lines.map (withUuid uuid)) = engineLines lines := by
  have hsame : (fun line => decide (engineMark <+: withUuid uuid line)) =
      fun line => decide (engineMark <+: line) := by
    funext line
    exact decide_eq_decide.2 engineMark_withUuid
  rw [engineLines, engineLines, List.filter_map, Function.comp_def, hsame]
  refine (List.map_congr_left fun line hline => ?_).trans (List.map_id _)
  exact withUuid_of_engineMark (by simpa using (List.mem_filter.1 hline).2)

/-- An object whose file takes a new UUID is the same object with that UUID. -/
theorem Format.withUuid {lines : List Text} {record : Record} (h : Format lines record)
    (hc : Closed lines) (uuid : Uuid) :
    Format (lines.map (withUuid uuid)) { record with uuid } := by
  obtain ⟨uuidLine, engineLine, huuid, hengine, hdescribes⟩ := h
  have hmem : uuidLine ∈ uuidLines lines := huuid ▸ List.mem_singleton_self uuidLine
  have hline : IsUuidLine uuidLine := by simpa using (List.mem_filter.1 hmem).2
  obtain ⟨before, value, behind, hl⟩ := exists_literal hline (hc uuidLine hmem)
  refine ⟨Catalog.withUuid uuid uuidLine, engineLine, ?_, ?_, ?_⟩
  · rw [uuidLines_withUuid, huuid, List.map_singleton]
  · rw [engineLines_withUuid, hengine]
  · refine ⟨?_, ⟨uuid.text, (hl.withUuid uuid).namesUuid, uuid.parse?_text⟩, hdescribes.engine⟩
    show record.kind = .database ↔ databaseMark <+: Catalog.withUuid uuid uuidLine
    rw [hl.prefix_withUuid not_infix_databaseMark]
    exact hdescribes.kind

/-! ## Replacing the UUID of a file that is read -/

variable {text changed : Text} {previous : Uuid} {record : Record}

theorem NamesUuid.unique {other : Text} (h : IsUuidLine line) (hv : NamesUuid line value)
    (ho : NamesUuid line other) : value = other := by
  have hfirst := header?_eq_some_iff.2 ⟨h.1, kindOf_eq_iff.1 rfl, hv⟩
  have hsecond := header?_eq_some_iff.2 ⟨h.1, kindOf_eq_iff.1 rfl, ho⟩
  exact (Prod.mk.inj (Option.some.inj (hfirst.symm.trans hsecond))).2

/-- Of a file with one UUID line, the one place for a UUID is in that line. -/
theorem sites_of_one (h : uuidLines text.lines = [line]) :
    ∃ ending, text.pieces.filterMap uuidSite? =
      ((uuidSite? line).map fun site => { site with behind := site.behind ++ ending }).toList := by
  rw [uuidLines, Text.lines, List.filter_map] at h
  obtain ⟨piece, hpieces, rfl⟩ := List.map_eq_singleton_iff.1 h
  refine ⟨piece.ending, ?_⟩
  have hsites : text.pieces.filterMap uuidSite? =
      (text.pieces.filter ((IsUuidLine ·) ∘ Text.withoutEnding)).filterMap uuidSite? := by
    rw [List.filterMap_filter]
    congr 1
    funext p
    split
    · rfl
    · next hline =>
      rw [uuidSite?_of_ending, uuidSite?_eq_none fun hboth => hline (decide_eq_true hboth.1)]
      rfl
  rw [hsites, hpieces, List.filterMap_cons, ← uuidSite?_of_ending]
  cases uuidSite? piece with
  | none => rfl
  | some site => rfl

/-- A file that is read takes any UUID if its literal is closed, and gives back the one it had. -/
theorem replaceUuid_of_closed (h : Format text.lines record) (hc : Closed text.lines) (uuid : Uuid) :
    replaceUuid text uuid = .ok (record.uuid, (text.pieces.map (withUuid uuid)).flatten) := by
  obtain ⟨uuidLine, engineLine, huuid, -, hdescribes⟩ := h
  obtain ⟨value, hvalue, hparse⟩ := hdescribes.uuid
  have hmem : uuidLine ∈ uuidLines text.lines := huuid ▸ List.mem_singleton_self uuidLine
  have hline : IsUuidLine uuidLine := by simpa using (List.mem_filter.1 hmem).2
  obtain ⟨before, value', behind, hl⟩ := exists_literal hline (hc uuidLine hmem)
  obtain rfl : value = value' := hvalue.unique hline hl.namesUuid
  obtain ⟨ending, hsites⟩ := sites_of_one huuid
  rw [hl.uuidSite?_eq] at hsites
  simp only [replaceUuid, hsites, Option.map_some, Option.toList_some, theOnly, bind, Except.bind,
    hparse]
  rfl

/-- A file that is read, but whose literal is not closed, takes no UUID. -/
theorem replaceUuid_of_open (h : Format text.lines record) (hc : ¬ Closed text.lines) (uuid : Uuid) :
    replaceUuid text uuid = .error .missingUuid := by
  obtain ⟨uuidLine, engineLine, huuid, -, -⟩ := h
  have hopen : ¬ ClosesUuid uuidLine := by
    intro hclosed
    refine hc fun line hline => ?_
    rw [huuid, List.mem_singleton] at hline
    rwa [hline]
  obtain ⟨ending, hsites⟩ := sites_of_one huuid
  rw [uuidSite?_eq_none fun hboth => hopen hboth.2] at hsites
  simp only [replaceUuid, hsites]
  rfl

/-- Where a file that is read took a new UUID, its literal is closed, and the UUID it gave back is the
one that was read. -/
theorem replaceUuid_of_parse (hr : Record.parse text = .ok record)
    (h : replaceUuid text uuid = .ok (previous, changed)) :
    Closed text.lines ∧ record.uuid = previous ∧
      changed = (text.pieces.map (withUuid uuid)).flatten := by
  have hformat := ((format_iff text).1 record).1 hr
  by_cases hclosed : Closed text.lines
  · rw [replaceUuid_of_closed hformat hclosed] at h
    cases h
    exact ⟨hclosed, rfl, rfl⟩
  · rw [replaceUuid_of_open hformat hclosed] at h
    cases h

/-- A file that took a new UUID is read as before, with that UUID. -/
theorem parse_replaceUuid (hr : Record.parse text = .ok record)
    (h : replaceUuid text uuid = .ok (previous, changed)) :
    Record.parse changed = .ok { record with uuid } := by
  obtain ⟨hclosed, -, rfl⟩ := replaceUuid_of_parse hr h
  have hformat := ((format_iff text).1 record).1 hr
  refine Format.parse_eq ?_
  rw [lines_withUuid]
  exact hformat.withUuid hclosed uuid

/-! ## Replacing it back -/

/-- The UUID is written with hyphens and small letters. -/
def Spells (lines : List Text) (uuid : Uuid) : Prop :=
  ∀ line ∈ uuidLines lines, NamesUuid line uuid.text

theorem arePieces_withUuid {ps : List Text} (h : Text.ArePieces ps) (uuid : Uuid) :
    Text.ArePieces (ps.map (withUuid uuid)) := by
  induction h with
  | nil => exact .nil
  | last hne hn => exact .last (withUuid_ne_nil hne) (not_mem_withUuid hn)
  | @cons body more hn _ ih =>
    have hpiece : withUuid uuid (body ++ ['\n']) = withUuid uuid body ++ ['\n'] :=
      withUuid_append (by simp)
    rw [List.map_cons, hpiece]
    exact .cons (not_mem_withUuid hn) ih

/-- A line that spells its UUID takes it back as it was. -/
theorem withUuid_withUuid {own : Uuid} (h : IsUuidLine line → NamesUuid line own.text) :
    withUuid own (withUuid uuid line) = line := by
  by_cases hboth : IsUuidLine line ∧ ClosesUuid line
  · obtain ⟨before, value, behind, hl⟩ := exists_literal hboth.1 hboth.2
    rw [(hl.withUuid uuid).withUuid_eq, hl.line_eq, hl.namesUuid.unique hboth.1 (h hboth.1)]
  · rw [withUuid_eq_self hboth, withUuid_eq_self hboth]

theorem closed_withUuid {lines : List Text} (hc : Closed lines) (uuid : Uuid) :
    Closed (lines.map (withUuid uuid)) := by
  intro changed hchanged
  rw [uuidLines_withUuid] at hchanged
  obtain ⟨line, hline, rfl⟩ := List.mem_map.1 hchanged
  have huuid : IsUuidLine line := by simpa using (List.mem_filter.1 hline).2
  obtain ⟨_, _, _, hl⟩ := exists_literal huuid (hc line hline)
  exact (hl.withUuid uuid).closes

/-- A file that takes its own UUID again is as it was, if it spelled it with hyphens and small letters. -/
theorem replaceUuid_back (hr : Record.parse text = .ok record) (hspells : Spells text.lines record.uuid)
    (h : replaceUuid text uuid = .ok (previous, changed)) :
    replaceUuid changed record.uuid = .ok (uuid, text) := by
  obtain ⟨hclosed, rfl, rfl⟩ := replaceUuid_of_parse hr h
  have hformat := (((format_iff text).1 record).1 hr).withUuid hclosed uuid
  have hclosed' := closed_withUuid hclosed uuid
  rw [← lines_withUuid] at hformat hclosed'
  rw [replaceUuid_of_closed hformat hclosed' record.uuid,
    Text.pieces_flatten (arePieces_withUuid (Text.arePieces_pieces text) uuid), List.map_map]
  have hback : ∀ piece ∈ text.pieces, (withUuid record.uuid ∘ withUuid uuid) piece = id piece := by
    intro piece hpiece
    have hending : ∀ c ∈ Text.ending piece, c = '\r' ∨ c = '\n' := fun c => Text.ending_chars
    have hline : withUuid record.uuid (withUuid uuid (Text.withoutEnding piece)) = Text.withoutEnding piece :=
      withUuid_withUuid fun huuid =>
        hspells _ (List.mem_filter.2 ⟨List.mem_map_of_mem hpiece, decide_eq_true huuid⟩)
    calc withUuid record.uuid (withUuid uuid piece)
        = withUuid record.uuid (withUuid uuid (Text.withoutEnding piece ++ Text.ending piece)) := by
          rw [Text.withoutEnding_append]
      _ = piece := by
          rw [withUuid_append hending, withUuid_append hending, hline, Text.withoutEnding_append]
  rw [List.map_congr_left hback, List.map_id, Text.flatten_pieces]

end CatalogAdmin.Catalog
