import CatalogAdmin.Proofs.Catalog.NewUuid

/-!
# Texts that take a new UUID

`replaceUuid` takes any text in which one piece holds a closed UUID literal, whether the text is read
as a catalog file or not (`replaceUuid_eq_ok_iff`). The text it answers differs in that literal alone,
so replacing the UUID is a lawful update: the UUID that was written is the one that is given back, and
of two replacements the second wins.

What `Record.parse` makes of a text goes by more lines than the one that takes the UUID: an `ATTACH`
line whose literal is open counts for the reader, and takes no UUID. Such a line stays where it is, so
the reader finds the same fault before and behind a replacement (`parse_withUuid`).
-/

namespace CatalogAdmin.Catalog

variable {text changed line piece : Text} {above below : List Text} {site : UuidSite}
  {uuid previous : Uuid}

/-! ## The place of the UUID -/

theorem uuidSite?_withUuid (h : uuidSite? piece = some site) (uuid : Uuid) :
    uuidSite? (withUuid uuid piece) = some { site with value := uuid.text } := by
  have hboth : IsUuidLine piece ∧ ClosesUuid piece := by
    refine Classical.byContradiction fun hno => ?_
    rw [uuidSite?_eq_none hno] at h
    cases h
  obtain ⟨before, value, behind, hl⟩ := exists_literal hboth.1 hboth.2
  rw [hl.uuidSite?_eq] at h
  cases h
  exact (hl.withUuid uuid).uuidSite?_eq

theorem withUuid_of_site (h : uuidSite? piece = some site) (uuid : Uuid) :
    withUuid uuid piece = site.before ++ uuid.text ++ site.behind := by
  rw [withUuid, h]

/-- Of two new UUIDs in one place the second stays. -/
theorem withUuid_again (uuid other : Uuid) (piece : Text) :
    withUuid other (withUuid uuid piece) = withUuid other piece := by
  cases h : uuidSite? piece with
  | none =>
    have hsame : withUuid uuid piece = piece := by rw [withUuid, h]
    rw [hsame]
  | some site =>
    rw [withUuid_of_site (uuidSite?_withUuid h uuid), withUuid_of_site h]

/-- The text with another UUID in every place that holds one. -/
theorem pieces_withUuid (text : Text) (uuid : Uuid) :
    Text.pieces (text.pieces.map (withUuid uuid)).flatten = text.pieces.map (withUuid uuid) :=
  Text.pieces_flatten (arePieces_withUuid (Text.arePieces_pieces text) uuid)

namespace OneSite

/-- The text that takes a new UUID holds it in the place of the old one. -/
theorem withUuid (h : OneSite text above piece below site) (uuid : Uuid) :
    OneSite (text.pieces.map (Catalog.withUuid uuid)).flatten above (Catalog.withUuid uuid piece)
      below { site with value := uuid.text } where
  pieces_eq := by rw [pieces_withUuid, h.map_withUuid]
  site_eq := uuidSite?_withUuid h.site_eq uuid
  above_none := h.above_none
  below_none := h.below_none

end OneSite

/-! ## What a reader makes of it -/

theorem header?_of_site (h : uuidSite? line = some site) :
    header? line = some (kindOf line, site.value) := by
  obtain ⟨rest, hcut, -, hvalue, -⟩ := exists_of_uuidSite? h
  rw [header?, hcut, hvalue]
  rfl

theorem kindOf_withUuid (uuid : Uuid) (line : Text) : kindOf (withUuid uuid line) = kindOf line := by
  rcases withUuid_cases uuid line with hw | ⟨before, value, behind, hl⟩
  · rw [hw]
  · have hmark : databaseMark <+: withUuid uuid line ↔ databaseMark <+: line :=
      hl.prefix_withUuid not_infix_databaseMark
    rw [← Text.startsWith_iff, ← Text.startsWith_iff, ← Bool.eq_iff_iff] at hmark
    rw [kindOf, kindOf, hmark]

theorem exists_site_of_line (h : uuidSite? piece = some site) :
    ∃ behind, uuidSite? piece.withoutEnding = some { site with behind } := by
  rw [uuidSite?_of_ending] at h
  obtain ⟨inner, hinner, rfl⟩ := Option.map_eq_some_iff.1 h
  exact ⟨inner.behind, hinner⟩

theorem lines_of_none {ps : List Text} (h : ∀ other ∈ ps, uuidSite? other = none) :
    (ps.map Text.withoutEnding).map (withUuid uuid) = ps.map Text.withoutEnding := by
  refine map_withUuid_of_none fun line hline => ?_
  obtain ⟨other, hother, rfl⟩ := List.mem_map.1 hline
  have hnone := h other hother
  rw [uuidSite?_of_ending] at hnone
  exact Option.map_eq_none_iff.1 hnone

/-- What the lines of a text say of its UUID, before a replacement and behind it: the same, but for the
literal that was replaced. -/
theorem OneSite.headers (h : OneSite text above piece below site) (uuid : Uuid) :
    ∃ front kind back, text.lines.filterMap header? = front ++ (kind, site.value) :: back ∧
      (text.lines.map (Catalog.withUuid uuid)).filterMap header? =
        front ++ (kind, uuid.text) :: back := by
  obtain ⟨behind, hsite⟩ := exists_site_of_line h.site_eq
  have hnew := header?_of_site (uuidSite?_withUuid hsite uuid)
  rw [kindOf_withUuid] at hnew
  have hlines : text.lines =
      above.map Text.withoutEnding ++ piece.withoutEnding :: below.map Text.withoutEnding := by
    rw [Text.lines, h.pieces_eq, List.map_append, List.map_cons]
  refine ⟨(above.map Text.withoutEnding).filterMap header?, kindOf piece.withoutEnding,
    (below.map Text.withoutEnding).filterMap header?, ?_, ?_⟩
  · rw [hlines, List.filterMap_append, List.filterMap_cons, header?_of_site hsite]
  · rw [hlines, List.map_append, List.map_cons, lines_of_none h.above_none,
      lines_of_none h.below_none, List.filterMap_append, List.filterMap_cons, hnew]

/-- A text that takes a new UUID is read as before with that UUID, or refused for the same fault. -/
theorem OneSite.parse_withUuid (h : OneSite text above piece below site)
    (hvalue : Uuid.parse? site.value = some previous) (uuid : Uuid) :
    Record.parse (text.pieces.map (Catalog.withUuid uuid)).flatten =
      (Record.parse text).map ({ · with uuid }) := by
  obtain ⟨front, kind, back, hold, hnew⟩ := h.headers uuid
  have hengine : (text.lines.map (Catalog.withUuid uuid)).filter isEngineLine =
      text.lines.filter isEngineLine := by
    rw [filter_isEngineLine, filter_isEngineLine, engineLines_withUuid]
  simp only [Record.parse, lines_withUuid, hengine, hold, hnew]
  by_cases hone : front = [] ∧ back = []
  · obtain ⟨rfl, rfl⟩ := hone
    have honly : ∀ value : Text, theOnly .missingUuid .duplicateUuid [(kind, value)] =
        .ok (kind, value) := fun _ => rfl
    simp only [List.nil_append, honly, bind, Except.bind, hvalue, uuid.parse?_text]
    cases theOnly .missingEngine .duplicateEngine (text.lines.filter isEngineLine) with
    | error e => rfl
    | ok engineLine =>
      cases hread : Engine.read kind (engineLine.drop engineMark.length) with
      | error e => simp only [hread]; rfl
      | ok found => simp only [hread]; rfl
  · -- with a second UUID line the reader goes no further than to count them
    have hmany : ∀ value, 1 < (front ++ (kind, value) :: back).length := by
      intro value
      have hsome := mt List.append_eq_nil_iff.1 hone
      have := List.length_pos_iff.2 hsome
      simp only [List.length_append, List.length_cons] at this ⊢
      omega
    simp only [theOnly_many (hmany _), List.length_append, List.length_cons]
    rfl

/-! ## Replacing as an update -/

/-- A text that takes a new UUID changes in the one literal that stood there. It is read as before with
the new UUID, or refused for the same fault; and it takes any other UUID in turn, with the result that
the first text would have given. -/
theorem replaceUuid_effect (h : replaceUuid text uuid = .ok (previous, changed)) :
    ∃ before literal behind,
      text = before ++ literal ++ behind ∧ changed = before ++ uuid.text ++ behind ∧
      uuid.text.length = 36 ∧ uuidMark <:+ before ∧ behind.head? = some quote ∧
      Uuid.parse? literal = some previous ∧
      Record.parse changed = (Record.parse text).map ({ · with uuid }) ∧
      (∀ record, Record.parse text = .ok record → record.uuid = previous) ∧
      ∀ other, replaceUuid text other = .ok (previous, before ++ other.text ++ behind) ∧
        replaceUuid changed other = .ok (uuid, before ++ other.text ++ behind) := by
  obtain ⟨rfl, above, piece, below, site, hsite, hvalue⟩ := replaceUuid_eq_ok_iff.1 h
  have htext := hsite.text_eq
  have hchanged : ∀ other, (text.pieces.map (withUuid other)).flatten =
      (above.flatten ++ site.before) ++ other.text ++ (site.behind ++ below.flatten) :=
    fun other => (hsite.withUuid other).text_eq
  obtain ⟨-, hmark, hquote⟩ := eq_of_uuidSite? hsite.site_eq
  refine ⟨above.flatten ++ site.before, site.value, site.behind ++ below.flatten, htext,
    hchanged uuid, uuid.length_text, hmark.trans (List.suffix_append _ _), ?_, hvalue,
    hsite.parse_withUuid hvalue uuid, fun record hr => (replaceUuid_of_parse hr h).2.1, ?_⟩
  · rw [List.head?_append, hquote]
    rfl
  · intro other
    refine ⟨replaceUuid_eq_ok_iff.2 ⟨(hchanged other).symm, _, _, _, _, hsite, hvalue⟩,
      replaceUuid_eq_ok_iff.2 ⟨?_, _, _, _, _, hsite.withUuid uuid, uuid.parse?_text⟩⟩
    rw [← hchanged other, pieces_withUuid, List.map_map]
    congr 2
    funext piece
    exact (withUuid_again uuid other piece).symm

/-- A file with a stray opening of a UUID literal, a second one in a long spelling, both kinds of line
endings and no line feed at its end. -/
def strayOpening : Text :=
  ("-- Händler\nATTACH TABLE old UUID 'lost\r\n" : Text) ++
    "ATTACH DATABASE _ UUID 'urn:uuid:AAAAAAAA-AAAA-AAAA-AAAA-AAAAAAAAAAAA' -- für\r\nENGINE = Atomic"

/-- No reader accepts the file, with its old UUID or a new one, and the new one can be taken back. -/
theorem replaceUuid_effect_strayOpening :
    ∃ changed back, replaceUuid strayOpening (.constant 1) = .ok (.constant 10, changed) ∧
      Record.parse strayOpening = .error (.duplicateUuid 2) ∧
      Record.parse changed = .error (.duplicateUuid 2) ∧
      replaceUuid strayOpening (.constant 10) = .ok (.constant 10, back) ∧
      replaceUuid changed (.constant 10) = .ok (.constant 1, back) := by
  have htwo : (uuidLines strayOpening.lines).length = 2 := by decide +kernel
  have hread : Record.parse strayOpening = .error (.duplicateUuid 2) :=
    htwo ▸ FirstFault.parse_eq (.manyUuids (by omega))
  obtain ⟨changed, hrun⟩ :
      ∃ changed, replaceUuid strayOpening (.constant 1) = .ok (.constant 10, changed) := by
    have hprevious : (replaceUuid strayOpening (.constant 1)).toOption.map Prod.fst =
        some (.constant 10) := by decide +kernel
    cases hrun : replaceUuid strayOpening (.constant 1) with
    | error e => rw [hrun] at hprevious; cases hprevious
    | ok answer =>
      obtain ⟨previous, changed⟩ := answer
      rw [hrun] at hprevious
      obtain rfl : previous = .constant 10 := Option.some.inj hprevious
      exact ⟨changed, rfl⟩
  obtain ⟨before, literal, behind, -, -, -, -, -, -, hparse, -, hother⟩ := replaceUuid_effect hrun
  rw [hread] at hparse
  obtain ⟨hagain, hback⟩ := hother (.constant 10)
  exact ⟨changed, _, hrun, hread, hparse, hagain, hback⟩

end CatalogAdmin.Catalog
