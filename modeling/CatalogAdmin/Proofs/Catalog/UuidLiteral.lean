import CatalogAdmin.Catalog.Replacement
import CatalogAdmin.Proofs.Text.Cut

/-!
# Replacing the UUID literal

Results:
1. `replaceUuid_eq_ok_iff`: a text takes a new UUID if one piece holds a literal, and that is a UUID.
2. `replaceUuid_ok`: replacing the UUID of a text changes the literal between its quotes and nothing
   else.
3. `uuidSite?_of_ending`: a piece holds the UUID that its line holds.
-/

namespace CatalogAdmin.Catalog

theorem eq_of_cutAtUuid {line before behind : Text} (h : cutAtUuid line = some (before, behind)) :
    line = before ++ behind ∧ uuidMark <:+ before := by
  unfold cutAtUuid at h
  split at h
  · obtain ⟨⟨b, r⟩, hcut, he⟩ := Option.map_eq_some_iff.1 h
    cases he
    exact ⟨Text.eq_of_cut hcut, List.suffix_append _ _⟩
  · cases h

theorem exists_of_uuidSite? {piece : Text} {site : UuidSite} (h : uuidSite? piece = some site) :
    ∃ rest, cutAtUuid piece = some (site.before, rest) ∧ rest.dropWhile (· ≠ quote) ≠ [] ∧
      site.value = rest.takeWhile (· ≠ quote) ∧ site.behind = rest.dropWhile (· ≠ quote) := by
  unfold uuidSite? at h
  obtain ⟨⟨before, rest⟩, hcut, hsite⟩ := Option.bind_eq_some_iff.1 h
  by_cases hopen : (rest.dropWhile (· ≠ quote)).isEmpty = true
  · simp only [if_pos hopen] at hsite
    cases hsite
  · simp only [if_neg hopen] at hsite
    cases hsite
    exact ⟨rest, hcut, by simpa using hopen, rfl, rfl⟩

/-- A piece with a UUID literal is made of what stands before it, the literal and the rest. -/
theorem eq_of_uuidSite? {piece : Text} {site : UuidSite} (h : uuidSite? piece = some site) :
    piece = site.before ++ site.value ++ site.behind ∧ uuidMark <:+ site.before ∧
      site.behind.head? = some quote := by
  obtain ⟨rest, hcut, hclosed, hvalue, hbehind⟩ := exists_of_uuidSite? h
  obtain ⟨hline, hmark⟩ := eq_of_cutAtUuid hcut
  refine ⟨?_, hmark, ?_⟩
  · rw [hline, hvalue, hbehind, List.append_assoc, List.takeWhile_append_dropWhile]
  · obtain ⟨c, more, hc⟩ := List.exists_cons_of_ne_nil hclosed
    have := List.head?_dropWhile_not (· ≠ quote) rest
    rw [hc] at this
    rw [hbehind, hc]
    simpa using this

theorem theOnly_ok {α : Type} {missing : ParseError} {duplicate : Nat → ParseError} {found : List α}
    {x : α} (h : theOnly missing duplicate found = .ok x) : found = [x] := by
  cases found with
  | nil => cases h
  | cons y more =>
    cases more with
    | nil => cases h; rfl
    | cons => cases h

theorem map_withUuid_of_none {uuid : Uuid} {pieces : List Text}
    (h : ∀ piece ∈ pieces, uuidSite? piece = none) : pieces.map (withUuid uuid) = pieces := by
  have hsame : ∀ piece ∈ pieces, withUuid uuid piece = id piece := by
    intro piece hp
    rw [withUuid, h piece hp]
    rfl
  rw [List.map_congr_left hsame, List.map_id]

/-! ## The one literal of a text -/

section OneSite

variable {text changed piece : Text} {above below : List Text} {site : UuidSite} {uuid previous : Uuid}

/-- A text whose one closed UUID literal stands in `piece`. -/
structure OneSite (text : Text) (above : List Text) (piece : Text) (below : List Text)
    (site : UuidSite) : Prop where
  pieces_eq : text.pieces = above ++ piece :: below
  site_eq : uuidSite? piece = some site
  above_none : ∀ other ∈ above, uuidSite? other = none
  below_none : ∀ other ∈ below, uuidSite? other = none

namespace OneSite

theorem filterMap_eq (h : OneSite text above piece below site) :
    text.pieces.filterMap uuidSite? = [site] := by
  rw [h.pieces_eq, List.filterMap_append, List.filterMap_cons, h.site_eq,
    List.filterMap_eq_nil_iff.2 h.above_none, List.filterMap_eq_nil_iff.2 h.below_none]
  rfl

theorem map_withUuid (h : OneSite text above piece below site) (uuid : Uuid) :
    text.pieces.map (Catalog.withUuid uuid) = above ++ Catalog.withUuid uuid piece :: below := by
  rw [h.pieces_eq, List.map_append, List.map_cons, map_withUuid_of_none h.above_none,
    map_withUuid_of_none h.below_none]

theorem text_eq (h : OneSite text above piece below site) :
    text = (above.flatten ++ site.before) ++ site.value ++ (site.behind ++ below.flatten) := by
  have hflat := Text.flatten_pieces text
  rw [h.pieces_eq, (eq_of_uuidSite? h.site_eq).1] at hflat
  rw [← hflat]
  simp

end OneSite

/-- A text takes a new UUID if one piece holds a literal, and that is a UUID. -/
theorem replaceUuid_eq_ok_iff :
    replaceUuid text uuid = .ok (previous, changed) ↔
      changed = (text.pieces.map (withUuid uuid)).flatten ∧
        ∃ above piece below site, OneSite text above piece below site ∧
          Uuid.parse? site.value = some previous := by
  constructor
  · intro h
    cases hsites : theOnly .missingUuid .duplicateUuid (text.pieces.filterMap uuidSite?) with
    | error e => simp only [replaceUuid, hsites, bind, Except.bind] at h; cases h
    | ok site =>
    simp only [replaceUuid, hsites, bind, Except.bind] at h
    cases hvalue : Uuid.parse? site.value with
    | none => simp only [hvalue] at h; cases h
    | some found =>
    simp only [hvalue] at h
    cases h
    obtain ⟨above, piece, below, hpieces, habove, hpiece, hbelow⟩ :=
      List.filterMap_eq_cons_iff.1 (theOnly_ok hsites)
    exact ⟨rfl, above, piece, below, site,
      ⟨hpieces, hpiece, habove, List.filterMap_eq_nil_iff.1 hbelow⟩, hvalue⟩
  · rintro ⟨rfl, above, piece, below, site, hsite, hvalue⟩
    simp only [replaceUuid, hsite.filterMap_eq, theOnly, bind, Except.bind, hvalue]
    rfl

/-- Replacing the UUID of a text changes the literal between its quotes and nothing else. -/
theorem replaceUuid_ok (h : replaceUuid text uuid = .ok (previous, changed)) :
    ∃ piece site above below, piece ∈ text.pieces ∧ uuidSite? piece = some site ∧
      Uuid.parse? site.value = some previous ∧
      text = (above ++ site.before) ++ site.value ++ (site.behind ++ below) ∧
      changed = (above ++ site.before) ++ uuid.text ++ (site.behind ++ below) := by
  obtain ⟨rfl, above, piece, below, site, hsite, hvalue⟩ := replaceUuid_eq_ok_iff.1 h
  refine ⟨piece, site, above.flatten, below.flatten, by rw [hsite.pieces_eq]; simp, hsite.site_eq,
    hvalue, hsite.text_eq, ?_⟩
  rw [hsite.map_withUuid, withUuid, hsite.site_eq]
  simp

end OneSite

/-! ## Lines and their endings -/

section Quote

variable {value behind : Text}

theorem plain_of_not_mem (h : quote ∉ value) : ∀ c ∈ value, decide (c ≠ quote) = true := by
  intro c hc
  exact decide_eq_true (ne_of_mem_of_not_mem hc h)

theorem takeWhile_quote (h : quote ∉ value) :
    (value ++ quote :: behind).takeWhile (· ≠ quote) = value := by
  rw [List.takeWhile_append_of_pos (plain_of_not_mem h)]
  simp

theorem dropWhile_quote (h : quote ∉ value) :
    (value ++ quote :: behind).dropWhile (· ≠ quote) = quote :: behind := by
  rw [List.dropWhile_append_of_pos (plain_of_not_mem h)]
  simp

theorem dropWhile_of_not_mem (h : quote ∉ value) : value.dropWhile (· ≠ quote) = [] := by
  rw [← List.append_nil value, List.dropWhile_append_of_pos (plain_of_not_mem h)]
  rfl

end Quote

section Ending

variable {line e : Text}

theorem cutAtUuid_append (he : ∀ c ∈ e, c = '\r' ∨ c = '\n') :
    cutAtUuid (line ++ e) =
      (cutAtUuid line).map fun (before, behind) => (before, behind ++ e) := by
  have outside : ∀ mark : Text, '\r' ∉ mark → '\n' ∉ mark → ∀ c ∈ e, c ∉ mark := by
    intro mark hr hn c hc
    rcases he c hc with rfl | rfl
    · exact hr
    · exact hn
  have hattach : (line ++ e).startsWith attachMark = line.startsWith attachMark :=
    Text.startsWith_append (outside _ (by decide) (by decide))
  have hcut : (line ++ e).cut uuidMark =
      (line.cut uuidMark).map fun (before, behind) => (before, behind ++ e) :=
    Text.cut_append (by decide) (outside _ (by decide) (by decide))
  rw [cutAtUuid, cutAtUuid, hattach, hcut]
  split
  · rw [Option.map_map, Option.map_map]
    rfl
  · rfl

/-- A line ending behind a line goes to what stands behind the literal. -/
theorem uuidSite?_append (he : ∀ c ∈ e, c = '\r' ∨ c = '\n') :
    uuidSite? (line ++ e) =
      (uuidSite? line).map fun site => { site with behind := site.behind ++ e } := by
  unfold uuidSite?
  rw [cutAtUuid_append he]
  cases cutAtUuid line with
  | none => rfl
  | some found =>
    obtain ⟨before, rest⟩ := found
    simp only [Option.map_some, Option.bind_eq_bind, Option.bind_some]
    by_cases hquote : quote ∈ rest
    · obtain ⟨value, behind, rfl, hvalue⟩ := List.eq_append_cons_of_mem hquote
      simp only [List.append_assoc, List.cons_append, takeWhile_quote hvalue, dropWhile_quote hvalue]
      rfl
    · -- a line without a quote has none behind its ending either
      have hboth : quote ∉ rest ++ e := by
        rw [List.mem_append, not_or]
        refine ⟨hquote, fun hc => ?_⟩
        rcases he quote hc with h | h <;> exact absurd h (by decide)
      simp only [dropWhile_of_not_mem hquote, dropWhile_of_not_mem hboth]
      rfl

theorem uuidSite?_of_ending (piece : Text) :
    uuidSite? piece = (uuidSite? piece.withoutEnding).map fun site =>
      { site with behind := site.behind ++ piece.ending } := by
  rw [← uuidSite?_append fun _ => Text.ending_chars, Text.withoutEnding_append]

end Ending

end CatalogAdmin.Catalog
