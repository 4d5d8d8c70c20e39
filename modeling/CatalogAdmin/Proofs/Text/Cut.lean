import CatalogAdmin.Proofs.Text.Pieces

/-!
# Cutting a text at a mark

A text is cut at the first place where a mark stands (`cut_eq_some_iff`). Nothing is lost
(`eq_of_cut`), a cut is found wherever the mark stands (`contains_iff`), and more text behind the cut
does not move it (`cut_append`). Where a text is cut by what its characters are, the first part is the
longest there is (`takeWhile_dropWhile_iff`), and where its end is dropped, the last (`exists_dropEnd`).
-/

namespace CatalogAdmin.Text

theorem eq_of_cut {t mark before behind : Text} (h : t.cut mark = some (before, behind)) :
    t = before ++ mark ++ behind := by
  induction t generalizing before with
  | nil =>
    unfold cut at h
    split at h
    · next hm => cases h; simpa using hm
    · cases h
  | cons c rest ih =>
    unfold cut at h
    split at h
    · next hm =>
      cases h
      obtain ⟨more, hmore⟩ := startsWith_iff.1 hm
      rw [← hmore, List.drop_left, List.nil_append]
    · obtain ⟨⟨b, r⟩, hcut, he⟩ := Option.map_eq_some_iff.1 h
      cases he
      rw [List.cons_append, List.cons_append, ← ih hcut]

theorem isSome_cut_of_infix {t mark : Text} (h : mark <:+: t) : (t.cut mark).isSome = true := by
  induction t with
  | nil =>
    obtain rfl := List.infix_nil.1 h
    rfl
  | cons c rest ih =>
    unfold cut
    split
    · rfl
    · next hm =>
      rcases List.infix_cons_iff.1 h with hp | hi
      · exact absurd (startsWith_iff.2 hp) hm
      · rw [Option.isSome_map]
        exact ih hi

/-- A text contains a mark if the mark stands somewhere in it. -/
theorem contains_iff {t mark : Text} : t.contains mark = true ↔ mark <:+: t := by
  constructor
  · intro h
    obtain ⟨⟨before, behind⟩, hcut⟩ := Option.isSome_iff_exists.1 h
    exact ⟨before, behind, (eq_of_cut hcut).symm⟩
  · exact isSome_cut_of_infix

/-- A cut is made at the first place where the mark stands. -/
theorem length_le_of_cut {t mark before behind : Text} (h : t.cut mark = some (before, behind))
    {earlier later : Text} (ht : t = earlier ++ mark ++ later) : before.length ≤ earlier.length := by
  induction t generalizing before earlier with
  | nil =>
    unfold cut at h
    split at h
    · cases h; exact Nat.zero_le _
    · cases h
  | cons c rest ih =>
    unfold cut at h
    split at h
    · cases h; exact Nat.zero_le _
    · next hs =>
      obtain ⟨⟨b, r⟩, hcut, he⟩ := Option.map_eq_some_iff.1 h
      cases he
      cases earlier with
      | nil => exact absurd (startsWith_iff.2 ⟨later, ht.symm⟩) hs
      | cons d earlier =>
        have hrest : rest = earlier ++ mark ++ later := (List.cons.inj ht).2
        exact Nat.succ_le_succ (ih hcut hrest)

/-- Where a text is cut: around the first place where the mark stands. -/
theorem cut_eq_some_iff {t mark before behind : Text} :
    t.cut mark = some (before, behind) ↔ t = before ++ mark ++ behind ∧
      ∀ earlier later, t = earlier ++ mark ++ later → before.length ≤ earlier.length := by
  constructor
  · exact fun h => ⟨eq_of_cut h, fun _ _ => length_le_of_cut h⟩
  · rintro ⟨ht, hfirst⟩
    have hfound := isSome_cut_of_infix ⟨before, behind, ht.symm⟩
    obtain ⟨⟨b, r⟩, hcut⟩ := Option.isSome_iff_exists.1 hfound
    -- neither place comes before the other
    have hlen : b.length = before.length :=
      Nat.le_antisymm (length_le_of_cut hcut ht) (hfirst b r (eq_of_cut hcut))
    have hsame : b ++ (mark ++ r) = before ++ (mark ++ behind) := by
      rw [← List.append_assoc, ← List.append_assoc, ← ht, eq_of_cut hcut]
    obtain ⟨rfl, htail⟩ := List.append_inj hsame hlen
    rw [hcut, List.append_cancel_left htail]

/-- A text is cut at a character where that character stands first. -/
theorem cut_singleton_eq_some_iff {t before behind : Text} {c : Char} :
    t.cut [c] = some (before, behind) ↔ t = before ++ c :: behind ∧ c ∉ before := by
  rw [cut_eq_some_iff, List.append_assoc, List.singleton_append]
  refine and_congr_right fun ht => ⟨fun hfirst hc => ?_, fun hc earlier later he => ?_⟩
  · obtain ⟨earlier, more, rfl⟩ := List.append_of_mem hc
    have := hfirst earlier (more ++ c :: behind) (by rw [ht]; simp)
    simp only [List.length_append, List.length_cons] at this
    omega
  · -- if it stood earlier, it would be part of what is before
    refine Nat.le_of_not_lt fun hlt => hc ?_
    have hp : earlier ++ [c] <+: before :=
      List.prefix_of_prefix_length_le ⟨later, he.symm⟩ ⟨c :: behind, ht.symm⟩ (by simp; omega)
    exact hp.subset (by simp)

/-- Where a character stands first is one place. -/
theorem eq_of_first {c : Char} {a b s t : Text} (ha : c ∉ a) (hb : c ∉ b)
    (h : a ++ c :: s = b ++ c :: t) : a = b ∧ s = t := by
  have hcut : (a ++ c :: s).cut [c] = some (a, s) := cut_singleton_eq_some_iff.2 ⟨rfl, ha⟩
  have hcut' : (b ++ c :: t).cut [c] = some (b, t) := cut_singleton_eq_some_iff.2 ⟨rfl, hb⟩
  rw [h, hcut'] at hcut
  cases hcut
  exact ⟨rfl, rfl⟩

theorem cut_eq_none_iff {t mark : Text} : t.cut mark = none ↔ ¬ mark <:+: t := by
  rw [← contains_iff, contains, Bool.not_eq_true, Option.isSome_eq_false_iff, Option.isNone_iff_eq_none]

theorem cut_singleton_eq_none_iff {t : Text} {c : Char} : t.cut [c] = none ↔ c ∉ t := by
  rw [cut_eq_none_iff]
  refine not_congr ⟨fun h => h.subset (List.mem_singleton_self c), fun h => ?_⟩
  obtain ⟨before, behind, rfl⟩ := List.append_of_mem h
  exact ⟨before, behind, by simp⟩

/-- Whether a mark stands first at a place does not depend on what follows it there. -/
theorem first_of_first {mark before behind other : Text}
    (h : ∀ earlier later, before ++ mark ++ behind = earlier ++ mark ++ later →
      before.length ≤ earlier.length)
    {earlier later : Text} (he : before ++ mark ++ other = earlier ++ mark ++ later) :
    before.length ≤ earlier.length := by
  refine Nat.le_of_not_lt fun hlt => ?_
  -- standing earlier, the mark would stand earlier in any such text
  obtain ⟨rest, hrest⟩ : earlier ++ mark <+: before ++ mark := by
    refine List.prefix_of_prefix_length_le ⟨later, he.symm⟩ ⟨other, rfl⟩ ?_
    simp only [List.length_append]
    omega
  have hle := h earlier (rest ++ behind) (by rw [← hrest, List.append_assoc _ rest])
  omega

/-- What a text begins with ends before the mark in it does, unless it holds the mark. -/
theorem prefix_of_not_infix {mark front before behind : Text} (h : ¬ mark <:+: front)
    (hp : front <+: before ++ mark ++ behind) : front <+: before ++ mark := by
  rcases List.prefix_or_prefix_of_prefix hp (List.prefix_append _ _) with hfront | hwhole
  · exact hfront
  · obtain ⟨rest, rfl⟩ := hwhole
    exact absurd ⟨before, rest, rfl⟩ h

/-- More text behind does not move a cut, if no character of it is in the mark. -/
theorem cut_append {t e mark : Text} (hne : mark ≠ []) (h : ∀ c ∈ e, c ∉ mark) :
    (t ++ e).cut mark = (t.cut mark).map fun (before, behind) => (before, behind ++ e) := by
  induction t with
  | nil =>
    -- a cut of `e` would find the mark's first character in it
    have hnone : cut e mark = none := by
      cases hc : cut e mark with
      | none => rfl
      | some found =>
        obtain ⟨before, behind⟩ := found
        obtain ⟨c, more, rfl⟩ := List.exists_cons_of_ne_nil hne
        have hmem : c ∈ e := by
          rw [eq_of_cut hc]
          simp
        exact absurd (List.mem_cons_self ..) (h c hmem)
    rw [List.nil_append, hnone, cut, if_neg (by simpa using hne)]
    rfl
  | cons c rest ih =>
    have hstarts := startsWith_append (t := c :: rest) h
    rw [List.cons_append] at hstarts ⊢
    rw [cut, cut, hstarts]
    split
    · next hs =>
      have hlen := (startsWith_iff.1 hs).length_le
      rw [← List.cons_append, List.drop_append_of_le_length hlen]
      rfl
    · rw [ih, Option.map_map, Option.map_map]
      rfl

/-- A text is cut behind the longest start whose characters have a property. -/
theorem takeWhile_dropWhile_iff {t start rest : Text} {p : Char → Bool} :
    t.takeWhile p = start ∧ t.dropWhile p = rest ↔
      t = start ++ rest ∧ (∀ c ∈ start, p c = true) ∧ ∀ c ∈ rest.head?, p c = false := by
  constructor
  · rintro ⟨rfl, rfl⟩
    refine ⟨List.takeWhile_append_dropWhile.symm, fun c hc => List.all_eq_true.1 List.all_takeWhile c hc, fun c hc => ?_⟩
    have := List.head?_dropWhile_not p t
    rw [Option.mem_def.1 hc] at this
    simpa using this
  · rintro ⟨rfl, hstart, hrest⟩
    rw [List.takeWhile_append_of_pos hstart, List.dropWhile_append_of_pos hstart]
    cases rest with
    | nil => simp
    | cons c more =>
      have hc : ¬ p c = true := by simp [hrest c rfl]
      rw [List.takeWhile_cons_of_neg hc, List.dropWhile_cons_of_neg hc]
      simp

/-- What is dropped from the end of a text, and that what stays does not end in more of it. -/
theorem exists_dropEnd (p : Char → Bool) (t : Text) :
    ∃ e, t = dropEnd p t ++ e ∧ (∀ c ∈ e, p c = true) ∧
      ∀ c ∈ (dropEnd p t).getLast?, p c = false := by
  have hback : t.reverse.takeWhile p ++ t.reverse.dropWhile p = t.reverse :=
    List.takeWhile_append_dropWhile
  refine ⟨(t.reverse.takeWhile p).reverse, ?_, fun c hc => ?_, fun c hc => ?_⟩
  · rw [dropEnd, ← List.reverse_append, hback, List.reverse_reverse]
  · exact List.all_eq_true.1 List.all_takeWhile c (List.mem_reverse.1 hc)
  · rw [dropEnd, List.getLast?_reverse] at hc
    have := List.head?_dropWhile_not p t.reverse
    rw [Option.mem_def.1 hc] at this
    simpa using this

theorem dropEnd_append {p : Char → Bool} {t e : Text} (h : ∀ c ∈ e, p c = true) :
    dropEnd p (t ++ e) = dropEnd p t := by
  rw [dropEnd, List.reverse_append, List.dropWhile_append_of_pos fun c hc => h c (List.mem_reverse.1 hc)]
  rfl

theorem dropEnd_eq_self {p : Char → Bool} {t : Text} (h : ∀ c ∈ t.getLast?, p c = false) :
    dropEnd p t = t := by
  cases ht : t.reverse with
  | nil => rw [List.reverse_eq_nil_iff.1 ht]; rfl
  | cons c front =>
    have hc : p c = false := h c (by rw [← List.head?_reverse, ht]; rfl)
    rw [dropEnd, ht, List.dropWhile_cons_of_neg (by simp [hc]), ← ht, List.reverse_reverse]

end CatalogAdmin.Text
