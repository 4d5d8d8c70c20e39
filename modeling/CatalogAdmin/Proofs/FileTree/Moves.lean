import CatalogAdmin.Proofs.FileTree.Changes
import Mathlib.Data.List.Induction

/-!
# What is where after a move

`get?_move` says what a move leaves outside of its target. Here is what comes to stand at the target:
nothing but what was at the source or was at the target already (`move_cases`), and what was at the
source where the target was free (`get?_move_target`).

A target is free with all below it where nothing stands at it, as everything stands in a directory
(`Standing.free`). Changes leave it so.
-/

namespace CatalogAdmin.FileTree

variable {t t' : FileTree} {source target l x : Location} {node : Node}

/-! ## The target of a move -/

theorem lookup_moved_cases (source target x : Location) {entries : List (Location × Node)}
    (h : (entries.map fun e => (afterMove source target e.1, e.2)).lookup x = some node) :
    (∃ rel, x = target ++ rel ∧ entries.lookup (source ++ rel) = some node) ∨
      ¬ source <+: x ∧ entries.lookup x = some node := by
  induction entries with
  | nil => cases h
  | cons e rest ih =>
    obtain ⟨k, first⟩ := e
    rw [List.map_cons] at h
    -- an entry is at the place looked at, or the rest decides
    by_cases hk : source <+: k
    · obtain ⟨rel, rfl⟩ := hk
      rw [afterMove_append, List.lookup_cons] at h
      by_cases hx : x = target ++ rel
      · rw [beq_iff_eq.2 hx] at h
        exact .inl ⟨rel, hx, by rw [List.lookup_cons_self]; exact h⟩
      · rw [beq_eq_false_iff_ne.2 hx] at h
        rcases ih h with ⟨other, hother, hfound⟩ | ⟨hoff, hfound⟩
        · have hne : source ++ other ≠ source ++ rel := by
            intro hsame
            rw [List.append_cancel_left hsame] at hother
            exact hx hother
          refine .inl ⟨other, hother, ?_⟩
          rw [List.lookup_cons, beq_eq_false_iff_ne.2 hne]
          exact hfound
        · have hne : x ≠ source ++ rel := by
            rintro rfl
            exact hoff (List.prefix_append _ _)
          refine .inr ⟨hoff, ?_⟩
          rw [List.lookup_cons, beq_eq_false_iff_ne.2 hne]
          exact hfound
    · rw [afterMove_of_outside hk, List.lookup_cons] at h
      by_cases hx : x = k
      · rw [beq_iff_eq.2 hx] at h
        subst hx
        exact .inr ⟨hk, by rw [List.lookup_cons_self]; exact h⟩
      · rw [beq_eq_false_iff_ne.2 hx] at h
        rcases ih h with ⟨rel, hrel, hfound⟩ | ⟨hoff, hfound⟩
        · have hne : source ++ rel ≠ k := by
            rintro rfl
            exact hk (List.prefix_append _ _)
          refine .inl ⟨rel, hrel, ?_⟩
          rw [List.lookup_cons, beq_eq_false_iff_ne.2 hne]
          exact hfound
        · refine .inr ⟨hoff, ?_⟩
          rw [List.lookup_cons, beq_eq_false_iff_ne.2 hx]
          exact hfound

/-- What stands somewhere after a move stood there before or was moved there. -/
theorem move_cases (hs : source ≠ []) (h : (t.move source target).get? x = some node) :
    (∃ rel, x = target ++ rel ∧ t.get? (source ++ rel) = some node) ∨ t.get? x = some node := by
  unfold get? move at h
  unfold get?
  by_cases hx : x = []
  · rw [if_pos hx] at h ⊢
    exact .inr h
  · rw [if_neg hx] at h ⊢
    rcases lookup_moved_cases source target x h with ⟨rel, hrel, hfound⟩ | ⟨-, hfound⟩
    · exact .inl ⟨rel, hrel, by rw [if_neg (by simp [hs])]; exact hfound⟩
    · exact .inr hfound

theorem lookup_moved_target (source target rel : Location) {entries : List (Location × Node)}
    (hfree : entries.lookup (target ++ rel) = none) :
    (entries.map fun e => (afterMove source target e.1, e.2)).lookup (target ++ rel) =
      entries.lookup (source ++ rel) := by
  induction entries with
  | nil => rfl
  | cons e rest ih =>
    obtain ⟨k, first⟩ := e
    have hne : target ++ rel ≠ k := by
      rintro rfl
      rw [List.lookup_cons_self] at hfree
      cases hfree
    rw [List.lookup_cons, beq_eq_false_iff_ne.2 hne] at hfree
    rw [List.map_cons, List.lookup_cons, List.lookup_cons]
    by_cases hs : source <+: k
    · obtain ⟨other, rfl⟩ := hs
      have hsame : (target ++ rel == target ++ other) = (source ++ rel == source ++ other) := by
        rw [Bool.eq_iff_iff, beq_iff_eq, beq_iff_eq, List.append_cancel_left_eq,
          List.append_cancel_left_eq]
      rw [afterMove_append, hsame, ih hfree]
    · have hne' : source ++ rel ≠ k := by
        rintro rfl
        exact hs (List.prefix_append _ _)
      rw [afterMove_of_outside hs, beq_eq_false_iff_ne.2 hne, beq_eq_false_iff_ne.2 hne',
        ih hfree]

/-- What was at the source is at the target after a move, where that was free. -/
theorem get?_move_target (hs : source ≠ []) (ht : target ≠ []) (rel : Location)
    (hfree : t.get? (target ++ rel) = none) :
    (t.move source target).get? (target ++ rel) = t.get? (source ++ rel) := by
  unfold get? at hfree
  rw [if_neg (by simp [ht])] at hfree
  unfold get? move
  rw [if_neg (by simp [ht]), if_neg (by simp [hs])]
  exact lookup_moved_target source target rel hfree

theorem get?_move_self (hs : source ≠ []) (ht : target ≠ []) (hfree : t.get? target = none) :
    (t.move source target).get? target = t.get? source := by
  have hmove := get?_move_target hs ht [] (by rwa [List.append_nil])
  rwa [List.append_nil, List.append_nil] at hmove

/-- What was at the one place is at the other after a move that goes well. -/
theorem Renamed.get?_target {a b : Location} (h : Renamed t a b t') : t'.get? b = t.get? a := by
  cases h with
  | same hab => rw [hab]
  | free hab hfree =>
    refine get?_move_self ?_ ?_ hfree
    · rintro rfl
      exact hab List.nil_prefix
    · rintro rfl
      rw [get?_nil] at hfree
      cases hfree
  | replaced _ hab hba =>
    have hb : b ≠ [] := by
      rintro rfl
      exact hba List.nil_prefix
    -- what was at the other place gave way first
    have hfree : (t.erase b).get? b = none := by
      rw [get?_erase t b b hb, if_pos (List.prefix_refl b)]
    rw [get?_move_self ?_ hb hfree, get?_erase t b a hb, if_neg hba]
    rintro rfl
    exact hab List.nil_prefix

theorem mem_of_get? (hx : x ≠ []) (h : t.get? x = some node) : ∃ e ∈ t.entries, e.1 = x := by
  rw [get?, if_neg hx] at h
  obtain ⟨_, _, hentries, -⟩ := List.lookup_eq_some_iff.1 h
  exact ⟨(x, node), by rw [hentries]; simp, rfl⟩

/-! ## Standing trees -/

/-- Everything stands in a directory. -/
def Standing (t : FileTree) : Prop := ∀ e ∈ t.entries, t.get? e.1.dropLast = some .directory

instance (t : FileTree) : Decidable t.Standing :=
  inferInstanceAs (Decidable (∀ e ∈ t.entries, t.get? e.1.dropLast = some .directory))

theorem not_prefix_dropLast (hl : l ≠ []) : ¬ l <+: l.dropLast := by
  intro hp
  have hlen := hp.length_le
  rw [List.length_dropLast] at hlen
  have hpos := List.length_pos_iff.2 hl
  omega

/-- A link made anew changes nothing that it does not hold. -/
theorem get?_relink (t : FileTree) (target : Path) (hl : l ≠ []) (hoff : ¬ l <+: x) :
    ((t.erase l).put l (.link target)).get? x = t.get? x := by
  rw [get?_put _ _ _ _ hl, if_neg, get?_erase t l x hl, if_neg hoff]
  rintro rfl
  exact hoff (List.prefix_refl x)

/-- A node put elsewhere leaves a directory what it is. -/
theorem get?_put_of_directory (hl : l ≠ []) (hg : t.get? l ≠ some .directory) (node : Node)
    (hx : t.get? x = some .directory) : (t.put l node).get? x = some .directory := by
  rw [get?_put t l x node hl, if_neg]
  · exact hx
  · rintro rfl
    exact hg hx

/-- Directories are directories still when a file gives way to another. -/
theorem Grounded.put_place {p : Path} {f : File} {place dir : Location} (hd : t.Grounded dir)
    (hf : t.stat true p = .ok (.file f)) (hplace : t.locate false p = .ok place) (node : Node) :
    (t.put place node).Grounded dir := fun x hx =>
  get?_put_of_directory (place_ne_nil hf hplace) (get?_place hf hplace).2 node (hd x hx)

namespace Standing

/-- Whatever stands anywhere stands in a directory. -/
theorem above (h : t.Standing) (hx : x ≠ []) (hg : t.get? x = some node) :
    t.get? x.dropLast = some .directory := by
  obtain ⟨e, he, rfl⟩ := mem_of_get? hx hg
  exact h e he

/-- All above a directory are directories. -/
theorem grounded (h : t.Standing) (hg : t.get? x = some .directory) : t.Grounded x := by
  induction x using List.reverseRecOn with
  | nil => exact grounded_nil t
  | append_singleton front part ih =>
    have habove := h.above (by simp) hg
    rw [List.dropLast_concat] at habove
    exact (ih habove).snoc hg

/-- Only in directories something stands. -/
theorem directory_of_below (h : t.Standing) (hp : l <+: x) (hne : l ≠ x)
    (hg : t.get? x = some node) : t.get? l = some .directory := by
  rcases List.eq_nil_or_concat x with rfl | ⟨front, last, hx⟩
  · exact absurd (List.prefix_nil.1 hp) hne
  · rw [List.concat_eq_append] at hx
    subst hx
    have habove := h.above (by simp) hg
    rw [List.dropLast_concat] at habove
    exact h.grounded habove l ((List.prefix_concat_iff.1 hp).resolve_left hne)

/-- Where nothing stands, nothing stands below. -/
theorem get?_below (h : t.Standing) (hg : t.get? l = none) (hp : l <+: x) : t.get? x = none := by
  by_cases hsame : l = x
  · exact hsame ▸ hg
  · cases hfound : t.get? x with
    | none => rfl
    | some node =>
      rw [h.directory_of_below hp hsame hfound] at hg
      cases hg

theorem free (h : t.Standing) (hl : l ≠ []) (hg : t.get? l = none) :
    ∀ e ∈ t.entries, ¬ l <+: e.1 := by
  intro e he hp
  have hnone := h.get?_below hg hp
  have hne : e.1 ≠ [] := fun hnil => hl (List.prefix_nil.1 (hnil ▸ hp))
  rw [get?, if_neg hne, List.lookup_eq_none_iff] at hnone
  simpa using hnone e he

/-- A node put in a directory, not in the place of a directory, leaves a tree standing. -/
theorem put (h : t.Standing) (hl : l ≠ []) (habove : t.get? l.dropLast = some .directory)
    (hg : t.get? l ≠ some .directory) (node : Node) : (t.put l node).Standing := by
  intro e he
  refine get?_put_of_directory hl hg node ?_
  rcases List.mem_cons.1 he with rfl | he
  · exact habove
  · exact h e (List.mem_filter.1 he).1

/-- What is erased is erased with all it holds. -/
theorem erase (h : t.Standing) (l : Location) (hl : l ≠ []) : (t.erase l).Standing := by
  intro e he
  obtain ⟨he, hoff⟩ := List.mem_filter.1 he
  rw [get?_erase t l _ hl, if_neg, h e he]
  intro hp
  have hbelow := hp.trans (List.dropLast_prefix e.1)
  simp [List.isPrefixOf_iff_prefix.2 hbelow] at hoff

/-- A link is made anew where it stood. -/
theorem relink {target : Path} (h : t.Standing) (hl : l ≠ []) (hg : t.get? l = some (.link target))
    (target' : Path) : ((t.erase l).put l (.link target')).Standing := by
  refine (h.erase l hl).put hl ?_ ?_ _
  · rw [get?_erase t l _ hl, if_neg (not_prefix_dropLast hl)]
    exact h.above hl hg
  · rw [get?_erase t l _ hl, if_pos (List.prefix_refl l)]
    simp

/-- What is moved into a directory, where nothing was, is moved with all it holds. -/
theorem move (h : t.Standing) (hsource : source ≠ []) (htarget : target ≠ [])
    (hfree : t.get? target = none) (habove : t.get? target.dropLast = some .directory)
    (hoff : ¬ source <+: target) : (t.move source target).Standing := by
  have hnothing := h.free htarget hfree
  have hkept : ∀ {y}, ¬ source <+: y → ¬ target <+: y → t.get? y = some .directory →
      (t.move source target).get? y = some .directory := fun hs ht hy => by
    rw [get?_move t hsource ht, if_neg hs, hy]
  intro moved hmoved
  obtain ⟨e, he, rfl⟩ := List.mem_map.1 hmoved
  by_cases hp : source <+: e.1
  · obtain ⟨rel, hrel⟩ := hp
    rw [← hrel, afterMove_append]
    rcases List.eq_nil_or_concat rel with rfl | ⟨front, last, rfl⟩
    · rw [List.append_nil]
      exact hkept (fun hs => hoff (hs.trans (List.dropLast_prefix target)))
        (not_prefix_dropLast htarget) habove
    · have hdir := h e he
      rw [← hrel, List.concat_eq_append, ← List.append_assoc, List.dropLast_concat] at hdir
      rw [List.concat_eq_append, ← List.append_assoc, List.dropLast_concat,
        get?_move_target hsource htarget _ (h.get?_below hfree (List.prefix_append _ _)), hdir]
  · rw [afterMove_of_outside hp]
    exact hkept (fun hs => hp (hs.trans (List.dropLast_prefix e.1)))
      (fun ht => hnothing e he (ht.trans (List.dropLast_prefix e.1))) (h e he)

end Standing

/-! ## Well-formed trees -/

/-- Everything stands in a directory, and relative paths start from one. -/
def WellFormed (t : FileTree) : Prop :=
  (∀ e ∈ t.entries, t.get? e.1.dropLast = some .directory) ∧ t.get? t.here = some .directory

instance (t : FileTree) : Decidable t.WellFormed := inferInstanceAs (Decidable (_ ∧ _))

namespace WellFormed

theorem standing (h : t.WellFormed) : t.Standing := h.1

theorem above (h : t.WellFormed) (hx : x ≠ []) (hg : t.get? x = some node) :
    t.get? x.dropLast = some .directory := h.standing.above hx hg

theorem grounded_origin (h : t.WellFormed) (p : Path) : t.Grounded (t.origin p) := by
  unfold origin
  split
  · exact grounded_nil t
  · exact h.standing.grounded h.2

/-- A node put in a directory, not in the place of a directory, leaves the tree well-formed. -/
theorem put (h : t.WellFormed) (hl : l ≠ []) (habove : t.get? l.dropLast = some .directory)
    (hg : t.get? l ≠ some .directory) (node : Node) : (t.put l node).WellFormed :=
  ⟨h.standing.put hl habove hg node, get?_put_of_directory hl hg node h.2⟩

end WellFormed

end CatalogAdmin.FileTree
