import CatalogAdmin.Proofs.FileTree.Locating
import CatalogAdmin.Proofs.Session.Runs

/-!
# What operations do to a file tree

One statement for each operation: where it goes well, what it found and the tree it leaves; where it
fails, the tree is as it was. Removing a directory and making directories are the operations that may
fail half-way, and have statements of their own.

The view of a tree after a move is `get?_move`. Where something is removed, `Pruned` says what is left:
everything that is not inside what the path names. A tree that lost something has no new routes, so
what is outside of some other path stays outside of it (`Pruned.outside_of`).
-/

namespace CatalogAdmin.FileTree

variable {t t' : FileTree} {p : Path} {l x : Location}

/-! ## Views -/

theorem afterMove_of_inside {source target l : Location} (h : source <+: l) :
    afterMove source target l = target ++ l.drop source.length :=
  if_pos (List.isPrefixOf_iff_prefix.2 h)

theorem afterMove_append (source target rel : Location) :
    afterMove source target (source ++ rel) = target ++ rel := by
  rw [afterMove_of_inside (List.prefix_append _ _), List.drop_left]

theorem afterMove_of_outside {source target l : Location} (h : ¬ source <+: l) :
    afterMove source target l = l :=
  if_neg (mt List.isPrefixOf_iff_prefix.1 h)

theorem lookup_move (source target x : Location) (entries : List (Location × Node))
    (hx : ¬ target <+: x) :
    (entries.map fun e => (afterMove source target e.1, e.2)).lookup x =
      if source <+: x then none else entries.lookup x := by
  induction entries with
  | nil => simp
  | cons e rest ih =>
    obtain ⟨k, node⟩ := e
    rw [List.map_cons]
    by_cases hk : source <+: k
    · rw [afterMove_of_inside hk]
      have hne : (x == target ++ k.drop source.length) = false := by
        rw [beq_eq_false_iff_ne]
        rintro rfl
        exact hx (List.prefix_append _ _)
      rw [List.lookup_cons, hne, ih]
      by_cases hs : source <+: x
      · rw [if_pos hs, if_pos hs]
      · have hxk : (x == k) = false := by
          rw [beq_eq_false_iff_ne]
          rintro rfl
          exact hs hk
        rw [if_neg hs, if_neg hs, List.lookup_cons, hxk]
    · rw [afterMove_of_outside hk, List.lookup_cons, List.lookup_cons, ih]
      by_cases hs : source <+: x
      · have hxk : (x == k) = false := by
          rw [beq_eq_false_iff_ne]
          rintro rfl
          exact hk hs
        rw [hxk, if_pos hs]
      · rw [if_neg hs, if_neg hs]

/-- A move takes away what is at its source and below it. Of the rest it changes nothing but what is
at its target and below. -/
theorem get?_move (t : FileTree) {source target x : Location} (hs : source ≠ [])
    (hx : ¬ target <+: x) :
    (t.move source target).get? x = if source <+: x then none else t.get? x := by
  unfold get? move
  by_cases hr : x = []
  · subst hr
    have : ¬ source <+: [] := fun h => hs (List.prefix_nil.1 h)
    rw [if_pos rfl, if_pos rfl, if_neg this]
  · rw [if_neg hr, if_neg hr]
    exact lookup_move source target x t.entries hx

open Session

/-! ## Removing -/

/-- `x` is not inside what a path names, be it a link, a file or a directory with all it holds. -/
def Outside (t : FileTree) (p : Path) (x : Location) : Prop :=
  ∀ l, t.locate false p = .ok l → ¬ l <+: x

instance (t : FileTree) (p : Path) (x : Location) : Decidable (t.Outside p x) :=
  match h : t.locate false p with
  | .ok l => decidable_of_iff (¬ l <+: x)
      ⟨fun hx l' hl => by cases h.symm.trans hl; exact hx, fun hx => hx l h⟩
  | .error _ => .isTrue fun l hl => by cases h.symm.trans hl

theorem Outside.above {x y : Location} (h : t.Outside p y) (hx : x <+: y) : t.Outside p x :=
  fun l hl hp => h l hl (hp.trans hx)

/-- `t'` is `t` without some of what is inside what a path names. -/
structure Pruned (t t' : FileTree) (p : Path) : Prop where
  outside : ∀ x, t.Outside p x → t'.get? x = t.get? x
  kept : ∀ x node, t'.get? x = some node → t.get? x = some node
  here : t'.here = t.here

namespace Pruned

theorem refl (t : FileTree) (p : Path) : Pruned t t p := ⟨fun _ _ => rfl, fun _ _ h => h, rfl⟩

theorem filter (keep : Location → Bool) (hl : t.locate false p = .ok l)
    (hkeep : ∀ x, keep x = false → l <+: x) :
    Pruned t { t with entries := t.entries.filter fun e => keep e.1 } p where
  outside x hx := by
    have hx : keep x = true := by
      rw [← Bool.not_eq_false]
      exact fun h => hx l hl (hkeep x h)
    simp only [get?, lookup_filter_of_pos keep x t.entries hx]
  kept x node hg := by
    unfold get? at hg ⊢
    split at hg
    · next hroot => rwa [if_pos hroot]
    next hroot =>
    rw [if_neg hroot]
    cases hx : keep x with
    | true => rwa [lookup_filter_of_pos keep x t.entries hx] at hg
    | false => rw [lookup_filter_of_neg keep x t.entries hx] at hg; cases hg
  here := rfl

theorem erase (hl : t.locate false p = .ok l) : Pruned t (t.erase l) p :=
  .filter (fun x => !l.isPrefixOf x) hl fun x hx => by simpa using hx

theorem clear (hl : t.locate false p = .ok l) : Pruned t (t.clear l) p :=
  .filter (fun x => x = l || !l.isPrefixOf x) hl fun x hx => by
    rw [Bool.or_eq_false_iff] at hx
    simpa using hx.2

/-- A path leads nowhere it did not lead before. -/
theorem locate {q : Path} (h : Pruned t t' p) (hl : t'.locate false q = .ok l) :
    t.locate false q = .ok l := by
  obtain ⟨hw, seen, n, hn, hroute⟩ := leads_of_locate hl
  have hroute' : t.Leads false (t'.origin q) (steps q) seen n l := by
    refine hroute.congr fun x hx => ?_
    -- what a route passes is there, so it was there before
    rcases hroute.passed (.inl rfl) hx with hg | ⟨target, hg⟩ <;> rw [hg, h.kept x _ hg]
  rw [origin, h.here] at hroute'
  exact locate_eq_of_leads hw hroute' hn

theorem outside_of {q : Path} (h : Pruned t t' p) (hx : t.Outside q x) : t'.Outside q x :=
  fun l hl => hx l (h.locate hl)

end Pruned

/-- Removing a directory goes well, or leaves some or all of what the directory holds. -/
theorem removeDirectory_cases (hp : t.stat false p = .ok .directory) :
    ∃ t', Pruned t t' p ∧
      (removeDirectory p t = .ok () t' ∨ ∃ e, removeDirectory p t = .error e t') := by
  obtain ⟨l, hl, hg⟩ := exists_of_stat hp
  have hdir : t.locate true p = .ok l := locate_follow hl fun _ => by rw [hg]; simp
  unfold removeDirectory
  rw [bind_of_ok (get_eq t)]
  simp only [hdir]
  cases t.locate false (withoutSlashes p) with
  | error e => exact ⟨t, .refl t p, .inr ⟨e, rfl⟩⟩
  | ok entry =>
    by_cases heq : l = entry
    · simp only [if_pos heq]
      exact ⟨_, .erase hl, .inl rfl⟩
    · simp only [if_neg heq]
      exact ⟨_, .clear hl, .inr ⟨_, rfl⟩⟩

theorem removeFile_of_get? {node : Node} (hl : t.locate false p = .ok l)
    (hg : t.get? l = some node) (hne : node ≠ .directory) :
    removeFile p t = .ok () (t.erase l) := by
  unfold removeFile
  rw [bind_of_ok (get_eq t)]
  simp only [hl, hg]
  cases node with
  | directory => exact absurd rfl hne
  | file | link => rfl

/-- Removing a file takes away what the path names, be it a file or a link. -/
theorem removeFile_cases (p : Path) (t : FileTree) :
    (∃ e, removeFile p t = .error e t) ∨
    ∃ l node, t.locate false p = .ok l ∧ t.get? l = some node ∧ node ≠ .directory ∧
      removeFile p t = .ok () (t.erase l) := by
  cases hl : t.locate false p with
  | error e =>
    refine .inl ⟨e, ?_⟩
    unfold removeFile
    rw [bind_of_ok (get_eq t)]
    simp only [hl]
    rfl
  | ok l =>
    cases hg : t.get? l with
    | some node =>
      by_cases hne : node = .directory
      · refine .inl ⟨.isADirectory, ?_⟩
        unfold removeFile
        rw [bind_of_ok (get_eq t)]
        simp only [hl, hg, hne]
        rfl
      · exact .inr ⟨l, node, rfl, hg, hne, removeFile_of_get? hl hg hne⟩
    | none =>
      refine .inl ⟨.notFound, ?_⟩
      unfold removeFile
      rw [bind_of_ok (get_eq t)]
      simp only [hl, hg]
      rfl

/-- Making a link goes well where nothing is. -/
theorem makeLink_of_free {target : Path} (hl : t.locate false p = .ok l) (hg : t.get? l = none) :
    makeLink target p t = .ok () (t.put l (.link target)) := by
  unfold makeLink
  rw [bind_of_ok (get_eq t)]
  simp only [hl, hg, Option.isSome_none, Bool.false_eq_true, if_false]
  rfl

/-- Making a link fails where its path leads nowhere. -/
theorem makeLink_of_error {target : Path} {e : IoError} (hl : t.locate false p = .error e) :
    makeLink target p t = .error e t := by
  unfold makeLink
  rw [bind_of_ok (get_eq t)]
  simp only [hl]
  rfl

theorem makeLink_cases (target p : Path) (t : FileTree) :
    (∃ e, makeLink target p t = .error e t) ∨
    ∃ l, t.locate false p = .ok l ∧ t.get? l = none ∧
      makeLink target p t = .ok () (t.put l (.link target)) := by
  cases hl : t.locate false p with
  | error e => exact .inl ⟨e, makeLink_of_error hl⟩
  | ok l =>
    cases hg : t.get? l with
    | none => exact .inr ⟨l, rfl, hg, makeLink_of_free hl hg⟩
    | some node =>
      refine .inl ⟨.alreadyExists, ?_⟩
      unfold makeLink
      rw [bind_of_ok (get_eq t)]
      simp only [hl, hg, Option.isSome_some, if_true]
      rfl

/-- Making a directory goes well where nothing is. -/
theorem makeDirectory_cases (p : Path) (t : FileTree) :
    (∃ l, t.locate false p = .ok l ∧ t.get? l = none ∧
      makeDirectory p t = .ok () (t.put l .directory)) ∨
    (∃ l, t.locate false p = .ok l ∧ makeDirectory p t = .error .alreadyExists t) ∨
    ∃ e, t.locate false p = .error e ∧ makeDirectory p t = .error e t := by
  unfold makeDirectory
  rw [bind_of_ok (get_eq t)]
  cases hl : t.locate false p with
  | error e => exact .inr (.inr ⟨e, rfl, rfl⟩)
  | ok l =>
    cases hg : t.get? l with
    | none => exact .inl ⟨l, rfl, hg, by simp only [hg]; rfl⟩
    | some node => exact .inr (.inl ⟨l, rfl, by simp only [hg]; rfl⟩)

/-- Making a directory whose parent is there makes at most this one. -/
theorem makeDirectories_cases (hp : Path.ofComponents p.components = p)
    (h : t.locate false p ≠ .error .notFound) :
    (∃ l, t.locate false p = .ok l ∧ t.get? l = none ∧
      makeDirectories p t = .ok () (t.put l .directory)) ∨
    makeDirectories p t = .ok () t ∨ ∃ e, makeDirectories p t = .error e t := by
  unfold makeDirectories
  cases hcs : p.components.reverse with
  | nil => exact .inr (.inl rfl)
  | cons last above =>
    have hback : Path.ofComponents (last :: above).reverse = p := by
      rw [← hcs, List.reverse_reverse, hp]
    -- where making the directory fails, it does not matter if there is one already
    have settle : ∀ e, ((do if (← get).isDirectory p then pure () else throw e :
          EStateM IoError FileTree Unit) t) = .ok () t ∨
        ((do if (← get).isDirectory p then pure () else throw e :
          EStateM IoError FileTree Unit) t) = .error e t := by
      intro e
      rw [bind_of_ok (get_eq t)]
      cases t.isDirectory p
      · exact .inr rfl
      · exact .inl rfl
    unfold makeDirectoriesFrom
    simp only [hback]
    rcases makeDirectory_cases p t with ⟨l, hl, hg, hrun⟩ | ⟨l, hl, hrun⟩ | ⟨e, he, hrun⟩
    · exact .inl ⟨l, hl, hg, tryCatch_of_ok hrun⟩
    · rw [tryCatch_of_error hrun]
      rcases settle .alreadyExists with hs | hs
      · exact .inr (.inl hs)
      · exact .inr (.inr ⟨_, hs⟩)
    · rw [tryCatch_of_error hrun]
      -- so the directories above are not made
      have hne : e ≠ .notFound := by
        rintro rfl
        exact h he
      rcases settle e with hs | hs
      · refine .inr (.inl ?_)
        cases e <;> first | exact absurd rfl hne | exact hs
      · refine .inr (.inr ⟨e, ?_⟩)
        cases e <;> first | exact absurd rfl hne | exact hs

theorem exists_components (hp : Path.ofComponents p.components = p) (hne : p.text ≠ []) :
    ∃ last above, p.components.reverse = last :: above ∧
      Path.ofComponents (last :: above).reverse = p := by
  cases hcs : p.components.reverse with
  | nil =>
    rw [List.reverse_eq_nil_iff.1 hcs] at hp
    exact absurd (hp ▸ rfl : p.text = []) hne
  | cons last above => exact ⟨last, above, rfl, by rw [← hcs, List.reverse_reverse, hp]⟩

theorem makeDirectories_of_free (hp : Path.ofComponents p.components = p) (hne : p.text ≠ [])
    (hl : t.locate false p = .ok l) (hg : t.get? l = none) :
    makeDirectories p t = .ok () (t.put l .directory) := by
  obtain ⟨last, above, hcs, hback⟩ := exists_components hp hne
  unfold makeDirectories
  rw [hcs]
  unfold makeDirectoriesFrom
  simp only [hback]
  have hrun : makeDirectory p t = .ok () (t.put l .directory) := by
    unfold makeDirectory
    rw [bind_of_ok (get_eq t)]
    simp only [hl, hg]
    rfl
  exact tryCatch_of_ok hrun

/-- A directory that is there is not made again. -/
theorem makeDirectories_of_directory (hp : Path.ofComponents p.components = p) (hne : p.text ≠ [])
    (hl : t.locate false p = .ok l) (hg : t.get? l = some .directory) :
    makeDirectories p t = .ok () t := by
  obtain ⟨last, above, hcs, hback⟩ := exists_components hp hne
  unfold makeDirectories
  rw [hcs]
  unfold makeDirectoriesFrom
  simp only [hback]
  have hrun : makeDirectory p t = .error .alreadyExists t := by
    unfold makeDirectory
    rw [bind_of_ok (get_eq t)]
    simp only [hl, hg]
    rfl
  have hdir : t.isDirectory p = true := by
    rw [isDirectory, stat_of_place hl hg fun _ => by simp]
  rw [tryCatch_of_error hrun]
  show ((do if (← get).isDirectory p then pure () else throw .alreadyExists :
    EStateM IoError FileTree Unit) t) = _
  rw [bind_of_ok (get_eq t), if_pos hdir]
  rfl

/-! ## Moving -/

/-- What is at `a` and below it was moved away to `b`. Nothing else changed but what is at `b` and
below. -/
def Moved (t t' : FileTree) (a b : Location) : Prop :=
  a ≠ b ∧ ∀ x, ¬ b <+: x → t'.get? x = if a <+: x then none else t.get? x

theorem moved_move {a b : Location} (hab : ¬ a <+: b) : Moved t (t.move a b) a b := by
  have hane : a ≠ [] := by
    rintro rfl
    exact hab List.nil_prefix
  refine ⟨?_, fun x hx => get?_move t hane hx⟩
  rintro rfl
  exact hab (List.prefix_refl a)

theorem moved_erase_move {a b : Location} (hab : ¬ a <+: b) (hba : ¬ b <+: a) :
    Moved t ((t.erase b).move a b) a b := by
  have hbne : b ≠ [] := by
    rintro rfl
    exact hba List.nil_prefix
  obtain ⟨hne, hmoved⟩ := moved_move (t := t.erase b) hab
  refine ⟨hne, fun x hx => ?_⟩
  rw [hmoved x hx, get?_erase t b x hbne, if_neg hx]

/-- What a move that goes well leaves: the same tree where both paths name one place, and otherwise a
tree in which what was at the one place is at the other, where nothing was or something gave way. -/
inductive Renamed (t : FileTree) (a b : Location) : FileTree → Prop
  | same : a = b → Renamed t a b t
  | free : ¬ a <+: b → t.get? b = none → Renamed t a b (t.move a b)
  | replaced {occupant : Node} : t.get? b = some occupant → ¬ a <+: b → ¬ b <+: a →
      Renamed t a b ((t.erase b).move a b)

/-- Paths start from where they started before, if that has not moved. -/
theorem origin_of_moved {a b : Location} (hhere : t'.here = afterMove a b t.here) (hout : ¬ a <+: t.origin p) :
    t'.origin p = t.origin p := by
  unfold origin at hout ⊢
  split
  · rfl
  · next hrelative =>
    rw [if_neg hrelative] at hout
    rw [hhere, afterMove_of_outside hout]

theorem Renamed.origin_eq {a b : Location} (h : Renamed t a b t') (hout : ¬ a <+: t.origin p) :
    t'.origin p = t.origin p := by
  cases h with
  | same => rfl
  | free | replaced => exact origin_of_moved (by rfl) hout

theorem renamed_cases (source target : Path) (t : FileTree) :
    (∃ e, rename source target t = .error e t) ∨
    ∃ a b t', t.locate false source = .ok a ∧ t.locate false target = .ok b ∧
      rename source target t = .ok () t' ∧ Renamed t a b t' := by
  unfold rename
  rw [bind_of_ok (get_eq t)]
  cases ha : t.locate false source with
  | error e => exact .inl ⟨e, rfl⟩
  | ok a =>
  cases hb : t.locate false target with
  | error e => exact .inl ⟨e, rfl⟩
  | ok b =>
  cases hga : t.get? a with
  | none => exact .inl ⟨.notFound, by simp only [hga]; rfl⟩
  | some node =>
  cases hgb : t.get? b with
  | none =>
    simp only [hga, hgb]
    split
    · exact .inl ⟨_, rfl⟩
    · next hp =>
      exact .inr ⟨a, b, _, rfl, rfl, rfl, .free (mt List.isPrefixOf_iff_prefix.2 hp) hgb⟩
  | some occupant =>
    simp only [hga, hgb]
    split
    · next hab => exact .inr ⟨a, b, _, rfl, rfl, rfl, .same hab⟩
    split
    · exact .inl ⟨_, rfl⟩
    next hp =>
    split
    · exact .inl ⟨_, rfl⟩
    next hq =>
    have hreplaced : Renamed t a b ((t.erase b).move a b) :=
      .replaced hgb (mt List.isPrefixOf_iff_prefix.2 hp) (mt List.isPrefixOf_iff_prefix.2 hq)
    split
    · split
      · exact .inl ⟨_, rfl⟩
      split
      · exact .inl ⟨_, rfl⟩
      · exact .inr ⟨a, b, _, rfl, rfl, rfl, hreplaced⟩
    · split
      · exact .inl ⟨_, rfl⟩
      · exact .inr ⟨a, b, _, rfl, rfl, rfl, hreplaced⟩

/-- A move goes well where nothing is at the target, unless that is inside the source. -/
theorem rename_of_free {source target : Path} {a b : Location} {node : Node}
    (ha : t.locate false source = .ok a) (hga : t.get? a = some node)
    (hb : t.locate false target = .ok b) (hgb : t.get? b = none) (hab : ¬ a <+: b) :
    rename source target t = .ok () (t.move a b) := by
  unfold rename
  rw [bind_of_ok (get_eq t)]
  simp only [ha, hb, hga, hgb, mt List.isPrefixOf_iff_prefix.1 hab]
  rfl

end CatalogAdmin.FileTree
