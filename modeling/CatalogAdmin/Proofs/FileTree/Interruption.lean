import CatalogAdmin.Proofs.FileTree.Straight
import CatalogAdmin.Proofs.FileTree.Views

/-!
# Removals that are cut short

Several paths are removed one after the other, and the work stops anywhere, maybe within one of the
paths (`Midway`). Where they are removed again from there, each removal comes to the same tree as if the
work had not stopped, or is still midway through the paths behind it (`Midway.redo`): what is gone
already is not there to be removed, and of what is half gone the rest is removed, if its path still
leads there. It does, unless it leads through what is below its own end (`Loopless`).
-/

namespace CatalogAdmin.FileTree

variable {t t' s s' : FileTree} {p : Path} {paths more : List Path} {l x : Location}

/-! ## Removing a path -/

/-- The tree without what a path names. -/
def without (t : FileTree) (p : Path) : FileTree :=
  match t.locate false p with
  | .ok l => t.erase l
  | .error _ => t

theorem without_of_ok (hl : t.locate false p = .ok l) : t.without p = t.erase l := by
  rw [without, hl]

theorem without_of_error {e : IoError} (hl : t.locate false p = .error e) : t.without p = t := by
  rw [without, hl]

theorem erase_eq_some (t : FileTree) {node : Node} (hx : x ≠ []) :
    (t.erase l).get? x = some node ↔ ¬ l <+: x ∧ t.get? x = some node := by
  have hget : (t.erase l).get? x = if x = [] then some .directory else
      if (!l.isPrefixOf x) = true then t.get? x else none := get?_filter t (fun x => !l.isPrefixOf x) x
  rw [hget, if_neg hx]
  cases hp : l.isPrefixOf x with
  | true => simp [List.isPrefixOf_iff_prefix.1 hp]
  | false =>
    have hoff : ¬ l <+: x := fun h => by simp [List.isPrefixOf_iff_prefix.2 h] at hp
    simp [hoff]

/-- Two trees have one view if the same things stand in both, the root apart. -/
theorem SameView.of_some (hhere : t'.here = t.here)
    (h : ∀ x node, x ≠ [] → (t'.get? x = some node ↔ t.get? x = some node)) : SameView t t' where
  here := hhere
  get? x := by
    by_cases hx : x = []
    · rw [hx, t.get?_nil, t'.get?_nil]
    · cases hg : t.get? x with
      | some node => exact (h x node hx).2 hg
      | none =>
        cases hg' : t'.get? x with
        | none => rfl
        | some node => rw [(h x node hx).1 hg'] at hg; cases hg

theorem SameView.without (h : SameView t t') (p : Path) :
    SameView (t.without p) (t'.without p) := by
  unfold FileTree.without
  rw [h.locate]
  cases t.locate false p with
  | ok l => exact h.erase l
  | error e => exact h

theorem SameView.without_all (h : SameView t t') (paths : List Path) :
    SameView (paths.foldl FileTree.without t) (paths.foldl FileTree.without t') := by
  induction paths generalizing t t' with
  | nil => exact h
  | cons p more ih => exact ih (h.without p)

theorem within_without (t : FileTree) (p : Path) : Within (t.without p) t := by
  unfold without
  split
  · next hl => exact (Pruned.erase hl).within
  · exact .refl t

theorem within_without_all (t : FileTree) (paths : List Path) :
    Within (paths.foldl without t) t := by
  induction paths generalizing t with
  | nil => exact .refl t
  | cons p more ih => exact (ih (t.without p)).trans (within_without t p)

/-- What is gone already is not there to be removed. -/
theorem Within.without (h : Within s (t.without p)) : SameView s (s.without p) := by
  cases hl : s.locate false p with
  | error e =>
    rw [without_of_error hl]
    exact .refl s
  | ok l =>
    rw [without_of_ok (h.trans (within_without t p) |>.locate_of_ok hl)] at h
    rw [without_of_ok hl]
    refine .of_some rfl fun x node hx => ?_
    rw [erase_eq_some s hx]
    exact ⟨fun hg => hg.2, fun hg => ⟨((erase_eq_some t hx).1 (h.kept x node hg)).1, hg⟩⟩

/-! ## Removing a part -/

/-- `t'` is `t` without some of what is inside what a path names. What is left there is in what it was
in. -/
structure PartlyRemoved (t t' : FileTree) (p : Path) : Prop extends Pruned t t' p where
  above : ∀ x y, x <+: y → t'.get? y ≠ none → t'.get? x = t.get? x

theorem PartlyRemoved.of_erase (hl : t.locate false p = .ok l) (hlx : l <+: x) :
    PartlyRemoved t (t.erase x) p where
  toPruned := .filter (fun y => !x.isPrefixOf y) hl fun y hy => hlx.trans (by simpa using hy)
  above y z hyz hz := by
    by_cases hy : y = []
    · rw [hy, get?_nil, get?_nil]
    · have hzne : z ≠ [] := fun hz => hy (List.prefix_nil.1 (hz ▸ hyz))
      obtain ⟨node, hz⟩ := Option.ne_none_iff_exists'.1 hz
      have hoff : ¬ x <+: y := fun h => ((erase_eq_some t hzne).1 hz).1 (h.trans hyz)
      exact Option.ext fun node => by simp [erase_eq_some t hy, hoff]

theorem PartlyRemoved.refl (t : FileTree) (p : Path) : PartlyRemoved t t p :=
  ⟨.refl t p, fun _ _ _ _ => rfl⟩

/-- A path does not lead through what is below its own end. -/
def Loopless (t : FileTree) (p : Path) : Prop :=
  ∀ seen n l, t.Leads false (t.origin p) (steps p) seen n l → ∀ x ∈ seen, x ≠ l → ¬ l <+: x

theorem Loopless.within (h : t.Loopless p) (hw : Within t' t) : t'.Loopless p := by
  intro seen n l hroute
  refine h seen n l ?_
  rw [← hw.origin]
  -- what a route passes is there, so it was there before
  refine hroute.congr fun x hx => ?_
  rcases hroute.passed (.inl rfl) hx with hg | ⟨target, hg⟩ <;> rw [hg, hw.kept x _ hg]

theorem PartlyRemoved.sameView {e : IoError} (h : PartlyRemoved t s p)
    (hl : t.locate false p = .error e) : SameView t s :=
  ⟨h.here, fun x => h.outside x fun l hl' => by cases hl.symm.trans hl'⟩

/-- What is not inside what a path names is left. -/
theorem PartlyRemoved.left (h : PartlyRemoved t s p) : Within (t.without p) s := by
  cases hl : t.locate false p with
  | error e =>
    rw [without_of_error hl]
    exact (h.sameView hl).symm.within
  | ok l =>
    rw [without_of_ok hl]
    refine ⟨fun x node hg => ?_, h.here.symm⟩
    by_cases hx : x = []
    · rw [hx, get?_nil] at hg ⊢
      exact hg
    · obtain ⟨hoff, hg⟩ := (erase_eq_some t hx).1 hg
      rwa [h.outside x fun l' hl' => by cases hl.symm.trans hl'; exact hoff]

/-- A path that goes up nowhere does not come back to what is below its end, unless by a link. -/
theorem StraightTo.loopless {parts : List Text} {part : Text} (hp : EndsIn p parts part)
    (h : t.StraightTo p) (hup : (".." : Text) ∉ parts) : t.Loopless p := by
  intro seen n l hroute y hy _ hbelow
  rw [hp.steps] at hroute
  obtain ⟨rfl, rfl, -⟩ := hroute.straight_last hp.not_current hp.not_up (h.before hp)
  have hlen := (hbelow.trans (prefix_goal hup (.inr hy))).length_le
  rw [goal_append, goal_name hp.not_current hp.not_up, goal, List.length_append,
    List.length_singleton] at hlen
  omega

/-- The rest of what is half gone is removed. -/
theorem PartlyRemoved.without (h : PartlyRemoved t s p) (hp : t.Loopless p) :
    SameView (t.without p) (s.without p) := by
  cases hl : t.locate false p with
  | error e =>
    exact (h.sameView hl).without p
  | ok l =>
    have houtside : ∀ x, ¬ l <+: x → s.get? x = t.get? x := by
      refine fun x hx => h.outside x fun l' hl' => ?_
      cases hl.symm.trans hl'
      exact hx
    rw [without_of_ok hl]
    cases hl' : s.locate false p with
    | ok l' =>
      obtain rfl : l = l' := by cases hl.symm.trans (h.locate hl'); rfl
      rw [without_of_ok hl']
      refine .of_some h.here fun x node hx => ?_
      rw [erase_eq_some s hx, erase_eq_some t hx]
      refine and_congr_right fun hoff => ?_
      rw [houtside x hoff]
    | error e =>
      rw [without_of_error hl']
      refine .of_some h.here fun x node hx => ?_
      rw [erase_eq_some t hx]
      refine ⟨fun hg => ⟨fun hbelow => ?_, h.kept x node hg⟩, fun ⟨hoff, hg⟩ => ?_⟩
      · -- something is left, so the end of the route is left, and the route still leads to it
        obtain ⟨hw, seen, n, hn, hroute⟩ := leads_of_locate hl
        have hroute' : s.Leads false (t.origin p) (steps p) seen n l := by
          refine hroute.congr fun y hy => ?_
          by_cases hend : y = l
          · exact h.above y x (hend ▸ hbelow) (by rw [hg]; simp)
          · exact houtside y (hp seen n l hroute y hy hend)
        rw [← origin_of_here h.here] at hroute'
        rw [locate_eq_of_leads hw hroute' hn] at hl'
        cases hl'
      · rw [houtside x hoff, hg]

/-! ## Removing several paths -/

/-- What may be left where paths are removed one after the other and the work stops. -/
inductive Midway : List Path → FileTree → FileTree → Prop
  | start {paths : List Path} {t s : FileTree} : SameView t s → Midway paths t s
  | partly {p : Path} {more : List Path} {t s : FileTree} :
      PartlyRemoved t s p → Midway (p :: more) t s
  | later {p : Path} {more : List Path} {t s : FileTree} :
      Midway more (t.without p) s → Midway (p :: more) t s

namespace Midway

theorem within (h : Midway paths t s) : Within s t := by
  induction h with
  | start h => exact h.within
  | partly h => exact h.within
  | later _ ih => exact ih.trans (within_without _ _)

theorem congr (h : Midway paths t s) (ht : SameView t t') (hs : SameView s s') :
    Midway paths t' s' := by
  induction h generalizing t' with
  | start h => exact .start ((ht.symm.trans h).trans hs)
  | @partly p _ t s h =>
    refine .partly ⟨⟨fun x hx => ?_, fun x node hg => ?_, ?_⟩, fun x y hxy hy => ?_⟩
    · have hx' : t.Outside p x := fun l hl => hx l ((ht.locate false p).trans hl)
      rw [hs.get?, ht.get?, h.outside x hx']
    · rw [ht.get?]
      exact h.kept x node ((hs.get? x).symm.trans hg)
    · rw [hs.here, ht.here, h.here]
    · rw [hs.get?, ht.get?]
      exact h.above x y hxy fun hnone => hy ((hs.get? y).trans hnone)
  | later _ ih => exact .later (ih (ht.without _) hs)

/-- What is not to be removed is left. -/
theorem left (h : Midway paths t s) : Within (paths.foldl FileTree.without t) s := by
  induction h with
  | start h => exact (within_without_all _ _).trans h.symm.within
  | @partly p more t _ h => exact (within_without_all (t.without p) more).trans h.left
  | later _ ih => exact ih

/-- When all paths are removed, the work is still midway at worst. -/
theorem finished (h : SameView (paths.foldl FileTree.without t) s) : Midway paths t s := by
  induction paths generalizing t with
  | nil => exact .start h
  | cons p more ih => exact .later (ih h)

/-- When the first path is removed again, what is left is midway through the others. -/
theorem redo (h : Midway (p :: more) t s) (hp : t.Loopless p) :
    Midway more (t.without p) (s.without p) := by
  cases h with
  | start h => exact .start (h.without p)
  | partly h => exact .start (h.without hp)
  | later h => exact h.congr (.refl _) h.within.without

end Midway

end CatalogAdmin.FileTree
