import CatalogAdmin.Proofs.FileTree.Changes

/-!
# Trees that lost something

In a tree that has nothing but what another one has (`Within`), a walk ends as it does in the other tree,
or finds something missing (`Within.walk`), and so a path names what it did or nothing
(`Within.stat_cases`). So where nothing is, nothing appears when more is removed (`Within.stat`), and what
was erased is missing from then on (`stat_erase`). Where several paths are removed one after the other, what was outside of all of them at
the start is still there (`Swept.trans`).
-/

namespace CatalogAdmin.FileTree

variable {t t' t'' : FileTree} {p : Path} {l : Location}

/-- `t'` has nothing but what `t` has. -/
structure Within (t' t : FileTree) : Prop where
  kept : ∀ x node, t'.get? x = some node → t.get? x = some node
  here : t'.here = t.here

namespace Within

theorem refl (t : FileTree) : Within t t := ⟨fun _ _ h => h, rfl⟩

theorem trans (h : Within t'' t') (h' : Within t' t) : Within t'' t where
  kept x node hg := h'.kept x node (h.kept x node hg)
  here := h.here.trans h'.here

theorem origin (h : Within t' t) (p : Path) : t'.origin p = t.origin p := by
  rw [FileTree.origin, FileTree.origin, h.here]

/-- The walk between two links. -/
theorem walkWith (h : Within t' t) (follow : Bool)
    {expand expand' : Location → List Text → Except IoError Location}
    (hexpand : ∀ dir parts,
      expand' dir parts = expand dir parts ∨ expand' dir parts = .error .notFound ∨
        follow = true ∧ ∃ l, expand' dir parts = .ok l ∧ t'.get? l = none)
    (dir : Location) (parts : List Text) :
    t'.walkWith follow expand' dir parts = t.walkWith follow expand dir parts ∨
      t'.walkWith follow expand' dir parts = .error .notFound ∨
      follow = true ∧ ∃ l, t'.walkWith follow expand' dir parts = .ok l ∧ t'.get? l = none := by
  induction parts generalizing dir with
  | nil => exact .inl rfl
  | cons part rest ih =>
    simp only [FileTree.walkWith]
    split
    · exact ih dir
    split
    · exact ih dir.dropLast
    split
    · exact .inl rfl
    -- what is still there is the same, and what is missing ends the walk
    cases hg' : t'.get? (dir ++ [part]) with
    | some node =>
      rw [h.kept _ _ hg']
      cases node with
      | directory => exact ih (dir ++ [part])
      | file f => exact .inl rfl
      | link target =>
        simp only
        split
        · exact .inl rfl
        · exact hexpand _ _
    | none =>
      cases rest with
      | cons => exact .inr (.inl rfl)
      | nil =>
        cases follow with
        | true => exact .inr (.inr ⟨rfl, _, rfl, hg'⟩)
        | false =>
          refine .inl ?_
          cases t.get? (dir ++ [part]) with
          | none => rfl
          | some node => cases node <;> rfl

/-- A walk ends as it does where nothing was lost, or something is missing: on the way, or at its end
if links are followed to the end. -/
theorem walk (h : Within t' t) (follow : Bool) (links : Nat) (dir : Location) (parts : List Text) :
    t'.walk follow links dir parts = t.walk follow links dir parts ∨
      t'.walk follow links dir parts = .error .notFound ∨
      follow = true ∧ ∃ l, t'.walk follow links dir parts = .ok l ∧ t'.get? l = none := by
  induction links generalizing dir parts with
  | zero => exact h.walkWith follow (fun _ _ => .inl rfl) dir parts
  | succ links ih => exact h.walkWith follow ih dir parts

theorem locate_follow (h : Within t' t) (follow : Bool) (p : Path) :
    t'.locate follow p = t.locate follow p ∨ t'.locate follow p = .error .notFound ∨
      follow = true ∧ ∃ l, t'.locate follow p = .ok l ∧ t'.get? l = none := by
  unfold FileTree.locate
  split
  · exact .inl rfl
  split
  · exact .inl rfl
  split
  · exact .inl rfl
  rw [h.here]
  exact h.walk follow _ _ _

theorem locate (h : Within t' t) (p : Path) :
    t'.locate false p = t.locate false p ∨ t'.locate false p = .error .notFound := by
  rcases h.locate_follow false p with hsame | hmissing | ⟨hfollow, -⟩
  · exact .inl hsame
  · exact .inr hmissing
  · cases hfollow

theorem locate_of_ok (h : Within t' t) (hl : t'.locate false p = .ok l) :
    t.locate false p = .ok l := by
  rcases h.locate p with hsame | hmissing
  · rw [← hsame, hl]
  · rw [hl] at hmissing; cases hmissing

/-- What a path names is what it was, or nothing. -/
theorem stat_cases (h : Within t' t) (follow : Bool) (p : Path) :
    t'.stat follow p = t.stat follow p ∨ t'.stat follow p = .error .notFound := by
  rcases h.locate_follow follow p with hsame | hmissing | ⟨-, l, hl, hg⟩
  · cases hl : t.locate follow p with
    | error e => exact .inl ((stat_of_error (hsame.trans hl)).trans (stat_of_error hl).symm)
    | ok l =>
      cases hg : t'.get? l with
      | none => exact .inr (stat_of_none (hsame.trans hl) hg)
      | some node =>
        exact .inl ((stat_of_get? (hsame.trans hl) hg).trans (stat_of_get? hl (h.kept l node hg)).symm)
  · exact .inr (stat_of_error hmissing)
  · exact .inr (stat_of_none hl hg)

/-- Where nothing is, nothing appears. -/
theorem stat (h : Within t' t) (hs : t.stat false p = .error .notFound) :
    t'.stat false p = .error .notFound := by
  rcases h.stat_cases false p with hsame | hmissing
  · exact hsame.trans hs
  · exact hmissing

/-- What is found is what was found before. -/
theorem stat_of_ok (h : Within t' t) {follow : Bool} {node : Node}
    (hs : t'.stat follow p = .ok node) : t.stat follow p = .ok node := by
  rcases h.stat_cases follow p with hsame | hmissing
  · exact hsame.symm.trans hs
  · rw [hs] at hmissing
    cases hmissing

/-- Where it can be found out whether something is at a path, it still can. -/
theorem isPresent_of_ok (h : Within t' t) {present : Bool} (hp : t.isPresent p = .ok present) :
    ∃ present', t'.isPresent p = .ok present' := by
  unfold isPresent at hp ⊢
  rcases h.stat_cases true p with hsame | hmissing
  · rw [hsame]
    exact ⟨present, hp⟩
  · rw [hmissing]
    exact ⟨false, rfl⟩

end Within

theorem Pruned.within (h : Pruned t t' p) : Within t' t := ⟨h.kept, h.here⟩

/-- A path leads nowhere it did not lead before. -/
theorem Within.outside {x : Location} (h : Within t' t) (hx : t.Outside p x) : t'.Outside p x :=
  fun _ hl => hx _ (h.locate_of_ok hl)

/-- `t'` is `t` without some of what is inside what these paths name. -/
structure Swept (t t' : FileTree) (paths : List Path) : Prop where
  within : Within t' t
  kept : ∀ x, (∀ p ∈ paths, t.Outside p x) → t'.get? x = t.get? x

namespace Swept

variable {paths : List Path}

theorem refl (t : FileTree) (paths : List Path) : Swept t t paths := ⟨.refl t, fun _ _ => rfl⟩

theorem trans (h : Swept t t' paths) (h' : Swept t' t'' paths) : Swept t t'' paths where
  within := h'.within.trans h.within
  kept x hx := (h'.kept x fun p hp => h.within.outside (hx p hp)).trans (h.kept x hx)

theorem of_pruned (h : Pruned t t' p) (hp : p ∈ paths) : Swept t t' paths where
  within := h.within
  kept x hx := h.outside x (hx p hp)

end Swept

/-- What is erased is missing. -/
theorem stat_erase (hl : t.locate false p = .ok l) (hne : l ≠ []) :
    (t.erase l).stat false p = .error .notFound := by
  have hgone : (t.erase l).get? l = none := by
    rw [get?_erase t l l hne, if_pos (List.prefix_refl l)]
  rcases (Pruned.erase hl).within.locate p with hsame | hmissing
  · exact stat_of_none (hsame.trans hl) hgone
  · exact stat_of_error hmissing

end CatalogAdmin.FileTree
