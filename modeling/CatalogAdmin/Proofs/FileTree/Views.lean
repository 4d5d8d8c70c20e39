import CatalogAdmin.Catalog.File
import CatalogAdmin.Proofs.FileTree.Losses
import CatalogAdmin.Proofs.Session.Agreement

/-!
# Trees that look the same

A tree is looked at through `get?` alone, so no operation can tell two trees of one view apart: each
finds the same in both, and leaves trees of one view again. Two lists of entries may well have one view,
as where a file is put back that was changed before.
-/

namespace CatalogAdmin

namespace FileTree

/-- The same stands everywhere in two trees, and relative paths start from the same place. -/
structure SameView (t t' : FileTree) : Prop where
  here : t'.here = t.here
  get? : ∀ x, t'.get? x = t.get? x

variable {t t' t'' : FileTree} {l : Location}

/-! ## Views after a change -/

theorem get?_filter (t : FileTree) (keep : Location → Bool) (x : Location) :
    ({ t with entries := t.entries.filter fun e => keep e.1 } : FileTree).get? x =
      if x = [] then some .directory else if keep x then t.get? x else none := by
  unfold get?
  by_cases hx : x = []
  · rw [if_pos hx, if_pos hx]
  · rw [if_neg hx, if_neg hx, if_neg hx]
    cases hkeep : keep x with
    | true => rw [lookup_filter_of_pos keep x t.entries hkeep, if_pos rfl]
    | false =>
      rw [lookup_filter_of_neg keep x t.entries hkeep, if_neg Bool.false_ne_true]

/-! ## Looks -/

theorem isPresent_of_stat {p : Path} (h : t'.stat true p = t.stat true p) :
    t'.isPresent p = t.isPresent p := by
  rw [isPresent, isPresent, h]

theorem readRecord_of_stat {p : Path} (h : t'.stat true p = t.stat true p) :
    Catalog.readRecord t' p = Catalog.readRecord t p := by
  unfold Catalog.readRecord readText
  rw [h]

namespace SameView

theorem refl (t : FileTree) : SameView t t := ⟨rfl, fun _ => rfl⟩

theorem symm (h : SameView t t') : SameView t' t := ⟨h.here.symm, fun x => (h.get? x).symm⟩

theorem trans (h : SameView t t') (h' : SameView t' t'') : SameView t t'' :=
  ⟨h'.here.trans h.here, fun x => (h'.get? x).trans (h.get? x)⟩

theorem filter (h : SameView t t') (keep : Location → Bool) :
    SameView { t with entries := t.entries.filter fun e => keep e.1 }
      { t' with entries := t'.entries.filter fun e => keep e.1 } :=
  ⟨h.here, fun x => by rw [get?_filter, get?_filter, h.get?]⟩

theorem erase (h : SameView t t') (l : Location) : SameView (t.erase l) (t'.erase l) :=
  h.filter fun x => !l.isPrefixOf x

theorem clear (h : SameView t t') (l : Location) : SameView (t.clear l) (t'.clear l) :=
  h.filter fun x => x = l || !l.isPrefixOf x

theorem within (h : SameView t t') : Within t' t :=
  ⟨fun x _ hg => (h.get? x).symm.trans hg, h.here⟩

/-! ## Looking -/

theorem walkWith (h : SameView t t') (follow : Bool)
    (expand : Location → List Text → Except IoError Location) (dir : Location)
    (parts : List Text) : t'.walkWith follow expand dir parts = t.walkWith follow expand dir parts := by
  induction parts generalizing dir with
  | nil => rfl
  | cons part rest ih => simp only [FileTree.walkWith, h.get?, ih]

theorem walk (h : SameView t t') (follow : Bool) (links : Nat) :
    t'.walk follow links = t.walk follow links := by
  induction links with
  | zero => exact funext fun dir => funext fun parts => h.walkWith follow _ dir parts
  | succ links ih =>
    funext dir parts
    rw [FileTree.walk, FileTree.walk, ih]
    exact h.walkWith follow _ dir parts

theorem locate (h : SameView t t') (follow : Bool) (p : Path) :
    t'.locate follow p = t.locate follow p := by
  unfold FileTree.locate
  rw [h.walk, h.here]

theorem stat (h : SameView t t') (follow : Bool) (p : Path) : t'.stat follow p = t.stat follow p := by
  unfold FileTree.stat
  rw [h.locate]
  simp only [h.get?]

end SameView

/-! ## Changing -/

open Session

/-- Removing a file goes the same way in trees of one view. -/
theorem follows_removeFile (p : Path) :
    Follows SameView (fun _ => False) (removeFile p) (removeFile p) := by
  intro t t' h
  unfold removeFile
  rw [bind_of_ok (get_eq t), bind_of_ok (get_eq t'), h.locate]
  cases t.locate false p with
  | error e => exact .error h
  | ok l =>
    simp only [h.get?]
    cases t.get? l with
    | none => exact .error h
    | some node =>
      cases node with
      | directory => exact .error h
      | file | link => exact .ok (h.erase l)

/-- Removing a directory goes the same way in trees of one view. -/
theorem follows_removeDirectory (p : Path) :
    Follows SameView (fun _ => False) (removeDirectory p) (removeDirectory p) := by
  intro t t' h
  unfold removeDirectory
  rw [bind_of_ok (get_eq t), bind_of_ok (get_eq t'), h.locate, h.locate]
  cases t.locate true p with
  | error e => exact .error h
  | ok dir =>
    cases t.locate false (withoutSlashes p) with
    | error e => exact .error h
    | ok entry =>
      by_cases heq : dir = entry
      · simp only [if_pos heq]
        exact .ok (h.erase dir)
      · simp only [if_neg heq]
        exact .error (h.clear dir)

end FileTree

end CatalogAdmin
