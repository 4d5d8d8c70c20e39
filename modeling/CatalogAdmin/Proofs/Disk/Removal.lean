import CatalogAdmin.Disk.Removal
import CatalogAdmin.Proofs.Session.Runs

/-!
# What removing data from disks leaves

The remover is a program of its own, and may do anything to the files. So the tree that its runs leave
is nothing but the tree that they leave, one after the other (`Remover.leave`). What else a session
does against a server that only answers is on record: `Traced` says which queries it sent and which
removals it asked for.

Results:
1. `after_listDisks`, `after_commandForm`: both ask once.
2. `traced_removeFromDisk`: removing from a disk sends nothing, and runs the remover once unless it
   fails before that.
-/

namespace CatalogAdmin

open Session

/-! ## Runs of the remover -/

/-- The tree that runs of the remover leave, one after the other, given the removals asked for before
them. -/
def Remover.leave (remover : Remover) : List Removal → List Removal → FileTree → FileTree
  | _, [], t => t
  | before, r :: more, t => remover.leave (before ++ [r]) more (remover.run before r t).2

theorem Remover.leave_append (remover : Remover) (before first more : List Removal) (t : FileTree) :
    remover.leave before (first ++ more) t =
      remover.leave (before ++ first) more (remover.leave before first t) := by
  induction first generalizing before t with
  | nil => rw [List.nil_append, List.append_nil, leave]
  | cons r first ih => rw [List.cons_append, leave, ih, leave, List.append_assoc, List.singleton_append]

/-- What no run changes is not changed by several. -/
theorem Remover.get?_leave {remover : Remover} {x : Location}
    (h : ∀ before r t, (remover.run before r t).2.get? x = t.get? x) (before runs : List Removal)
    (t : FileTree) : (remover.leave before runs t).get? x = t.get? x := by
  induction runs generalizing before t with
  | nil => rfl
  | cons r more ih => rw [leave, ih, h]

theorem Remover.leave_of_idle {remover : Remover} (h : ∀ before r t, (remover.run before r t).2 = t)
    (before runs : List Removal) (t : FileTree) : remover.leave before runs t = t := by
  induction runs generalizing before t with
  | nil => rfl
  | cons r more ih => rw [leave, ih, h]

/-- On the way from `w` to `w'` these queries were sent and these removals asked for. No file was
changed but by the remover. -/
structure Traced (site : Site) (w w' : World) (asked : List Sent) (removed : List Removal) :
    Prop where
  sent : w'.sent = w.sent ++ asked
  removals : w'.removals = w.removals ++ removed
  tree : w'.tree = site.remover.leave w.removals removed w.tree

variable {site : Site} {w v w' : World} {asked asked' : List Sent} {removed removed' : List Removal}

namespace Traced

theorem refl (site : Site) (w : World) : Traced site w w [] [] :=
  ⟨(List.append_nil _).symm, (List.append_nil _).symm, rfl⟩

theorem asking (site : Site) (w : World) (s : Sent) : Traced site w (w.asking s) [s] [] :=
  ⟨rfl, (List.append_nil _).symm, rfl⟩

theorem trans (h : Traced site w v asked removed) (h' : Traced site v w' asked' removed') :
    Traced site w w' (asked ++ asked') (removed ++ removed') where
  sent := by rw [h'.sent, h.sent, List.append_assoc]
  removals := by rw [h'.removals, h.removals, List.append_assoc]
  tree := by rw [h'.tree, h.removals, h.tree, Remover.leave_append]

end Traced

/-! ## Disks -/

/-- The query for the disks. -/
def inventoryQuery (site : Site) : Sent :=
  ⟨.fetch, { sql := "SELECT name, type FROM system.disks ORDER BY name",
             timeout := some site.settings.server.timeouts.query }⟩

/-- The query for the server's version. -/
def versionQuery (site : Site) : Sent :=
  ⟨.fetch, { sql := "SELECT version() AS version",
             timeout := some site.settings.server.timeouts.query }⟩

/-- The run of the remover that removes a path from a disk. -/
def removalFrom (site : Site) (disk : Disk) (path : Text) (form : CommandForm) : Removal :=
  ⟨disk.name, path, site.settings.disks.configFor disk.name, form⟩

namespace Session

variable {answers : List Sent → Sent → Except ClientError (List Row)}

theorem after_listDisks (hs : site.server = .ofAnswers answers) (w : World) :
    after (listDisks site) w = w.asking (inventoryQuery site) := by
  unfold listDisks
  rw [Keeps.after_bind, after_asTask_fetchAs answers hs]
  · rfl
  · intro rows v
    split <;> rfl

theorem after_commandForm (hs : site.server = .ofAnswers answers) (w : World) :
    after (commandForm site) w = w.asking (versionQuery site) := by
  unfold commandForm asTask
  rw [Keeps.after_bind (fun _ => Keeps.pure Eq.refl _), after_adaptExcept, serverVersion,
    Keeps.after_bind, ← after_adaptExcept (TableError.ofClient .readingVersion)]
  · exact after_asTask_fetchAs answers hs _ _ _ w
  · intro rows v
    split
    · rfl
    · split <;> rfl

/-- Asking the remover for a removal, whatever is made of its outcome. -/
theorem traced_remove (site : Site) (r : Removal) {f : RemovalOutcome → Session Unit}
    (hf : ∀ outcome, Keeps Eq (f outcome)) (w : World) :
    Traced site w (after (remove site.remover r >>= f) w) [] [r] := by
  rw [Keeps.after_bind hf]
  unfold after remove
  cases hrun : site.remover.run w.removals r w.tree with
  | mk outcome tree =>
    cases outcome <;> exact ⟨(List.append_nil _).symm, rfl, by simp only [Remover.leave, hrun]; rfl⟩

/-- Removing from a disk runs the remover once, unless it fails before. -/
theorem traced_removeFromDisk (site : Site) (disk : Disk) (path : Text) (form : CommandForm)
    (w : World) :
    (∃ e, removeFromDisk site disk path form w = .error e w) ∨
    Traced site w (after (removeFromDisk site disk path form) w) []
      [removalFrom site disk path form] := by
  -- once the remover has ended, its outcome only says if this was a failure
  have houtcome : ∀ outcome : RemovalOutcome, Keeps Eq (if !outcome.succeeded then
      throw (.externalTool site.remover.name disk.name path outcome.exitCode
        (Text.decodeLossy outcome.stderr).trim) else pure () : Session Unit) := by
    intro outcome v
    split <;> rfl
  unfold removeFromDisk
  cases hpresent : w.tree.isPresent (site.settings.paths.visiblePath disk path) with
  | error e => exact .inl ⟨_, bind_of_error (adaptExcept_of_error (look_of_error hpresent))⟩
  | ok present =>
    rw [bind_of_ok (adaptExcept_of_ok (look_of_ok hpresent)),
      after_bind_of_ok (adaptExcept_of_ok (look_of_ok hpresent))]
    cases present with
    | true => exact .inr (traced_remove site _ houtcome w)
    | false =>
      cases hlenient : site.settings.disks.lenient with
      | false => exact .inl ⟨_, rfl⟩
      | true =>
        have := traced_remove site (removalFrom site disk path form) houtcome
          (w.telling (.pathNotVisible disk.name (site.settings.paths.visiblePath disk path)))
        exact .inr ⟨this.sent, this.removals, this.tree⟩

end Session

end CatalogAdmin
