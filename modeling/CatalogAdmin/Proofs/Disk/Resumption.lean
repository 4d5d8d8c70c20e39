import CatalogAdmin.Proofs.Disk.Removal
import CatalogAdmin.Proofs.FileTree.Interruption

/-!
# Removing data from disks once more

The remover is a program of its own, but of one that works it can be said what it does: a run that
succeeds removes what a path on a disk names, and a run that fails removes at most a part of it
(`Remover.Removes`). So when the removal from several disks stops anywhere, the tree is midway through
the paths (`removeFromDisks_midway`), and when it is started again, it goes as it would have gone
without the stop (`removeFromDisks_resumed`).
-/

namespace CatalogAdmin

open FileTree

/-- What a run of the remover is to remove, on a disk that is mounted somewhere. -/
def Removal.target (mounts : Text → Path) (r : Removal) : Path := (mounts r.disk).join ⟨r.path⟩

/-- A remover removes what it is asked to when it succeeds, and at most a part of it when it fails. -/
structure Remover.Removes (remover : Remover) (mounts : Text → Path) : Prop where
  succeeds : ∀ before r t outcome t', remover.run before r t = (.ok outcome, t') →
    outcome.succeeded = true → SameView (t.without (r.target mounts)) t'
  fails : ∀ before r t answer t', remover.run before r t = (answer, t') →
    (∀ outcome, answer = .ok outcome → outcome.succeeded = false) →
    PartlyRemoved t t' (r.target mounts)

/-- How a run of a remover ends does not depend on the files. -/
def Remover.Blind (remover : Remover) : Prop :=
  ∀ before r t t', (remover.run before r t').1 = (remover.run before r t).1

namespace Session

variable {site : Site} {mounts : Text → Path} {path : Text} {form : CommandForm} {disk : Disk}
  {disks : List Disk} {w v u : World} {e : TableError}

/-- How a removal from a disk ends, where a path that cannot be seen is no failure. -/
inductive DiskRun (site : Site) (visible : Path) (r : Removal) (w : World) :
    EStateM.Result TableError World Unit → Prop
  | unknown {e : TableError} : (∀ present, w.tree.isPresent visible ≠ .ok present) →
      DiskRun site visible r w (.error e w)
  | done {present : Bool} {outcome : RemovalOutcome} {t : FileTree} {events : List Event} :
      w.tree.isPresent visible = .ok present →
      site.remover.run w.removals r w.tree = (.ok outcome, t) → outcome.succeeded = true →
      DiskRun site visible r w (.ok () ⟨t, w.sent, w.removals ++ [r], events⟩)
  | failed {present : Bool} {answer : Except TableError RemovalOutcome} {t : FileTree}
      {events : List Event} {e : TableError} :
      w.tree.isPresent visible = .ok present →
      site.remover.run w.removals r w.tree = (answer, t) →
      (∀ outcome, answer = .ok outcome → outcome.succeeded = false) →
      DiskRun site visible r w (.error e ⟨t, w.sent, w.removals ++ [r], events⟩)

theorem diskRun (hlenient : site.settings.disks.lenient = true) (disk : Disk) (path : Text)
    (form : CommandForm) (w : World) :
    DiskRun site (site.settings.paths.visiblePath disk path) (removalFrom site disk path form) w
      (removeFromDisk site disk path form w) := by
  unfold removeFromDisk
  cases hpresent : w.tree.isPresent (site.settings.paths.visiblePath disk path) with
  | error e =>
    rw [bind_of_error (adaptExcept_of_error (look_of_error hpresent))]
    exact .unknown fun present hok => by rw [hpresent] at hok; cases hok
  | ok present =>
    rw [bind_of_ok (adaptExcept_of_ok (look_of_ok hpresent))]
    -- whether the path is seen or not, the remover runs; only the events differ
    have hrun : ∀ events, DiskRun site (site.settings.paths.visiblePath disk path)
        (removalFrom site disk path form) w
        ((do
          let outcome ← remove site.remover (removalFrom site disk path form)
          if !outcome.succeeded then
            throw (.externalTool site.remover.name disk.name path outcome.exitCode
              (Text.decodeLossy outcome.stderr).trim) : Session Unit) { w with events }) := by
      intro events
      cases hr : site.remover.run w.removals (removalFrom site disk path form) w.tree with
      | mk answer t =>
        cases answer with
        | error e =>
          have herror : remove site.remover (removalFrom site disk path form) { w with events } =
              .error e ⟨t, w.sent, w.removals ++ [removalFrom site disk path form], events⟩ := by
            simp only [remove, hr]
          rw [bind_of_error herror]
          exact .failed hpresent hr fun _ hok => by cases hok
        | ok outcome =>
          have hok : remove site.remover (removalFrom site disk path form) { w with events } =
              .ok outcome ⟨t, w.sent, w.removals ++ [removalFrom site disk path form], events⟩ := by
            simp only [remove, hr]
          rw [bind_of_ok hok]
          cases hs : outcome.succeeded with
          | true => exact .done hpresent hr hs
          | false => exact .failed hpresent hr fun _ hsame => by cases hsame; exact hs
    cases present with
    | true => exact hrun w.events
    | false =>
      rw [hlenient]
      exact hrun _

/-! ## Up to a failure -/

/-- The paths that are removed from some disks. -/
def targets (site : Site) (mounts : Text → Path) (path : Text) (form : CommandForm)
    (disks : List Disk) : List Path :=
  disks.map fun disk => (removalFrom site disk path form).target mounts

/-- When the removal from some disks ends well, all paths are removed. -/
theorem removeFromDisks_removes (hr : site.remover.Removes mounts)
    (hlenient : site.settings.disks.lenient = true)
    (h : removeFromDisks site path form disks w = .ok () v) :
    SameView ((targets site mounts path form disks).foldl FileTree.without w.tree) v.tree := by
  induction disks generalizing w with
  | nil =>
    cases h
    exact .refl _
  | cons disk more ih =>
    obtain ⟨_, u, hdisk, h⟩ := ok_of_bind h
    have hrun := diskRun hlenient disk path form w
    rw [hdisk] at hrun
    cases hrun with
    | done _ hr' hs => exact ((hr.succeeds _ _ _ _ _ hr' hs).without_all _).trans (ih h)

/-- When the removal from some disks stops, the tree is midway through the paths. -/
theorem removeFromDisks_midway (hr : site.remover.Removes mounts)
    (hlenient : site.settings.disks.lenient = true)
    (h : removeFromDisks site path form disks w = .error e v) :
    Midway (targets site mounts path form disks) w.tree v.tree := by
  induction disks generalizing w with
  | nil => cases h
  | cons disk more ih =>
    have hrun := diskRun hlenient disk path form w
    rcases error_of_bind h with hdisk | ⟨_, u, hdisk, h⟩
    · rw [hdisk] at hrun
      cases hrun with
      | unknown _ => exact .start (.refl _)
      | failed _ hr' hs => exact .partly (hr.fails _ _ _ _ _ hr' hs)
    · rw [hdisk] at hrun
      cases hrun with
      | done _ hr' hs =>
        exact .later ((ih h).congr (hr.succeeds _ _ _ _ _ hr' hs).symm (.refl _))

/-! ## Once more -/

/-- Midway through the paths, the removal goes as it would have gone from the start. -/
theorem removeFromDisks_resumed (hr : site.remover.Removes mounts) (hblind : site.remover.Blind)
    (hlenient : site.settings.disks.lenient = true)
    (h : removeFromDisks site path form disks w = .ok () v)
    (hloop : ∀ p ∈ targets site mounts path form disks, w.tree.Loopless p)
    (hmidway : Midway (targets site mounts path form disks) w.tree u.tree)
    (hsent : u.sent = w.sent) (hremovals : u.removals = w.removals) :
    ∃ v', removeFromDisks site path form disks u = .ok () v' ∧ Alike SameView v v' := by
  induction disks generalizing w u with
  | nil =>
    cases h
    cases hmidway with
    | start hsame => exact ⟨u, rfl, hsent, hremovals, hsame⟩
  | cons disk more ih =>
    obtain ⟨hloop, hmore⟩ := List.forall_mem_cons.1 hloop
    obtain ⟨_, w₁, hdisk, h⟩ := ok_of_bind h
    have hrun := diskRun hlenient disk path form w
    rw [hdisk] at hrun
    cases hrun with
    | @done present outcome t events hpresent hr' hs =>
      -- the path can be inspected again, and the remover succeeds again
      obtain ⟨present', hpresent'⟩ := hmidway.within.isPresent_of_ok hpresent
      have houtcome := hblind w.removals (removalFrom site disk path form) w.tree u.tree
      rw [hr', ← hremovals] at houtcome
      have hrun' := diskRun hlenient disk path form u
      generalize hend : removeFromDisk site disk path form u = ending at hrun'
      cases hrun' with
      | unknown hnot => exact absurd hpresent' (hnot present')
      | failed _ hr'' hfails =>
        rw [hr''] at houtcome
        rw [hfails outcome houtcome] at hs
        cases hs
      | @done _ outcome' t' events' _ hr'' hs' =>
        have ht := hr.succeeds _ _ _ _ _ hr' hs
        have ht' := hr.succeeds _ _ _ _ _ hr'' hs'
        have hlater : Midway (targets site mounts path form more) t t' :=
          (hmidway.redo hloop).congr ht ht'
        have hwithin : Within t w.tree := ht.within.trans (within_without _ _)
        obtain ⟨v', hrest, halike⟩ := ih (u := ⟨t', u.sent, _, events'⟩) h
          (fun p hp => (hmore p hp).within hwithin) hlater hsent
          (congrArg (· ++ [removalFrom site disk path form]) hremovals)
        exact ⟨v', (bind_of_ok hend).trans hrest, halike⟩

end Session

end CatalogAdmin
