import Mathlib.Data.Nat.Bitwise
import CatalogAdmin.Proofs.FileTree.Locating
import CatalogAdmin.Proofs.Session.Runs

/-!
# Files replaced through others

A file is replaced in steps, each of which may fail: a new file is made beside it, filled, given the
permission bits and the owner of the old one, and put in its place. What is done with the new file can do
anything to that file, and nothing to the tree.

Results:
1. `replaceThrough_error`: where a step fails the new file is taken away, and the tree is as it was.
2. `replaceText_cases`: where none fails, the tree differs in the file alone (`rewritten`).
3. `replaceText_of_room`: no step fails where a file is found that has room beside it (`RoomBeside`).
-/

namespace CatalogAdmin.FileTree

open Session

variable {t t' : FileTree} {p temp : Path} {l place : Location} {old made : File}

/-! ## The new file -/

/-- A new file that is taken away leaves the tree as it was. -/
theorem unlink_put (hfree : t.get? l = none) (made : File) : (t.put l (.file made)).unlink l = t := by
  have habsent : ∀ e ∈ t.entries, e.1 ≠ l := by
    have hlookup : t.entries.lookup l = none := by
      rwa [get?, if_neg (ne_nil_of_free hfree)] at hfree
    intro e he hsame
    simpa [hsame] using List.lookup_eq_none_iff.1 hlookup e he
  have hall : t.entries.filter (fun e => decide (e.1 ≠ l)) = t.entries :=
    List.filter_eq_self.2 fun e he => decide_eq_true (habsent e he)
  rw [put, unlink, List.filter_cons_of_neg (by simp)]
  simp only [hall]

/-- A file with another text, as it stands in the place of the old one. It is made by user 0 of group 0,
and changes its owner if the old one has another owner or group. -/
def rewritten (old : File) (text : Text) : File :=
  { content := .text text,
    mode := if old.owner = 0 ∧ old.group = 0 then old.mode else modeForNewOwner old.mode,
    owner := old.owner, group := old.group }

/-- A new file ends up as what the old one is replaced by. -/
theorem takeOver_freshFile (text : Text) (old : File) :
    takeOver text old freshFile = .ok () (rewritten old text) := by
  show EStateM.Result.ok () (if ((0, 0) : Nat × Nat) = (old.owner, old.group) then
      (⟨.text text, old.mode, 0, 0⟩ : File)
    else ⟨.text text, modeForNewOwner old.mode, old.owner, old.group⟩) = _
  rw [rewritten]
  by_cases hsame : old.owner = 0 ∧ old.group = 0
  · simp [hsame]
  · have hne : ((0, 0) : Nat × Nat) ≠ (old.owner, old.group) := by
      intro h
      obtain ⟨howner, hgroup⟩ := Prod.mk.inj h
      exact hsame ⟨howner.symm, hgroup.symm⟩
    rw [if_neg hne, if_neg hsame]

/-! ## Permission bits -/

theorem and_two_pow_cases (m k : Nat) :
    m &&& 2 ^ k = 0 ∧ m / 2 ^ k % 2 = 0 ∨ m &&& 2 ^ k = 2 ^ k ∧ m / 2 ^ k % 2 = 1 := by
  rw [Nat.and_two_pow, Nat.testBit_eq_decide_div_mod_eq]
  rcases Nat.mod_two_eq_zero_or_one (m / 2 ^ k) with h | h <;> simp [h]

/-- A change of owner takes no bits but those that lend the owner's or the group's rights. -/
theorem modeForNewOwner_or (mode : Nat) : modeForNewOwner mode ||| 0o6000 = mode ||| 0o6000 := by
  have hkept : modeForNewOwner mode % 2 ^ 10 = mode % 2 ^ 10 ∧
      modeForNewOwner mode / 2 ^ 12 = mode / 2 ^ 12 := by
    unfold modeForNewOwner
    have huser := and_two_pow_cases mode 11
    have hgroup := and_two_pow_cases (mode - (mode &&& 2 ^ 11)) 10
    dsimp only [Nat.reducePow] at huser hgroup ⊢
    split <;> omega
  refine Nat.eq_of_testBit_eq fun i => ?_
  rw [Nat.testBit_or, Nat.testBit_or]
  by_cases hlow : i < 10
  · have hbit := congrArg (Nat.testBit · i) hkept.1
    simp only [Nat.testBit_mod_two_pow, hlow, decide_true, Bool.true_and] at hbit
    rw [hbit]
  by_cases hhigh : 12 ≤ i
  · obtain ⟨j, rfl⟩ := Nat.exists_eq_add_of_le' hhigh
    rw [← Nat.testBit_div_two_pow, hkept.2, Nat.testBit_div_two_pow]
  · -- the two bits between are set on both sides
    have hset : Nat.testBit 0o6000 i = true := by
      obtain rfl | rfl : i = 10 ∨ i = 11 := by omega
      · decide
      · decide
    rw [hset, Bool.or_true, Bool.or_true]

theorem modeForNewOwner_eq_self {mode : Nat} (h : mode &&& 0o6000 = 0) : modeForNewOwner mode = mode := by
  have hpart : ∀ bits, bits &&& 0o6000 = bits → mode &&& bits = 0 := fun bits hbits => by
    rw [← hbits, Nat.and_comm bits, ← Nat.and_assoc, h, Nat.zero_and]
  unfold modeForNewOwner
  rw [hpart 0o4000 (by decide), Nat.sub_zero]
  dsimp only
  rw [hpart 0o2000 (by decide), Nat.sub_zero, ite_self]

/-- The same file, but that nothing is said of the bits that lend its owner's and its group's rights, where
it has any and is not both of user 0 and of group 0. -/
structure SameButLent (f f' : File) : Prop where
  content : f'.content = f.content
  owner : f'.owner = f.owner
  group : f'.group = f.group
  mode : f'.mode ||| 0o6000 = f.mode ||| 0o6000
  same : f.owner = 0 ∧ f.group = 0 ∨ f.mode &&& 0o6000 = 0 → f' = f

/-- A file that gets another text and then its own again is the same. -/
theorem sameButLent_rewritten {text changed : Text} (hcontent : old.content = .text text) :
    SameButLent old (rewritten (rewritten old changed) text) := by
  obtain ⟨content, mode, owner, group⟩ := old
  obtain rfl : content = .text text := hcontent
  unfold rewritten
  refine ⟨rfl, rfl, rfl, ?_, fun hplain => ?_⟩
  · dsimp only
    split
    · rfl
    · rw [modeForNewOwner_or, modeForNewOwner_or]
  · dsimp only at hplain ⊢
    by_cases hroot : owner = 0 ∧ group = 0
    · simp only [hroot, and_self, if_true]
    · have hmode := modeForNewOwner_eq_self (hplain.resolve_left hroot)
      simp only [hroot, if_false, hmode]

/-! ## Replacing -/

/-- How replacing a file through another one ends: the tree is as it was, or the new file stands where the
path led before its last link, as the work left it. -/
theorem replaceThrough_cases (temp p : Path) (work : File → EStateM IoError File Unit) (t : FileTree) :
    (∃ e, replaceThrough temp p work t = .error e t) ∨
    ∃ old made place, t.stat true p = .ok (.file old) ∧ t.locate false p = .ok place ∧
      work old freshFile = .ok () made ∧
      replaceThrough temp p work t = .ok () (t.put place (.file made)) := by
  unfold replaceThrough
  rw [bind_of_ok (get_eq t)]
  cases hstat : t.stat true p with
  | error cause => exact .inl ⟨cause, rfl⟩
  | ok node =>
  cases node with
  | directory | link => exact .inl ⟨.isADirectory, by cases t.locate false temp <;> rfl⟩
  | file old =>
  cases hl : t.locate false temp with
  | error cause => exact .inl ⟨cause, rfl⟩
  | ok l =>
  simp only
  split
  · exact .inl ⟨.alreadyExists, rfl⟩
  · next hsome =>
    have hfree : t.get? l = none := by simpa using hsome
    cases hwork : work old freshFile with
    | error cause made =>
      refine .inl ⟨cause, ?_⟩
      exact congrArg (EStateM.Result.error cause) (unlink_put hfree made)
    | ok _ made =>
      obtain ⟨goal, hgoal, -⟩ := exists_of_stat hstat
      obtain ⟨place, hplace⟩ := exists_place hgoal
      refine .inr ⟨old, made, place, rfl, hplace, hwork, ?_⟩
      simp only [locate_put_free hfree _ hplace]
      exact congrArg (fun tree => EStateM.Result.ok () (put tree place (.file made)))
        (unlink_put hfree made)

/-- Where a file could not be replaced, no new file is left. -/
theorem replaceThrough_error {work : File → EStateM IoError File Unit} {e : IoError}
    (h : replaceThrough temp p work t = .error e t') : t' = t := by
  rcases replaceThrough_cases temp p work t with ⟨_, hrun⟩ | ⟨_, _, _, -, -, -, hrun⟩
  · cases h.symm.trans hrun
    rfl
  · cases h.symm.trans hrun

theorem replaceText_eq (p : Path) (text : Text) (t : FileTree) :
    replaceText p text t = replaceThrough (t.beside p) p (takeOver text) t := rfl

/-- Replacing a text fails and changes nothing, or the file with that text stands where the path led
before its last link. -/
theorem replaceText_cases (p : Path) (text : Text) (t : FileTree) :
    (∃ e, replaceText p text t = .error e t) ∨
    ∃ old place, t.stat true p = .ok (.file old) ∧ t.locate false p = .ok place ∧
      replaceText p text t = .ok () (t.put place (.file (rewritten old text))) := by
  rcases replaceThrough_cases (t.beside p) p (takeOver text) t with
    hfail | ⟨old, made, place, hold, hplace, hwork, hrun⟩
  · exact .inl hfail
  · cases (takeOver_freshFile text old).symm.trans hwork
    exact .inr ⟨old, place, hold, hplace, hrun⟩

/-- A new file can be made beside what a path names: its own path is not too long, and nothing has its
name. -/
def RoomBeside (t : FileTree) (p : Path) : Prop :=
  ∃ l, t.locate false (t.beside p) = .ok l ∧ t.get? l = none

instance (t : FileTree) (p : Path) : Decidable (t.RoomBeside p) :=
  match h : t.locate false (t.beside p) with
  | .ok l => decidable_of_iff (t.get? l = none)
      ⟨fun hg => ⟨l, h, hg⟩, fun ⟨_, hl, hg⟩ => by cases h.symm.trans hl; exact hg⟩
  | .error _ => .isFalse fun ⟨_, hl, _⟩ => by cases h.symm.trans hl

/-- Where nothing has the name of the new file, and the work on it is done, a file is replaced. -/
theorem replaceThrough_of_free {work : File → EStateM IoError File Unit}
    (h : t.stat true p = .ok (.file old)) (hplace : t.locate false p = .ok place)
    (hl : t.locate false temp = .ok l) (hfree : t.get? l = none)
    (hwork : work old freshFile = .ok () made) :
    replaceThrough temp p work t = .ok () (t.put place (.file made)) := by
  unfold replaceThrough
  rw [bind_of_ok (get_eq t)]
  simp only [h, hl, hfree, hwork, locate_put_free hfree _ hplace]
  exact congrArg (fun tree => EStateM.Result.ok () (put tree place (.file made)))
    (unlink_put hfree _)

/-- Under which free name the new file is made makes no difference. -/
theorem replaceThrough_congr {temp' : Path} {l' : Location} (hl : t.locate false temp = .ok l)
    (hfree : t.get? l = none) (hl' : t.locate false temp' = .ok l') (hfree' : t.get? l' = none)
    (p : Path) (work : File → EStateM IoError File Unit) :
    replaceThrough temp p work t = replaceThrough temp' p work t := by
  cases hstat : t.stat true p with
  | error cause =>
    unfold replaceThrough
    rw [bind_of_ok (get_eq t), bind_of_ok (get_eq t)]
    simp only [hstat]
  | ok node =>
  cases node with
  | directory | link =>
    unfold replaceThrough
    rw [bind_of_ok (get_eq t), bind_of_ok (get_eq t)]
    simp only [hstat, hl, hl']
  | file old =>
  cases hwork : work old freshFile with
  | ok _ made =>
    obtain ⟨goal, hgoal, -⟩ := exists_of_stat hstat
    obtain ⟨place, hplace⟩ := exists_place hgoal
    rw [replaceThrough_of_free hstat hplace hl hfree hwork,
      replaceThrough_of_free hstat hplace hl' hfree' hwork]
  | error cause made =>
    unfold replaceThrough
    rw [bind_of_ok (get_eq t), bind_of_ok (get_eq t)]
    simp only [hstat, hl, hl', hfree, hfree', hwork]
    exact congrArg (EStateM.Result.error cause)
      ((unlink_put hfree made).trans (unlink_put hfree' made).symm)

/-- With room beside it a file is replaced. -/
theorem replaceText_of_room (h : t.stat true p = .ok (.file old)) (hplace : t.locate false p = .ok place)
    (hroom : t.RoomBeside p) (text : Text) :
    replaceText p text t = .ok () (t.put place (.file (rewritten old text))) := by
  obtain ⟨l, hl, hfree⟩ := hroom
  exact replaceThrough_of_free h hplace hl hfree (takeOver_freshFile text old)

/-- Why there is no room beside a path. -/
def noRoomCause (t : FileTree) (p : Path) : IoError :=
  match t.locate false (t.beside p) with
  | .error e => e
  | .ok _ => .alreadyExists

/-- Without room beside it a file is not replaced, and the cause does not depend on the text. -/
theorem replaceText_of_no_room (h : t.stat true p = .ok (.file old)) (hroom : ¬ t.RoomBeside p)
    (text : Text) : replaceText p text t = .error (t.noRoomCause p) t := by
  rw [replaceText_eq]
  unfold replaceThrough noRoomCause
  rw [bind_of_ok (get_eq t)]
  cases hl : t.locate false (t.beside p) with
  | error e => simp only [h]; rfl
  | ok l =>
    have hsome : (t.get? l).isSome = true := by
      cases hg : t.get? l with
      | some => rfl
      | none => exact absurd ⟨l, hl, hg⟩ hroom
    simp only [h, hsome, if_true]
    rfl

/-- Two trees in which the same can be made beside a path. -/
structure SameBeside (t t' : FileTree) (p : Path) : Prop where
  located : t.locate false (t.beside p) = t'.locate false (t'.beside p)
  free : ∀ l, t.locate false (t.beside p) = .ok l → (t.get? l = none ↔ t'.get? l = none)

theorem SameBeside.trans {t₁ t₂ t₃ : FileTree} (h : t₁.SameBeside t₂ p) (h' : t₂.SameBeside t₃ p) :
    t₁.SameBeside t₃ p :=
  ⟨h.located.trans h'.located, fun l hl => (h.free l hl).trans (h'.free l (h.located ▸ hl))⟩

theorem SameBeside.roomBeside_iff (h : t.SameBeside t' p) : t.RoomBeside p ↔ t'.RoomBeside p :=
  exists_congr fun l => by
    rw [← h.located]
    exact and_congr_right (h.free l)

theorem SameBeside.noRoomCause_eq (h : t.SameBeside t' p) : t.noRoomCause p = t'.noRoomCause p := by
  unfold noRoomCause
  rw [h.located]

end CatalogAdmin.FileTree
