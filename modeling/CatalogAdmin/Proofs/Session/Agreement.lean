import CatalogAdmin.Coordination
import CatalogAdmin.Disk.Removal
import CatalogAdmin.Proofs.Session.Runs

/-!
# Two runs side by side

Two computations are run from related states. `Follows Q P x x'` says that the second run ends as the
first one does, with the same answer or the same error, in states that are related again; or it fails in
a state that `P` allows. With nothing allowed this is agreement of the two runs. With something allowed it
compares a run with one that is cut short by a failure which the other does not have.

Results:
1. `Follows.bind`: runs that follow each other step by step follow each other.
2. `AskAlike`: where two sites ask their servers alike, all that is asked of a server is asked alike, from
   whether a table is attached to the drop of a replica.
-/

namespace CatalogAdmin.Session

section Steps

variable {ε ε' σ α β : Type} {Q : σ → σ → Prop} {P : σ → Prop}

/-- The second run ends as the first does, or fails where it may. -/
inductive Agree (Q : σ → σ → Prop) (P : σ → Prop) :
    EStateM.Result ε σ α → EStateM.Result ε σ α → Prop
  | ok {a : α} {s s' : σ} : Q s s' → Agree Q P (.ok a s) (.ok a s')
  | error {e : ε} {s s' : σ} : Q s s' → Agree Q P (.error e s) (.error e s')
  | stopped {r : EStateM.Result ε σ α} {e : ε} {s' : σ} : P s' → Agree Q P r (.error e s')

/-- From related states the second computation ends as the first does, or fails where it may. -/
def Follows (Q : σ → σ → Prop) (P : σ → Prop) (x x' : EStateM ε σ α) : Prop :=
  ∀ s s', Q s s' → Agree Q P (x s) (x' s')

namespace Follows

variable {x x' : EStateM ε σ α} {f f' : α → EStateM ε σ β} {a a' : α} {e : ε} {s s' t t' : σ}

/-! ## What is known of the second run -/

/-- How two runs end that follow each other. -/
theorem cases (h : Follows Q P x x') (hs : Q s s') :
    (∃ a t t', x s = .ok a t ∧ x' s' = .ok a t' ∧ Q t t') ∨
    (∃ e t t', x s = .error e t ∧ x' s' = .error e t' ∧ Q t t') ∨
    ∃ e t', x' s' = .error e t' ∧ P t' := by
  have hagree := h s s' hs
  generalize hx : x s = r, hx' : x' s' = r' at hagree
  cases hagree with
  | ok ht => exact .inl ⟨_, _, _, rfl, rfl, ht⟩
  | error ht => exact .inr (.inl ⟨_, _, _, rfl, rfl, ht⟩)
  | stopped hp => exact .inr (.inr ⟨_, _, rfl, hp⟩)

theorem of_ok (h : Follows Q P x x') (hs : Q s s') (hx : x s = .ok a t) :
    (∃ t', x' s' = .ok a t' ∧ Q t t') ∨ ∃ e t', x' s' = .error e t' ∧ P t' := by
  rcases h.cases hs with ⟨_, _, t', hrun, hrun', ht⟩ | ⟨_, _, _, hrun, -, -⟩ | hstopped
  · cases hx.symm.trans hrun
    exact .inl ⟨t', hrun', ht⟩
  · cases hx.symm.trans hrun
  · exact .inr hstopped

/-- Where nothing is allowed to fail, a run goes well if the other does. -/
theorem ok (h : Follows Q (fun _ => False) x x') (hs : Q s s') (hx : x s = .ok a t) :
    ∃ t', x' s' = .ok a t' ∧ Q t t' :=
  (h.of_ok hs hx).resolve_right fun ⟨_, _, _, hp⟩ => hp

theorem of_ok_ok (h : Follows Q P x x') (hs : Q s s') (hx : x s = .ok a t)
    (hx' : x' s' = .ok a' t') : a' = a ∧ Q t t' := by
  rcases h.of_ok hs hx with ⟨_, hrun, ht⟩ | ⟨_, _, hrun, -⟩
  · cases hx'.symm.trans hrun
    exact ⟨rfl, ht⟩
  · cases hx'.symm.trans hrun

theorem of_ok_error (h : Follows Q P x x') (hs : Q s s') (hx : x s = .ok a t)
    (hx' : x' s' = .error e t') : P t' := by
  rcases h.of_ok hs hx with ⟨_, hrun, -⟩ | ⟨_, _, hrun, hp⟩
  · cases hx'.symm.trans hrun
  · cases hx'.symm.trans hrun
    exact hp

/-! ## Steps -/

theorem pure (a : α) : Follows Q P (pure a : EStateM ε σ α) (pure a) := fun _ _ hs => .ok hs

theorem throw (e : ε) : Follows Q P (throw e : EStateM ε σ α) (throw e) := fun _ _ hs => .error hs

/-- Runs that follow each other step by step follow each other. -/
theorem bind (hx : Follows Q P x x') (hf : ∀ a, Follows Q P (f a) (f' a)) :
    Follows Q P (x >>= f) (x' >>= f') := by
  intro s s' hs
  rcases hx.cases hs with ⟨a, t, t', hrun, hrun', ht⟩ | ⟨e, t, t', hrun, hrun', ht⟩ | ⟨e, t', hrun', hp⟩
  · rw [bind_of_ok hrun, bind_of_ok hrun']
    exact hf a t t' ht
  · rw [bind_of_error hrun, bind_of_error hrun']
    exact .error ht
  · rw [bind_of_error hrun']
    exact .stopped hp

theorem adaptExcept (g : ε → ε') (hx : Follows Q P x x') :
    Follows Q P (x.adaptExcept g) (x'.adaptExcept g) := by
  intro s s' hs
  rcases hx.cases hs with ⟨a, t, t', hrun, hrun', ht⟩ | ⟨e, t, t', hrun, hrun', ht⟩ | ⟨e, t', hrun', hp⟩
  · rw [adaptExcept_of_ok hrun, adaptExcept_of_ok hrun']
    exact .ok ht
  · rw [adaptExcept_of_error hrun, adaptExcept_of_error hrun']
    exact .error ht
  · rw [adaptExcept_of_error hrun']
    exact .stopped hp

theorem ite {c : Prop} [Decidable c] {y y' : EStateM ε σ α} (hx : Follows Q P x x')
    (hy : Follows Q P y y') : Follows Q P (if c then x else y) (if c then x' else y') := by
  split
  · exact hx
  · exact hy

/-- A check that both runs make objects in both or in none. -/
theorem check {c : Prop} [Decidable c] {g g' : Unit → EStateM ε σ β} (hg : Follows Q P (g ()) (g' ())) :
    Follows Q P (if c then MonadExcept.throw e >>= g else g ())
      (if c then MonadExcept.throw e >>= g' else g' ()) :=
  .ite (fun _ _ hs => .error hs) hg

end Follows

end Steps

/-! ## Asking servers -/

variable {Q : World → World → Prop} {P : World → Prop} {ε α : Type}

theorem Follows.look {f f' : FileTree → Except ε α} (h : ∀ w w', Q w w' → f' w'.tree = f w.tree) :
    Follows Q P (Session.look f) (Session.look f') := by
  intro w w' hw
  have hsame := h w w' hw
  cases hf : f w.tree with
  | ok a =>
    rw [look_of_ok hf, look_of_ok (hsame.trans hf)]
    exact .ok hw
  | error e =>
    rw [look_of_error hf, look_of_error (hsame.trans hf)]
    exact .error hw

/-- Two sites of the same settings ask their servers alike. -/
structure AskAlike (Q : World → World → Prop) (P : World → Prop) (site site' : Site) : Prop where
  settings : site'.settings = site.settings
  send : ∀ s, Follows Q P (Session.send site.server s) (Session.send site'.server s)

namespace AskAlike

variable {site site' : Site} (h : AskAlike Q P site site')
include h

theorem fetchAs (read : Row → Option α) (q : Query) :
    Follows Q P (Session.fetchAs site.server read q) (Session.fetchAs site'.server read q) := by
  refine (h.send ⟨.fetch, q⟩).bind fun rows => ?_
  cases readRows read rows with
  | ok values => exact .pure values
  | error e => exact .throw e

theorem execute (q : Query) :
    Follows Q P (Session.execute site.server q) (Session.execute site'.server q) :=
  (h.send ⟨.execute, q⟩).bind fun _ => .pure ()

theorem isAttached (table : TableName) :
    Follows Q P (Session.isAttached site table) (Session.isAttached site' table) := by
  unfold Session.isAttached tableQuery
  rw [h.settings]
  exact ((h.send _).adaptExcept _).bind fun rows => .pure _

theorem listDisks : Follows Q P (Session.listDisks site) (Session.listDisks site') := by
  unfold Session.listDisks
  rw [h.settings]
  refine ((h.fetchAs _ _).adaptExcept _).bind fun rows => ?_
  split
  · exact .pure _
  · exact .throw _

theorem commandForm : Follows Q P (Session.commandForm site) (Session.commandForm site') := by
  unfold Session.commandForm serverVersion
  rw [h.settings]
  refine (Follows.adaptExcept _ ((h.fetchAs _ _).bind fun rows => ?_)).bind fun version => .pure _
  split
  · exact .throw _
  · split
    · exact .pure _
    · exact .throw _

theorem expandFor (template : Text) (table : TableName) (uuid : Uuid) :
    Follows Q P (Session.expandFor site template table uuid)
      (Session.expandFor site' template table uuid) := by
  unfold Session.expandFor placeholderValues
  rw [h.settings]
  split
  · refine ((h.fetchAs _ _).adaptExcept _).bind fun values => ?_
    split
    · exact .pure _
    · exact .throw _
  · exact .pure _

theorem sharedId (path : Text) :
    Follows Q P (Session.sharedId site path) (Session.sharedId site' path) := by
  unfold Session.sharedId
  rw [h.settings]
  refine ((h.fetchAs _ _).adaptExcept _).bind fun values => ?_
  split
  · exact .throw _
  · split
    · exact .pure _
    · exact .throw _

theorem dropReplica (cleanup : ReplicaCleanup) :
    Follows Q P (Session.dropReplica site cleanup) (Session.dropReplica site' cleanup) := by
  unfold Session.dropReplica
  rw [h.settings]
  split
  · exact .throw _
  · exact (h.execute _).adaptExcept _

end AskAlike

/-! ## Runs on related trees -/

/-- Two worlds with the same queries sent and the same removals asked for, and with related trees. -/
structure Alike (R : FileTree → FileTree → Prop) (w w' : World) : Prop where
  sent : w'.sent = w.sent
  removals : w'.removals = w.removals
  tree : R w.tree w'.tree

namespace Alike

variable {R : FileTree → FileTree → Prop} {w w' : World}

theorem asking (h : Alike R w w') (s : Sent) : Alike R (w.asking s) (w'.asking s) :=
  ⟨congrArg (· ++ [s]) h.sent, h.removals, h.tree⟩

end Alike

section Alike

variable {R : FileTree → FileTree → Prop}
  {answers answers' : List Sent → Sent → Except ClientError (List Row)} {settings : Settings}
  {remover remover' : Remover}

/-- What two servers answer alike is asked of them alike, and where the second one fails, the tree is as
it was. -/
theorem askAlike_of_failing (hP : ∀ w w', Alike R w w' → P w')
    (hanswers : ∀ before s, answers' before s = answers before s ∨ ∃ e, answers' before s = .error e) :
    AskAlike (Alike R) P ⟨settings, .ofAnswers answers, remover⟩
      ⟨settings, .ofAnswers answers', remover'⟩ where
  settings := rfl
  send s w w' hw := by
    rw [send_ofAnswers, send_ofAnswers, hw.sent]
    rcases hanswers w.sent s with hsame | ⟨e, hfails⟩
    · rw [hsame]
      cases answers w.sent s with
      | ok rows => exact .ok (hw.asking s)
      | error e => exact .error (hw.asking s)
    · rw [hfails]
      exact .stopped (hP _ _ (hw.asking s))

theorem askAlike (R : FileTree → FileTree → Prop) (P : World → Prop) :
    AskAlike (Alike R) P ⟨settings, .ofAnswers answers, remover⟩
      ⟨settings, .ofAnswers answers, remover'⟩ where
  settings := rfl
  send s w w' hw := by
    rw [send_ofAnswers, send_ofAnswers, hw.sent]
    cases answers w.sent s with
    | ok rows => exact .ok (hw.asking s)
    | error e => exact .error (hw.asking s)

theorem Follows.onTree {x x' : EStateM ε FileTree α} (h : Follows R (fun _ => False) x x') :
    Follows (Alike R) P (Session.onTree x) (Session.onTree x') := by
  intro w w' hw
  rcases h.cases hw.tree with ⟨a, t, t', hrun, hrun', ht⟩ | ⟨e, t, t', hrun, hrun', ht⟩ | ⟨_, _, _, hp⟩
  · rw [onTree_of_ok hrun, onTree_of_ok hrun']
    exact .ok ⟨hw.sent, hw.removals, ht⟩
  · rw [onTree_of_error hrun, onTree_of_error hrun']
    exact .error ⟨hw.sent, hw.removals, ht⟩
  · exact hp.elim

end Alike

end CatalogAdmin.Session
