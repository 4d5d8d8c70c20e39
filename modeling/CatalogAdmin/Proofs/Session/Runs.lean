import CatalogAdmin.Server.Tables

/-!
# Runs of sessions

A run ends with an answer or an error, and either way it leaves a world. What a run went through is
read off its end step by step: `ok_of_bind` and `error_of_bind` take a run of two steps apart.

What a server is sent does not depend on what it does (`sent_send`). Beyond that, the servers here
answer and do nothing else (`Server.ofAnswers`). Against such a server a query only lengthens the
record of what was sent, and `World.Got` says which rows a run got for which query.

Results:
1. `Keeps.bind`: what each step of a run keeps, the run keeps.
2. `fetchAs_ofAnswers`, `execute_ofAnswers`: how a query ends, and the world it leaves.
3. `Got.extend`: what a run got, it got also as part of a longer run.
-/

namespace CatalogAdmin

namespace Session

section Steps

variable {ε ε' σ α β : Type} {x : EStateM ε σ α} {f : α → EStateM ε σ β} {s s' : σ}

/-! ## Taking runs apart -/

theorem bind_of_ok {a : α} (h : x s = .ok a s') : (x >>= f) s = f a s' := by
  simp only [bind, EStateM.bind, h]

theorem bind_of_error {e : ε} (h : x s = .error e s') : (x >>= f) s = .error e s' := by
  simp only [bind, EStateM.bind, h]

/-- A run of two steps that ends well went well in both. -/
theorem ok_of_bind {b : β} (h : (x >>= f) s = .ok b s') :
    ∃ a t, x s = .ok a t ∧ f a t = .ok b s' := by
  cases hx : x s with
  | ok a t => exact ⟨a, t, rfl, by rwa [bind_of_ok hx] at h⟩
  | error e t => rw [bind_of_error hx] at h; cases h

/-- A run of two steps that fails fails in the first, or in the second after the first went well. -/
theorem error_of_bind {e : ε} (h : (x >>= f) s = .error e s') :
    x s = .error e s' ∨ ∃ a t, x s = .ok a t ∧ f a t = .error e s' := by
  cases hx : x s with
  | ok a t => exact .inr ⟨a, t, rfl, by rwa [bind_of_ok hx] at h⟩
  | error e' t => rw [bind_of_error hx] at h; cases h; exact .inl rfl

theorem get_eq (s : σ) : (get : EStateM ε σ σ) s = .ok s s := rfl

theorem tryCatch_of_ok {handle : ε → EStateM ε σ α} {a : α} (h : x s = .ok a s') :
    tryCatch x handle s = .ok a s' := by
  show EStateM.tryCatch x handle s = _
  delta EStateM.tryCatch
  dsimp only
  rw [h]

theorem tryCatch_of_error {handle : ε → EStateM ε σ α} {e : ε} (h : x s = .error e s') :
    tryCatch x handle s = handle e s' := by
  show EStateM.tryCatch x handle s = _
  delta EStateM.tryCatch
  dsimp only
  rw [h]
  rfl

theorem adaptExcept_of_ok {g : ε → ε'} {a : α} (h : x s = .ok a s') :
    x.adaptExcept g s = .ok a s' := by
  simp only [EStateM.adaptExcept, h]

theorem adaptExcept_of_error {g : ε → ε'} {e : ε} (h : x s = .error e s') :
    x.adaptExcept g s = .error (g e) s' := by
  simp only [EStateM.adaptExcept, h]

theorem ok_of_adaptExcept {g : ε → ε'} {a : α} (h : x.adaptExcept g s = .ok a s') :
    x s = .ok a s' := by
  cases hx : x s with
  | ok b t => rw [adaptExcept_of_ok hx] at h; cases h; rfl
  | error e t => rw [adaptExcept_of_error hx] at h; cases h

theorem error_of_adaptExcept {g : ε → ε'} {e : ε'} (h : x.adaptExcept g s = .error e s') :
    ∃ e₀, x s = .error e₀ s' ∧ e = g e₀ := by
  cases hx : x s with
  | ok b t => rw [adaptExcept_of_ok hx] at h; cases h
  | error e₀ t => rw [adaptExcept_of_error hx] at h; cases h; exact ⟨e₀, rfl, rfl⟩

/-- A run past a check found nothing to object to. -/
theorem ok_of_check {c : Prop} [Decidable c] {e : ε} {g : Unit → EStateM ε σ β} {b : β}
    (h : (if c then throw e >>= g else g ()) s = .ok b s') : ¬ c ∧ g () s = .ok b s' := by
  by_cases hc : c
  · rw [if_pos hc] at h; cases h
  · rw [if_neg hc] at h; exact ⟨hc, h⟩

/-! ## What runs keep -/

/-- The state at the end of a run. -/
def endState : EStateM.Result ε σ α → σ
  | .ok _ s => s
  | .error _ s => s

/-- The state a run leaves. -/
def after (x : EStateM ε σ α) (s : σ) : σ := endState (x s)

theorem after_of_ok {a : α} (h : x s = .ok a s') : after x s = s' := by
  rw [after, h, endState]

theorem after_of_error {e : ε} (h : x s = .error e s') : after x s = s' := by
  rw [after, h, endState]

theorem after_bind_of_ok {a : α} (h : x s = .ok a s') : after (x >>= f) s = after (f a) s' := by
  simp only [after, bind_of_ok h]

theorem after_adaptExcept (g : ε → ε') (x : EStateM ε σ α) (s : σ) :
    after (x.adaptExcept g) s = after x s := by
  cases hx : x s with
  | ok a t => rw [after_of_ok hx, after_of_ok (adaptExcept_of_ok hx)]
  | error e t => rw [after_of_error hx, after_of_error (adaptExcept_of_error hx)]

/-- Every run relates the state it starts from to the state it leaves. -/
def Keeps (R : σ → σ → Prop) (x : EStateM ε σ α) : Prop := ∀ s, R s (after x s)

variable {R : σ → σ → Prop}

namespace Keeps

theorem ok (h : Keeps R x) {a : α} (hx : x s = .ok a s') : R s s' := after_of_ok hx ▸ h s

theorem error (h : Keeps R x) {e : ε} (hx : x s = .error e s') : R s s' := after_of_error hx ▸ h s

theorem pure (refl : ∀ s, R s s) (a : α) : Keeps R (pure a : EStateM ε σ α) := refl

theorem throw (refl : ∀ s, R s s) (e : ε) : Keeps R (throw e : EStateM ε σ α) := refl

/-- What each step of a run keeps, the run keeps. -/
theorem bind (trans : ∀ {a b c}, R a b → R b c → R a c) (hx : Keeps R x)
    (hf : ∀ a, Keeps R (f a)) : Keeps R (x >>= f) := by
  intro s
  cases hs : x s with
  | ok a t =>
    rw [after_bind_of_ok hs]
    exact trans (hx.ok hs) (hf a t)
  | error e t =>
    rw [after_of_error (bind_of_error hs)]
    exact hx.error hs

theorem adaptExcept (g : ε → ε') (hx : Keeps R x) : Keeps R (x.adaptExcept g) := by
  intro s
  cases hs : x s with
  | ok a t => rw [after_of_ok (adaptExcept_of_ok hs)]; exact hx.ok hs
  | error e t => rw [after_of_error (adaptExcept_of_error hs)]; exact hx.error hs

/-- A second step that changes no state leaves what the first step left. -/
theorem after_bind (hf : ∀ a, Keeps Eq (f a)) (s : σ) : after (x >>= f) s = after x s := by
  cases hx : x s with
  | ok a t =>
    rw [after_of_ok hx, after_bind_of_ok hx]
    exact (hf a t).symm
  | error e t => rw [after_of_error hx, after_of_error (bind_of_error hx)]

theorem check (refl : ∀ s, R s s) {c : Prop} [Decidable c] {e : ε} {g : Unit → EStateM ε σ β}
    (hg : Keeps R (g ())) : Keeps R (if c then MonadExcept.throw e >>= g else g ()) := by
  split
  · exact refl
  · exact hg

end Keeps

end Steps

end Session

namespace World

/-- The world after a query. -/
def asking (w : World) (s : Sent) : World := { w with sent := w.sent ++ [s] }

/-- The world after an event. -/
def telling (w : World) (e : Event) : World := { w with events := w.events ++ [e] }

end World

namespace Session

/-! ## Steps on a world -/

section World

variable {ε α : Type} {w : World}

theorem tell_eq (e : Event) : (tell e : EStateM ε World Unit) w = .ok () (w.telling e) := rfl

theorem onTree_of_ok {x : EStateM ε FileTree α} {a : α} {t : FileTree} (h : x w.tree = .ok a t) :
    onTree x w = .ok a { w with tree := t } := by
  simp only [onTree, h]

theorem onTree_of_error {x : EStateM ε FileTree α} {e : ε} {t : FileTree}
    (h : x w.tree = .error e t) : onTree x w = .error e { w with tree := t } := by
  simp only [onTree, h]

theorem look_of_ok {f : FileTree → Except ε α} {a : α} (h : f w.tree = .ok a) :
    look f w = .ok a w := by
  simp only [look, h]

theorem look_of_error {f : FileTree → Except ε α} {e : ε} (h : f w.tree = .error e) :
    look f w = .error e w := by
  simp only [look, h]

theorem Keeps.look {R : World → World → Prop} (refl : ∀ w, R w w)
    (f : FileTree → Except ε α) : Keeps R (Session.look f) := by
  intro w
  cases h : f w.tree with
  | ok a => rw [after_of_ok (look_of_ok h)]; exact refl w
  | error e => rw [after_of_error (look_of_error h)]; exact refl w

end World

end Session

namespace Session

/-! ## What any server is sent -/

theorem sent_send (server : Server) (s : Sent) (w : World) :
    (after (send server s) w).sent = w.sent ++ [s] := by
  rw [after, send]
  cases server.answer w.sent s w.tree with
  | mk answer tree => cases answer <;> rfl

theorem sent_asTask_execute (server : Server) (task : Task) (q : Query) (w : World) :
    (after (asTask task (execute server q)) w).sent = w.sent ++ [⟨.execute, q⟩] := by
  rw [asTask, after_adaptExcept, execute, Keeps.after_bind fun _ => .pure (fun _ => rfl) (), sent_send]

end Session

/-! ## Servers that only answer -/

namespace World

/-- On the way from `w` to `w'` the query `s` was sent, and these rows were the answer. -/
def Got (answers : List Sent → Sent → Except ClientError (List Row)) (w w' : World) (s : Sent)
    (rows : List Row) : Prop :=
  ∃ earlier later, w'.sent = w.sent ++ earlier ++ s :: later ∧
    answers (w.sent ++ earlier) s = .ok rows

/-- Some queries were sent, each of them a `SELECT`, and nothing else happened. -/
def OnlySelected (w w' : World) : Prop :=
  ∃ asked : List Sent, w' = { w with sent := w.sent ++ asked } ∧
    ∀ s ∈ asked, s.query.sql.startsWith "SELECT" = true

variable {answers : List Sent → Sent → Except ClientError (List Row)} {w w₁ w₂ w₃ : World}
  {s : Sent} {rows : List Row}

theorem Got.asking (h : answers w.sent s = .ok rows) : Got answers w (w.asking s) s rows :=
  ⟨[], [], by simp [World.asking], by rwa [List.append_nil]⟩

/-- What a run got, it got also as part of a longer run. -/
theorem Got.extend {before after : List Sent} (h : Got answers w₁ w₂ s rows)
    (hb : w₁.sent = w.sent ++ before) (ha : w₃.sent = w₂.sent ++ after) :
    Got answers w w₃ s rows := by
  obtain ⟨earlier, later, hs, hans⟩ := h
  refine ⟨before ++ earlier, later ++ after, ?_, ?_⟩
  · simp [ha, hs, hb]
  · rw [← hans, hb, List.append_assoc]

namespace OnlySelected

theorem refl (w : World) : OnlySelected w w := ⟨[], by simp, by simp⟩

theorem trans (h : OnlySelected w₁ w₂) (h' : OnlySelected w₂ w₃) : OnlySelected w₁ w₃ := by
  obtain ⟨asked, rfl, ha⟩ := h
  obtain ⟨asked', rfl, ha'⟩ := h'
  refine ⟨asked ++ asked', by simp, fun s hs => ?_⟩
  rcases List.mem_append.1 hs with hs | hs
  · exact ha s hs
  · exact ha' s hs

theorem asking (w : World) (h : s.query.sql.startsWith "SELECT" = true) :
    OnlySelected w (w.asking s) :=
  ⟨[s], rfl, fun x hx => by rw [List.mem_singleton.1 hx]; exact h⟩

theorem tree_eq (h : OnlySelected w w₁) : w₁.tree = w.tree := by
  obtain ⟨_, rfl, _⟩ := h
  rfl

theorem sent_eq (h : OnlySelected w w₁) : ∃ asked : List Sent, w₁.sent = w.sent ++ asked ∧
    ∀ s ∈ asked, s.query.sql.startsWith "SELECT" = true := by
  obtain ⟨asked, rfl, ha⟩ := h
  exact ⟨asked, rfl, ha⟩

end OnlySelected

end World

namespace Session

variable (answers : List Sent → Sent → Except ClientError (List Row))

theorem send_ofAnswers (s : Sent) (w : World) :
    send (.ofAnswers answers) s w =
      match answers w.sent s with
      | .ok rows => .ok rows (w.asking s)
      | .error e => .error e (w.asking s) := rfl

theorem after_send {server : Server} (hs : server = .ofAnswers answers) (s : Sent) (w : World) :
    after (send server s) w = w.asking s := by
  rw [hs, after, send_ofAnswers]
  cases answers w.sent s <;> rfl

theorem execute_ofAnswers (q : Query) (w : World) :
    execute (.ofAnswers answers) q w = .ok () (w.asking ⟨.execute, q⟩) ∨
    ∃ e, execute (.ofAnswers answers) q w = .error e (w.asking ⟨.execute, q⟩) := by
  have hsend := send_ofAnswers answers ⟨.execute, q⟩ w
  unfold execute
  cases ha : answers w.sent ⟨.execute, q⟩ with
  | ok rows =>
    rw [ha] at hsend
    exact .inl (bind_of_ok hsend)
  | error e =>
    rw [ha] at hsend
    exact .inr ⟨e, bind_of_error hsend⟩

/-- A query whose rows are read ends with all of them read, or fails; either way it was sent. -/
theorem fetchAs_ofAnswers {α : Type} (read : Row → Option α) (q : Query) (w : World) :
    (∃ rows values, answers w.sent ⟨.fetch, q⟩ = .ok rows ∧ rows.mapM read = some values ∧
      fetchAs (.ofAnswers answers) read q w = .ok values (w.asking ⟨.fetch, q⟩)) ∨
    ∃ e, fetchAs (.ofAnswers answers) read q w = .error e (w.asking ⟨.fetch, q⟩) := by
  have hsend : fetch (.ofAnswers answers) q w = _ := send_ofAnswers answers ⟨.fetch, q⟩ w
  unfold fetchAs
  cases ha : answers w.sent ⟨.fetch, q⟩ with
  | error e =>
    rw [ha] at hsend
    exact .inr ⟨e, bind_of_error hsend⟩
  | ok rows =>
    rw [ha] at hsend
    rw [bind_of_ok hsend, readRows]
    cases hr : rows.mapM read with
    | none => exact .inr ⟨_, rfl⟩
    | some values => exact .inl ⟨rows, values, rfl, hr, rfl⟩

/-- The error of a query is one of a query or of its time limit. -/
theorem kind_ofClient (task : Task) (e : ClientError) :
    (TableError.ofClient task e).kind = .query ∨ (TableError.ofClient task e).kind = .timeout := by
  cases e with
  | timeout limit => exact .inr rfl
  | http | server | decode | unexpected => exact .inl rfl

/-- How a query that reads rows ends as part of a task. -/
theorem asTask_fetchAs {server : Server} (hs : server = .ofAnswers answers) {α : Type}
    (task : Task) (read : Row → Option α) (q : Query) (w : World) :
    (∃ rows values, World.Got answers w (w.asking ⟨.fetch, q⟩) ⟨.fetch, q⟩ rows ∧
      rows.mapM read = some values ∧
      asTask task (fetchAs server read q) w = .ok values (w.asking ⟨.fetch, q⟩)) ∨
    ∃ e, (e.kind = .query ∨ e.kind = .timeout) ∧
      asTask task (fetchAs server read q) w = .error e (w.asking ⟨.fetch, q⟩) := by
  unfold asTask
  rw [hs]
  rcases fetchAs_ofAnswers answers read q w with ⟨rows, values, hrows, hvalues, hrun⟩ | ⟨e, hrun⟩
  · exact .inl ⟨rows, values, .asking hrows, hvalues, adaptExcept_of_ok hrun⟩
  · exact .inr ⟨_, kind_ofClient task e, adaptExcept_of_error hrun⟩

theorem asTask_execute {server : Server} (hs : server = .ofAnswers answers) (task : Task)
    (q : Query) (w : World) :
    asTask task (execute server q) w = .ok () (w.asking ⟨.execute, q⟩) ∨
    ∃ e, (e.kind = .query ∨ e.kind = .timeout) ∧
      asTask task (execute server q) w = .error e (w.asking ⟨.execute, q⟩) := by
  unfold asTask
  rw [hs]
  rcases execute_ofAnswers answers q w with hrun | ⟨e, hrun⟩
  · exact .inl (adaptExcept_of_ok hrun)
  · exact .inr ⟨_, kind_ofClient task e, adaptExcept_of_error hrun⟩

/-- Where a query gave values, these are what its rows say, and it was sent. -/
theorem got_of_asTask_fetchAs {server : Server} (hs : server = .ofAnswers answers) {α : Type}
    {task : Task} {read : Row → Option α} {q : Query} {w w' : World} {values : List α}
    (h : asTask task (fetchAs server read q) w = .ok values w') :
    ∃ rows, World.Got answers w w' ⟨.fetch, q⟩ rows ∧ rows.mapM read = some values := by
  rcases asTask_fetchAs answers hs task read q w with ⟨rows, _, hgot, hread, hrun⟩ | ⟨e, _, hrun⟩
  · rw [hrun] at h
    cases h
    exact ⟨rows, hgot, hread⟩
  · rw [hrun] at h
    cases h

theorem after_asTask_fetchAs {server : Server} (hs : server = .ofAnswers answers) {α : Type}
    (task : Task) (read : Row → Option α) (q : Query) (w : World) :
    after (asTask task (fetchAs server read q)) w = w.asking ⟨.fetch, q⟩ := by
  rcases asTask_fetchAs answers hs task read q w with ⟨_, _, _, _, hrun⟩ | ⟨_, _, hrun⟩
  · exact after_of_ok hrun
  · exact after_of_error hrun

theorem after_asTask_execute {server : Server} (hs : server = .ofAnswers answers) (task : Task)
    (q : Query) (w : World) : after (asTask task (execute server q)) w = w.asking ⟨.execute, q⟩ := by
  rcases asTask_execute answers hs task q w with hrun | ⟨_, _, hrun⟩
  · exact after_of_ok hrun
  · exact after_of_error hrun

/-- Reading rows by a `SELECT` is only selecting. -/
theorem selects_asTask_fetchAs {server : Server} (hs : server = .ofAnswers answers) {α : Type}
    (task : Task) (read : Row → Option α) {q : Query} (hq : q.sql.startsWith "SELECT" = true) :
    Keeps World.OnlySelected (asTask task (fetchAs server read q)) := by
  intro w
  rw [after_asTask_fetchAs answers hs]
  exact .asking w hq

/-! ## How a run ends -/

section Ends

variable {ε σ α : Type} {r : EStateM.Result ε σ α}

/-- Whether a run ends well. -/
def endsWell : EStateM.Result ε σ α → Bool
  | .ok _ _ => true
  | .error _ _ => false

theorem exists_of_endsWell (h : endsWell r = true) : ∃ a s, r = .ok a s := by
  cases r with
  | ok a s => exact ⟨a, s, rfl⟩
  | error => cases h

/-- Whether a run ends well with such an answer in such a state. -/
def endsWith (p : α → σ → Bool) : EStateM.Result ε σ α → Bool
  | .ok a s => p a s
  | .error _ _ => false

theorem exists_of_endsWith {p : α → σ → Bool} (h : endsWith p r = true) :
    ∃ a s, r = .ok a s ∧ p a s = true := by
  cases r with
  | ok a s => exact ⟨a, s, rfl, h⟩
  | error => cases h

/-- Whether a run fails with such an error in such a state. -/
def failsWith (p : ε → σ → Bool) : EStateM.Result ε σ α → Bool
  | .ok _ _ => false
  | .error e s => p e s

theorem exists_of_failsWith {p : ε → σ → Bool} (h : failsWith p r = true) :
    ∃ e s, r = .error e s ∧ p e s = true := by
  cases r with
  | ok => cases h
  | error e s => exact ⟨e, s, rfl, h⟩

end Ends

end Session

end CatalogAdmin
