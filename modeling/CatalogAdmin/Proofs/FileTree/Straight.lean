import CatalogAdmin.Proofs.FileTree.Locating

/-!
# Straight ways

Where no link is on the way, a path leads to the place that its parts name one after the other
(`goal`), and the walk passes the places that they name on the way there (`way`), each once.

Results:
1. `Leads.straight`: without links the route is the way.
2. `Leads.straight_last`: with links not followed, the last name may be a link, and all before it are
   directories.
3. `Leads.down`: a route that goes up nowhere and meets no link is a way down.
4. `Straight.of_stat`, `StraightTo.locate`: where a path without links leads.
5. `StraightTo.congr`: what such a path names depends on nothing but what stands on its way.
-/

namespace CatalogAdmin.FileTree

open CatalogAdmin.Path (solid)

/-- The place that parts name one after the other, from some directory. -/
def goal : Location → List Text → Location
  | dir, [] => dir
  | dir, part :: rest =>
    if part = "." then goal dir rest
    else if part = ".." then goal dir.dropLast rest
    else goal (dir ++ [part]) rest

/-- The places that parts name on the way, the last one included. -/
def way : Location → List Text → List Location
  | _, [] => []
  | dir, part :: rest =>
    if part = "." then way dir rest
    else if part = ".." then way dir.dropLast rest
    else (dir ++ [part]) :: way (dir ++ [part]) rest

/-- A link stands at a place. -/
def IsLink (t : FileTree) (x : Location) : Prop := ∃ target, t.get? x = some (.link target)

instance (t : FileTree) (x : Location) : Decidable (t.IsLink x) :=
  match h : t.get? x with
  | some (.link target) => .isTrue ⟨target, h⟩
  | some .directory => .isFalse fun ⟨_, hl⟩ => by rw [h] at hl; cases hl
  | some (.file _) => .isFalse fun ⟨_, hl⟩ => by rw [h] at hl; cases hl
  | none => .isFalse fun ⟨_, hl⟩ => by rw [h] at hl; cases hl

theorem isLink_of_erase {t : FileTree} {l x : Location} (hl : l ≠ []) (h : (t.erase l).IsLink x) :
    t.IsLink x := by
  obtain ⟨target, hg⟩ := h
  rw [get?_erase t l x hl] at hg
  split at hg
  · cases hg
  · exact ⟨target, hg⟩

variable {t : FileTree} {follow : Bool} {dir l : Location} {parts more : List Text} {part : Text}
  {seen : List Location} {n : Nat}

/-! ## The way there -/

theorem goal_name (hc : part ≠ ".") (hu : part ≠ "..") (dir : Location) (rest : List Text) :
    goal dir (part :: rest) = goal (dir ++ [part]) rest := by
  rw [goal, if_neg hc, if_neg hu]

theorem way_name (hc : part ≠ ".") (hu : part ≠ "..") (dir : Location) (rest : List Text) :
    way dir (part :: rest) = (dir ++ [part]) :: way (dir ++ [part]) rest := by
  rw [way, if_neg hc, if_neg hu]

theorem goal_append (dir : Location) (parts more : List Text) :
    goal dir (parts ++ more) = goal (goal dir parts) more := by
  induction parts generalizing dir with
  | nil => rfl
  | cons part rest ih =>
    simp only [List.cons_append, goal]
    split
    · exact ih dir
    split
    · exact ih dir.dropLast
    · exact ih (dir ++ [part])

theorem way_append (dir : Location) (parts more : List Text) :
    way dir (parts ++ more) = way dir parts ++ way (goal dir parts) more := by
  induction parts generalizing dir with
  | nil => rfl
  | cons part rest ih =>
    simp only [List.cons_append, goal, way]
    split
    · exact ih dir
    split
    · exact ih dir.dropLast
    · rw [ih (dir ++ [part]), List.cons_append]

/-- Dots are not on the way. -/
theorem way_solid (dir : Location) (parts : List Text) : way dir (solid parts) = way dir parts := by
  induction parts generalizing dir with
  | nil => rfl
  | cons part rest ih =>
    by_cases hc : part = "."
    · subst hc
      exact ih dir
    · rw [Path.solid_cons hc, way, way, if_neg hc, if_neg hc, ih, ih]

/-- Names lead down. -/
theorem goal_names (dir : Location) (h : ∀ part ∈ parts, part ≠ "." ∧ part ≠ "..") :
    goal dir parts = dir ++ parts := by
  induction parts generalizing dir with
  | nil => simp [goal]
  | cons part rest ih =>
    obtain ⟨hp, hrest⟩ := List.forall_mem_cons.1 h
    rw [goal_name hp.1 hp.2, ih _ hrest, List.append_assoc, List.singleton_append]

theorem mem_way_names {x : Location} (h : ∀ part ∈ parts, part ≠ "." ∧ part ≠ "..")
    (hx : x ∈ way dir parts) : x <+: dir ++ parts ∧ dir <+: x ∧ x ≠ dir := by
  induction parts generalizing dir with
  | nil => cases hx
  | cons part rest ih =>
    obtain ⟨hp, hrest⟩ := List.forall_mem_cons.1 h
    rw [way_name hp.1 hp.2] at hx
    rcases List.mem_cons.1 hx with rfl | hx
    · exact ⟨⟨rest, by simp⟩, List.prefix_append _ _, by simp⟩
    · obtain ⟨hbelow, habove, hne⟩ := ih hrest hx
      refine ⟨by simpa using hbelow, (List.prefix_append dir [part]).trans habove, ?_⟩
      rintro rfl
      have hlen := habove.length_le
      rw [List.length_append, List.length_singleton] at hlen
      omega

/-- Where parts lead up to a directory from below it, they lead there also from any other place as deep
below it. -/
theorem goal_aside {x y : Location} (hlen : x.length = y.length) (rel : Location)
    (h : goal (dir ++ x ++ rel) parts = dir) : goal (dir ++ y ++ rel) parts = dir := by
  induction parts generalizing x y rel with
  | nil =>
    rw [goal, List.append_assoc, List.append_right_eq_self, List.append_eq_nil_iff] at h
    obtain ⟨rfl, rfl⟩ := h
    obtain rfl := List.length_eq_zero_iff.1 hlen.symm
    simp [goal]
  | cons part rest ih =>
    rw [goal] at h ⊢
    split
    · next hc =>
      rw [if_pos hc] at h
      exact ih hlen rel h
    next hc =>
    rw [if_neg hc] at h
    split
    · next hu =>
      rw [if_pos hu] at h
      by_cases hrel : rel = []
      · -- both places are left upwards at once
        subst hrel
        rw [List.append_nil] at h ⊢
        by_cases hx : x = []
        · subst hx
          obtain rfl := List.length_eq_zero_iff.1 hlen.symm
          exact h
        · have hy : y ≠ [] := by
            rintro rfl
            exact hx (List.length_eq_zero_iff.1 hlen)
          rw [List.dropLast_append_of_ne_nil hx] at h
          rw [List.dropLast_append_of_ne_nil hy]
          have hgoal := ih (x := x.dropLast) (y := y.dropLast) (by simp [hlen]) [] (by simpa using h)
          simpa using hgoal
      · rw [List.dropLast_append_of_ne_nil hrel] at h ⊢
        exact ih hlen _ h
    · next hu =>
      rw [if_neg hu, List.append_assoc] at h
      rw [List.append_assoc]
      exact ih hlen _ h

/-- A way that goes up nowhere leads through places above its end only. -/
theorem prefix_goal {x : Location} (hup : (".." : Text) ∉ parts) (hx : x = dir ∨ x ∈ way dir parts) :
    x <+: goal dir parts := by
  induction parts generalizing dir x with
  | nil =>
    rcases hx with rfl | hx
    · exact List.prefix_refl _
    · cases hx
  | cons part rest ih =>
    rw [List.mem_cons, not_or] at hup
    by_cases hc : part = "."
    · rw [goal, if_pos hc]
      rw [way, if_pos hc] at hx
      exact ih hup.2 hx
    · rw [goal_name hc (Ne.symm hup.1)]
      rw [way_name hc (Ne.symm hup.1), List.mem_cons] at hx
      rcases hx with rfl | hx
      · exact (List.prefix_append _ _).trans (ih hup.2 (.inl rfl))
      · exact ih hup.2 hx

/-! ## Routes without links -/

/-- Without links the route is the way, but for a last name that is not looked at. -/
theorem Leads.straight (h : t.Leads follow dir parts seen n l)
    (hw : ∀ x ∈ way dir parts, ¬ t.IsLink x) :
    l = goal dir parts ∧ n = 0 ∧ (follow = true → seen = way dir parts) := by
  induction h with
  | done => exact ⟨rfl, rfl, fun _ => rfl⟩
  | current _ ih => exact ih hw
  | up _ ih => exact ih hw
  | enter hp _ _ _ ih =>
    rw [way_name hp.1 hp.2.1] at hw ⊢
    obtain ⟨hl, hn, hseen⟩ := ih (List.forall_mem_cons.1 hw).2
    exact ⟨by rw [goal_name hp.1 hp.2.1, hl], hn, fun hf => by rw [hseen hf]⟩
  | through hp _ hg _ _ =>
    rw [way_name hp.1 hp.2.1] at hw
    exact absurd ⟨_, hg⟩ (List.forall_mem_cons.1 hw).1
  | stop hp hf =>
    rw [goal_name hp.1 hp.2.1]
    exact ⟨rfl, rfl, fun hf' => by rw [hf] at hf'; cases hf'⟩
  | leaf hp _ _ =>
    rw [way_name hp.1 hp.2.1, goal_name hp.1 hp.2.1]
    exact ⟨rfl, rfl, fun _ => rfl⟩

/-- With links not followed, all before the last name are directories, and only that name may be a
link. -/
theorem Leads.straight_last (h : t.Leads false dir (parts ++ [part]) seen n l) (hc : part ≠ ".")
    (hu : part ≠ "..") (hw : ∀ x ∈ way dir parts, ¬ t.IsLink x) :
    l = goal dir (parts ++ [part]) ∧ seen = way dir parts ∧
      ∀ x ∈ way dir parts, t.get? x = some .directory := by
  induction parts generalizing dir seen n with
  | nil =>
    rcases h.name_cases (h.isName hc hu) with ⟨-, -, rfl, -, rfl⟩ | ⟨ho, -⟩
    · exact ⟨(goal_name hc hu dir []).symm, rfl, by simp [way]⟩
    · simp at ho
  | cons first rest ih =>
    rw [List.cons_append] at h ⊢
    rw [goal]
    rw [way] at hw ⊢
    by_cases hc' : first = "."
    · rw [if_pos hc'] at hw ⊢
      rw [if_pos hc']
      subst hc'
      exact ih h.of_current hw
    by_cases hu' : first = ".."
    · rw [if_neg hc', if_pos hu'] at hw ⊢
      rw [if_neg hc', if_pos hu']
      subst hu'
      exact ih h.of_up hw
    rw [if_neg hc', if_neg hu'] at hw ⊢
    rw [if_neg hc', if_neg hu']
    obtain ⟨hfirst, hbelow⟩ := List.forall_mem_cons.1 hw
    rcases h.name_cases (h.isName hc' hu') with
      ⟨hnil, -⟩ | ⟨-, s, rfl, ⟨hg, hrest⟩ | ⟨target, _, hg, -⟩ | ⟨-, hnil, -⟩⟩
    · simp at hnil
    · obtain ⟨hl, rfl, hdirs⟩ := ih hrest hbelow
      exact ⟨hl, rfl, List.forall_mem_cons.2 ⟨hg, hdirs⟩⟩
    · exact absurd ⟨target, hg⟩ hfirst
    · simp at hnil

/-- A route that goes up nowhere, with no link as near as its parts may lead, is a way down. -/
theorem Leads.down (h : t.Leads false dir parts seen n l) (hup : (".." : Text) ∉ parts)
    (hw : ∀ x, dir <+: x → x.length < dir.length + parts.length → ¬ t.IsLink x) :
    l = dir ++ solid parts ∧ n = 0 ∧
      ∀ x ∈ seen, dir <+: x ∧ x.length < dir.length + parts.length := by
  generalize hf : false = follow at h
  -- what is not the last part has parts behind it
  have hmore : ∀ {rest : List Text}, rest ≠ [] ∨ follow = true → 0 < rest.length := by
    rintro rest (ho | ho)
    · exact List.length_pos_iff.2 ho
    · rw [← hf] at ho; cases ho
  induction h with
  | done => exact ⟨(List.append_nil _).symm, rfl, by simp⟩
  | @current dir l rest seen n _ ih =>
    obtain ⟨hl, hn, hseen⟩ := ih (fun hmem => hup (List.mem_cons_of_mem _ hmem))
      fun x hx hlen => hw x hx (by rw [List.length_cons]; omega)
    refine ⟨hl, hn, fun x hx => ⟨(hseen x hx).1, ?_⟩⟩
    have hlen := (hseen x hx).2
    rw [List.length_cons]
    omega
  | up => exact absurd (List.mem_cons_self ..) hup
  | @enter dir l part rest seen n hp ho _ _ ih =>
    have hdir : dir <+: dir ++ [part] := List.prefix_append _ _
    have hlength : (dir ++ [part]).length + rest.length = dir.length + (part :: rest).length := by
      rw [List.length_append, List.length_singleton, List.length_cons]
      omega
    rw [← hlength] at hw ⊢
    obtain ⟨hl, hn, hseen⟩ := ih (fun hmem => hup (List.mem_cons_of_mem _ hmem))
      fun x hx hlen => hw x (hdir.trans hx) hlen
    refine ⟨?_, hn, List.forall_mem_cons.2
      ⟨⟨hdir, Nat.lt_add_of_pos_right (hmore ho)⟩, fun x hx => ?_⟩⟩
    · rw [hl, Path.solid_cons hp.1, List.append_assoc, List.singleton_append]
    · exact ⟨hdir.trans (hseen x hx).1, (hseen x hx).2⟩
  | @through dir l part rest seen n target hp ho hg _ _ =>
    -- a link that is followed is not the end, so it is too near
    have hrest := hmore ho
    refine absurd ⟨target, hg⟩ (hw _ (List.prefix_append _ _) ?_)
    rw [List.length_append, List.length_singleton, List.length_cons]
    omega
  | stop hp _ =>
    rw [Path.solid_cons hp.1]
    exact ⟨rfl, rfl, by simp⟩
  | leaf _ hf' _ => rw [hf'] at hf; cases hf

/-- A way through directories is a route. -/
theorem leads_of_directories (hparts : ∀ part ∈ parts, part ≠ "." → part ≠ ".." → IsName part)
    (h : ∀ x ∈ way dir parts, t.get? x = some .directory) :
    t.Leads true dir parts (way dir parts) 0 (goal dir parts) := by
  induction parts generalizing dir with
  | nil => exact .done
  | cons part rest ih =>
    obtain ⟨hpart, hrest⟩ := List.forall_mem_cons.1 hparts
    rw [way, goal]
    rw [way] at h
    split
    · next hc =>
      subst hc
      rw [if_pos rfl] at h
      exact .current (ih hrest h)
    next hc =>
    rw [if_neg hc] at h
    split
    · next hu =>
      subst hu
      rw [if_pos rfl] at h
      exact .up (ih hrest h)
    next hu =>
    rw [if_neg hu] at h
    obtain ⟨hg, hbelow⟩ := List.forall_mem_cons.1 h
    exact .enter (hpart hc hu) (.inr rfl) hg (ih hrest hbelow)

/-- A way through directories goes on to a last name that is not looked at. -/
theorem leads_last_of_directories (hparts : ∀ part ∈ parts, part ≠ "." → part ≠ ".." → IsName part)
    (hpart : IsName part) (h : ∀ x ∈ way dir parts, t.get? x = some .directory) :
    t.Leads false dir (parts ++ [part]) (way dir parts) 0 (goal dir (parts ++ [part])) := by
  induction parts generalizing dir with
  | nil =>
    rw [List.nil_append, goal_name hpart.1 hpart.2.1]
    exact .stop hpart rfl
  | cons first rest ih =>
    obtain ⟨hfirst, hrest⟩ := List.forall_mem_cons.1 hparts
    rw [List.cons_append, way, goal]
    rw [way] at h
    split
    · next hc =>
      subst hc
      rw [if_pos rfl] at h
      exact .current (ih hrest h)
    next hc =>
    rw [if_neg hc] at h
    split
    · next hu =>
      subst hu
      rw [if_pos rfl] at h
      exact .up (ih hrest h)
    next hu =>
    rw [if_neg hu] at h
    obtain ⟨hg, hbelow⟩ := List.forall_mem_cons.1 h
    exact .enter (hfirst hc hu) (.inl (by simp)) hg (ih hrest hbelow)

/-- Whatever a route leads through, its parts are names and dots. -/
theorem Leads.isName_of_mem (h : t.Leads follow dir parts seen n l) :
    ∀ part ∈ parts, part ≠ "." → part ≠ ".." → IsName part := by
  induction h with
  | done => simp
  | current _ ih => exact List.forall_mem_cons.2 ⟨fun hc => absurd rfl hc, ih⟩
  | up _ ih => exact List.forall_mem_cons.2 ⟨fun _ hu => absurd rfl hu, ih⟩
  | enter hp _ _ _ ih => exact List.forall_mem_cons.2 ⟨fun _ _ => hp, ih⟩
  | through hp _ _ _ ih =>
    exact List.forall_mem_cons.2 ⟨fun _ _ => hp, fun part hpart => ih part (List.mem_append_right _ hpart)⟩
  | stop hp _ | leaf hp _ _ => simpa using fun _ _ => hp

/-- Where no link is on the way, a walk depends on nothing but what stands on it. -/
theorem walkWith_congr {t' : FileTree} {expand expand' : Location → List Text → Except IoError Location}
    (hsame : ∀ x ∈ way dir parts, t'.get? x = t.get? x)
    (hlinks : ∀ x ∈ way dir parts.dropLast, ¬ t.IsLink x)
    (hend : follow = false ∨ ¬ t.IsLink (goal dir parts)) :
    t'.walkWith follow expand' dir parts = t.walkWith follow expand dir parts := by
  induction parts generalizing dir with
  | nil => rfl
  | cons part rest ih =>
    have hfront : rest ≠ [] → (part :: rest).dropLast = part :: rest.dropLast :=
      List.dropLast_cons_of_ne_nil
    rw [walkWith, walkWith]
    rw [way] at hsame
    rw [goal] at hend
    by_cases hc : part = "."
    · rw [if_pos hc] at hsame hend
      rw [if_pos hc, if_pos hc]
      refine ih hsame (fun x hx => ?_) hend
      cases rest with
      | nil => cases hx
      | cons => exact hlinks x (by rwa [hfront (by simp), way, if_pos hc])
    rw [if_neg hc] at hsame hend
    rw [if_neg hc, if_neg hc]
    by_cases hu : part = ".."
    · rw [if_pos hu] at hsame hend
      rw [if_pos hu, if_pos hu]
      refine ih hsame (fun x hx => ?_) hend
      cases rest with
      | nil => cases hx
      | cons => exact hlinks x (by rwa [hfront (by simp), way, if_neg hc, if_pos hu])
    rw [if_neg hu] at hsame hend
    rw [if_neg hu, if_neg hu]
    obtain ⟨hhere, hrest⟩ := List.forall_mem_cons.1 hsame
    rw [hhere]
    cases rest with
    | nil =>
      -- a link at the end is not followed
      cases hg : t.get? (dir ++ [part]) with
      | none => rfl
      | some node =>
        cases node with
        | directory | file => rfl
        | link target =>
          obtain rfl := hend.resolve_right fun hno => hno ⟨target, hg⟩
          rfl
    | cons next more =>
      rw [hfront (by simp), way_name hc hu] at hlinks
      obtain ⟨hlink, hlinks⟩ := List.forall_mem_cons.1 hlinks
      rw [ih hrest hlinks hend]
      cases hg : t.get? (dir ++ [part]) with
      | none => rfl
      | some node =>
        cases node with
        | directory | file => rfl
        | link target => exact absurd ⟨target, hg⟩ hlink

/-! ## Paths without links -/

/-- A slash at the end of a path is not on its way. -/
theorem way_parts (dir : Location) (p : Path) : way dir (steps p) = way dir p.parts := by
  unfold steps
  split
  · rw [way_append, way, if_pos rfl, way, List.append_nil]
  · rfl

/-- The place that a path leads to if no link is on its way. -/
def goalOf (t : FileTree) (p : Path) : Location := goal (t.origin p) (steps p)

theorem goalOf_of_here {t' : FileTree} (hhere : t'.here = t.here) (p : Path) : t'.goalOf p = t.goalOf p := by
  rw [goalOf, goalOf, origin_of_here hhere]

/-- No link is on the way of a path, the place it leads to included. -/
def Straight (t : FileTree) (p : Path) : Prop := ∀ x ∈ way (t.origin p) (steps p), ¬ t.IsLink x

/-- No link is on the way to the last part of a path. -/
def StraightTo (t : FileTree) (p : Path) : Prop :=
  ∀ x ∈ way (t.origin p) (steps p).dropLast, ¬ t.IsLink x

instance (t : FileTree) (p : Path) : Decidable (t.Straight p) :=
  inferInstanceAs (Decidable (∀ x ∈ way (t.origin p) (steps p), ¬ t.IsLink x))

instance (t : FileTree) (p : Path) : Decidable (t.StraightTo p) :=
  inferInstanceAs (Decidable (∀ x ∈ way (t.origin p) (steps p).dropLast, ¬ t.IsLink x))

variable {p : Path}

theorem Straight.locate (h : t.Straight p) (hl : t.locate follow p = .ok l) : l = t.goalOf p := by
  obtain ⟨-, _, _, -, hroute⟩ := leads_of_locate hl
  exact (hroute.straight h).1

/-- What a path names stands at its goal. -/
theorem Straight.of_stat (h : t.Straight p) {node : Node} (hstat : t.stat follow p = .ok node) :
    t.locate false p = .ok (t.goalOf p) ∧ t.get? (t.goalOf p) = some node := by
  obtain ⟨l, hl, hg⟩ := exists_of_stat hstat
  obtain rfl := h.locate hl
  refine ⟨?_, hg⟩
  cases follow with
  | false => exact hl
  | true =>
    obtain ⟨place, hplace⟩ := exists_place hl
    rw [hplace, h.locate hplace]

/-- The last part of a path is one that names something. -/
structure EndsIn (p : Path) (parts : List Text) (part : Text) : Prop where
  steps : steps p = parts ++ [part]
  not_current : part ≠ "."
  not_up : part ≠ ".."

section LastName

variable (hp : EndsIn p parts part)
include hp

theorem StraightTo.before (h : t.StraightTo p) : ∀ x ∈ way (t.origin p) parts, ¬ t.IsLink x := by
  rw [StraightTo, hp.steps, List.dropLast_concat] at h
  exact h

/-- The way of a path ends at its goal. -/
theorem way_steps (t : FileTree) :
    way (t.origin p) (steps p) = way (t.origin p) parts ++ [t.goalOf p] := by
  rw [goalOf, hp.steps, way_append, goal_append, way_name hp.not_current hp.not_up,
    goal_name hp.not_current hp.not_up, way, goal]

theorem Straight.last (h : t.Straight p) : t.StraightTo p ∧ ¬ t.IsLink (t.goalOf p) := by
  rw [Straight, way_steps hp, List.forall_mem_append] at h
  refine ⟨?_, h.2 _ (List.mem_singleton_self _)⟩
  rw [StraightTo, hp.steps, List.dropLast_concat]
  exact h.1

theorem StraightTo.locate (h : t.StraightTo p) (hl : t.locate false p = .ok l) :
    l = t.goalOf p ∧ ∀ x ∈ way (t.origin p) parts, t.get? x = some .directory := by
  obtain ⟨-, _, _, -, hroute⟩ := leads_of_locate hl
  rw [hp.steps] at hroute
  obtain ⟨rfl, -, hdirs⟩ := hroute.straight_last hp.not_current hp.not_up (h.before hp)
  exact ⟨by rw [goalOf, hp.steps], hdirs⟩

/-- A path leads to the same place where the directories on its way still are directories. -/
theorem StraightTo.locate_of_kept {t' : FileTree} (h : t.StraightTo p) (horigin : t'.origin p = t.origin p)
    (hkept : ∀ x ∈ way (t.origin p) parts, t.get? x = some .directory →
      t'.get? x = some .directory)
    (hl : t.locate false p = .ok l) : t'.locate false p = .ok l := by
  obtain ⟨hw, _, _, hn, hroute⟩ := leads_of_locate hl
  have hparts := hroute
  rw [hp.steps] at hparts
  obtain ⟨-, rfl, hdirs⟩ := hparts.straight_last hp.not_current hp.not_up (h.before hp)
  have hroute' := hroute.congr fun x hx => (hkept x hx (hdirs x hx)).trans (hdirs x hx).symm
  rw [← horigin] at hroute'
  exact locate_eq_of_leads hw hroute' hn

/-- A path that leads somewhere in one tree leads to its goal where all on its way are directories. -/
theorem locate_of_directories {t' : FileTree} (hl : t.locate false p = .ok l)
    (hdirs : ∀ x ∈ way (t'.origin p) parts, t'.get? x = some .directory) :
    t'.locate false p = .ok (t'.goalOf p) := by
  obtain ⟨hw, _, _, -, hroute⟩ := leads_of_locate hl
  rw [hp.steps] at hroute
  have hnames := List.forall_mem_append.1 hroute.isName_of_mem
  have hpart := hnames.2 part (List.mem_singleton_self _) hp.not_current hp.not_up
  have hroute' := leads_last_of_directories hnames.1 hpart hdirs
  rw [← hp.steps] at hroute'
  exact locate_eq_of_leads hw hroute' (Nat.zero_le _)

/-- What a path leads to and what it names depends on nothing but what stands on its way. -/
theorem StraightTo.congr {t' : FileTree} (h : t.StraightTo p) (horigin : t'.origin p = t.origin p)
    (hend : follow = false ∨ ¬ t.IsLink (t.goalOf p))
    (hsame : ∀ x ∈ way (t.origin p) (steps p), t'.get? x = t.get? x) :
    t'.locate follow p = t.locate follow p ∧ t'.stat follow p = t.stat follow p := by
  have hlocate : t'.locate follow p = t.locate follow p := by
    by_cases hw : Walkable p
    · rw [locate_eq_walk t' follow hw, locate_eq_walk t follow hw, horigin]
      exact walkWith_congr hsame h hend
    · exact locate_of_not_walkable t t' follow hw
  refine ⟨hlocate, ?_⟩
  cases hl : t.locate follow p with
  | error e => rw [stat_of_error hl, stat_of_error (hlocate.trans hl)]
  | ok l =>
    have hplace : l = t.goalOf p := by
      cases hend with
      | inl hfollow =>
        subst hfollow
        exact (h.locate hp hl).1
      | inr hlink =>
        refine Straight.locate (fun x hx => ?_) hl
        rw [way_steps hp, List.mem_append, List.mem_singleton] at hx
        rcases hx with hx | rfl
        · exact h.before hp x hx
        · exact hlink
    have hget := hsame l (by
      rw [way_steps hp, hplace]
      exact List.mem_append_right _ (List.mem_singleton_self _))
    unfold FileTree.stat
    rw [hlocate, hl]
    simp only [bind, Except.bind, hget]

end LastName

end CatalogAdmin.FileTree
