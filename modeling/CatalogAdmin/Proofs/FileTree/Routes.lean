import CatalogAdmin.FileTree.Operations

/-!
# The route of a walk

`walk` gives the location a path leads to. What it goes through on the way is the subject of `Leads`,
the same walk as a relation: it counts the links replaced, and lists the places passed, which are
the directories entered and the links replaced.

Results:
1. `walk_of_leads`, `leads_of_walk`: the relation is the walk. A route with more links than the limit
   fails for that reason and for no other.
2. `Leads.congr`: a walk depends on nothing but the places it passes.
3. `Leads.split`, `Leads.comp`: a route through some parts and others behind them is a route to a
   directory and one from there.
4. `Leads.resume`: a route goes on from any place it passes.
5. `Leads.diverge`: two trees in which the same parts lead to different places differ at a place that
   both routes pass.
-/

namespace CatalogAdmin.FileTree

/-! ## The relation -/

/-- A part of a path that is looked up: not `.` or `..`, and not too long. -/
def IsName (part : Text) : Prop := part ≠ "." ∧ part ≠ ".." ∧ part.byteLength ≤ nameLimit

/-- Where the target of a link in some directory starts from. -/
def linkBase (target : Path) (dir : Location) : Location := if target.isAbsolute then [] else dir

/-- `t.Leads follow dir parts seen n l`: from the directory `dir` the parts lead to `l`. The walk
passes the places `seen` and replaces `n` links.

The last name is only looked at where links are followed to the end (`leaf`). Otherwise the walk ends
at it, whatever is there (`stop`). -/
inductive Leads (t : FileTree) (follow : Bool) :
    Location → List Text → List Location → Nat → Location → Prop
  | done {dir : Location} : Leads t follow dir [] [] 0 dir
  | current {dir l : Location} {rest : List Text} {seen : List Location} {n : Nat} :
      Leads t follow dir rest seen n l → Leads t follow dir (("." : Text) :: rest) seen n l
  | up {dir l : Location} {rest : List Text} {seen : List Location} {n : Nat} :
      Leads t follow dir.dropLast rest seen n l → Leads t follow dir ((".." : Text) :: rest) seen n l
  | enter {dir l : Location} {part : Text} {rest : List Text} {seen : List Location} {n : Nat} :
      IsName part → rest ≠ [] ∨ follow = true → t.get? (dir ++ [part]) = some .directory →
      Leads t follow (dir ++ [part]) rest seen n l →
      Leads t follow dir (part :: rest) ((dir ++ [part]) :: seen) n l
  | through {dir l : Location} {part : Text} {rest : List Text} {seen : List Location} {n : Nat}
      {target : Path} :
      IsName part → rest ≠ [] ∨ follow = true → t.get? (dir ++ [part]) = some (.link target) →
      Leads t follow (linkBase target dir) (steps target ++ rest) seen n l →
      Leads t follow dir (part :: rest) ((dir ++ [part]) :: seen) (n + 1) l
  | stop {dir : Location} {part : Text} :
      IsName part → follow = false → Leads t follow dir [part] [] 0 (dir ++ [part])
  | leaf {dir : Location} {part : Text} :
      IsName part → follow = true →
      (t.get? (dir ++ [part]) = none ∨ ∃ f, t.get? (dir ++ [part]) = some (.file f)) →
      Leads t follow dir [part] [dir ++ [part]] 0 (dir ++ [part])

/-! ## The relation is the walk -/

theorem walk_current (t : FileTree) (follow : Bool) (links : Nat) (dir : Location)
    (rest : List Text) :
    t.walk follow links dir (("." : Text) :: rest) = t.walk follow links dir rest := by
  cases links <;> simp [walk, walkWith]

theorem walk_up (t : FileTree) (follow : Bool) (links : Nat) (dir : Location) (rest : List Text) :
    t.walk follow links dir ((".." : Text) :: rest) = t.walk follow links dir.dropLast rest := by
  cases links <;> simp [walk, walkWith]

theorem walk_nil (t : FileTree) (follow : Bool) (links : Nat) (dir : Location) :
    t.walk follow links dir [] = .ok dir := by
  cases links <;> simp [walk, walkWith]

/-- What a walk does at a link, given how many more it may replace. -/
def walkLink (t : FileTree) (follow : Bool) :
    Nat → Location → List Text → Except IoError Location
  | 0 => fun _ _ => .error .tooManyLinks
  | links + 1 => t.walk follow links

/-- A walk at a name. -/
theorem walk_name (t : FileTree) (follow : Bool) (links : Nat) (dir : Location) {part : Text}
    (hp : IsName part) (rest : List Text) :
    t.walk follow links dir (part :: rest) =
      match t.get? (dir ++ [part]) with
      | some .directory => t.walk follow links (dir ++ [part]) rest
      | some (.link target) =>
        if rest.isEmpty && !follow then .ok (dir ++ [part])
        else t.walkLink follow links (linkBase target dir) (steps target ++ rest)
      | some (.file _) => if rest.isEmpty then .ok (dir ++ [part]) else .error .notADirectory
      | none => if rest.isEmpty then .ok (dir ++ [part]) else .error .notFound := by
  obtain ⟨hc, hu, hl⟩ := hp
  have hl' : ¬ nameLimit < part.byteLength := by omega
  cases links with
  | zero => simp only [walk, walkWith, if_neg hc, if_neg hu, if_neg hl']; rfl
  | succ links => simp only [walk, walkWith, if_neg hc, if_neg hu, if_neg hl']; rfl

/-- A route decides how a walk ends: where the route leads, unless it replaces too many links. -/
theorem walk_of_leads {t : FileTree} {follow : Bool} {dir l : Location} {parts : List Text}
    {seen : List Location} {n : Nat} (h : t.Leads follow dir parts seen n l) (links : Nat) :
    t.walk follow links dir parts = if n ≤ links then .ok l else .error .tooManyLinks := by
  induction h generalizing links with
  | done => simp [walk_nil]
  | current _ ih => rw [walk_current, ih]
  | up _ ih => rw [walk_up, ih]
  | enter hp _ hg _ ih => rw [walk_name _ _ _ _ hp, hg]; exact ih links
  | @through dir l part rest seen n target hp ho hg _ ih =>
    have honward : (rest.isEmpty && !follow) = false := by
      rcases ho with hr | hf
      · simp [hr]
      · simp [hf]
    rw [walk_name _ _ _ _ hp, hg]
    simp only [honward, Bool.false_eq_true, if_false]
    cases links with
    | zero => simp [walkLink]
    | succ links => simp [walkLink, ih]
  | stop hp hf =>
    rw [walk_name _ _ _ _ hp]
    split <;> simp_all [walk_nil]
  | leaf hp _ hg =>
    rw [walk_name _ _ _ _ hp]
    rcases hg with hg | ⟨f, hg⟩ <;> simp [hg]

/-- Behind a route to a directory a walk goes on from there. -/
theorem Leads.walk_append {t : FileTree} {dir mid : Location} {parts : List Text}
    {seen : List Location} (h : t.Leads true dir parts seen 0 mid)
    (hg : t.get? mid = some .directory) (follow : Bool) (links : Nat) (more : List Text) :
    t.walk follow links dir (parts ++ more) = t.walk follow links mid more := by
  generalize hn : 0 = n at h
  generalize hf : true = follow' at h
  induction h with
  | done => rfl
  | current _ ih => rw [List.cons_append, walk_current, ih hg hn]
  | up _ ih => rw [List.cons_append, walk_up, ih hg hn]
  | enter hp _ hdir _ ih => rw [List.cons_append, walk_name _ _ _ _ hp, hdir]; exact ih hg hn
  | through => cases hn
  | stop _ hstop => rw [hstop] at hf; cases hf
  | leaf _ _ hend => rcases hend with hend | ⟨_, hend⟩ <;> rw [hg] at hend <;> cases hend

/-- The walk between two links. -/
theorem leads_of_walkWith {t : FileTree} {follow : Bool} {links : Nat} {dir l : Location}
    {parts : List Text} {expand : Location → List Text → Except IoError Location}
    (hexpand : ∀ d ps x, expand d ps = .ok x →
      ∃ seen n, n + 1 ≤ links ∧ t.Leads follow d ps seen n x)
    (h : t.walkWith follow expand dir parts = .ok l) :
    ∃ seen n, n ≤ links ∧ t.Leads follow dir parts seen n l := by
  induction parts generalizing dir with
  | nil =>
    simp only [walkWith, Except.ok.injEq] at h
    subst h
    exact ⟨[], 0, Nat.zero_le _, .done⟩
  | cons part rest ih =>
    simp only [walkWith] at h
    split at h
    · next hc =>
      subst hc
      obtain ⟨seen, n, hn, hr⟩ := ih h
      exact ⟨seen, n, hn, .current hr⟩
    split at h
    · next hu =>
      subst hu
      obtain ⟨seen, n, hn, hr⟩ := ih h
      exact ⟨seen, n, hn, .up hr⟩
    split at h
    · cases h
    next hc hu hl =>
    have hp : IsName part := ⟨hc, hu, by omega⟩
    -- with links not followed, the walk ends at the last name whatever is there
    by_cases hend : rest = [] ∧ follow = false
    · obtain ⟨rfl, rfl⟩ := hend
      have hlast : dir ++ [part] = l := by
        split at h <;> simp_all [walkWith]
      exact ⟨[], 0, Nat.zero_le _, hlast ▸ .stop hp rfl⟩
    have honward : rest ≠ [] ∨ follow = true := by
      by_cases hr : rest = []
      · exact .inr (by simpa [hr] using hend)
      · exact .inl hr
    split at h
    · next hg =>
      obtain ⟨seen, n, hn, hr⟩ := ih h
      exact ⟨_, n, hn, .enter hp honward hg hr⟩
    · next target hg =>
      have hgo : (rest.isEmpty && !follow) = false := by
        rcases honward with hr | hf
        · simp [hr]
        · simp [hf]
      simp only [hgo, Bool.false_eq_true, if_false] at h
      obtain ⟨seen, n, hn, hr⟩ := hexpand _ _ _ h
      exact ⟨_, n + 1, hn, .through hp honward hg hr⟩
    · next f hg =>
      split at h
      · next hr =>
        have hr : rest = [] := by simpa using hr
        subst hr
        cases h
        exact ⟨_, 0, Nat.zero_le _, .leaf hp (by simpa using honward) (.inr ⟨f, hg⟩)⟩
      · cases h
    · next hg =>
      split at h
      · next hr =>
        have hr : rest = [] := by simpa using hr
        subst hr
        cases h
        exact ⟨_, 0, Nat.zero_le _, .leaf hp (by simpa using honward) (.inl hg)⟩
      · cases h

/-- A walk that ends somewhere took a route there within the limit. -/
theorem leads_of_walk {t : FileTree} {follow : Bool} {links : Nat} {dir l : Location}
    {parts : List Text} (h : t.walk follow links dir parts = .ok l) :
    ∃ seen n, n ≤ links ∧ t.Leads follow dir parts seen n l := by
  induction links generalizing dir parts l with
  | zero => exact leads_of_walkWith (fun _ _ _ hx => by cases hx) h
  | succ links ih =>
    refine leads_of_walkWith (fun d ps x hx => ?_) h
    obtain ⟨seen, n, hn, hr⟩ := ih hx
    exact ⟨seen, n, Nat.succ_le_succ hn, hr⟩

/-- From one directory some parts lead to one place only. -/
theorem Leads.unique {t : FileTree} {follow : Bool} {dir l l' : Location} {parts : List Text}
    {seen seen' : List Location} {n n' : Nat} (h : t.Leads follow dir parts seen n l)
    (h' : t.Leads follow dir parts seen' n' l') : l = l' := by
  have e := walk_of_leads h (max n n')
  rw [walk_of_leads h' (max n n'), if_pos (Nat.le_max_left ..), if_pos (Nat.le_max_right ..)] at e
  exact (Except.ok.inj e).symm

/-! ## Inversion -/

theorem not_isName_current : ¬ IsName "." := fun h => h.1 rfl

theorem not_isName_up : ¬ IsName ".." := fun h => h.2.1 rfl

theorem Leads.of_current {t : FileTree} {follow : Bool} {dir l : Location} {rest : List Text}
    {seen : List Location} {n : Nat} (h : t.Leads follow dir (("." : Text) :: rest) seen n l) :
    t.Leads follow dir rest seen n l := by
  cases h with
  | current hr => exact hr
  | enter hp | through hp | stop hp | leaf hp => exact absurd hp not_isName_current

theorem Leads.of_up {t : FileTree} {follow : Bool} {dir l : Location} {rest : List Text}
    {seen : List Location} {n : Nat} (h : t.Leads follow dir ((".." : Text) :: rest) seen n l) :
    t.Leads follow dir.dropLast rest seen n l := by
  cases h with
  | up hr => exact hr
  | enter hp | through hp | stop hp | leaf hp => exact absurd hp not_isName_up

/-- A part of a route that is looked up is a name. -/
theorem Leads.isName {t : FileTree} {follow : Bool} {dir l : Location} {part : Text}
    {rest : List Text} {seen : List Location} {n : Nat}
    (h : t.Leads follow dir (part :: rest) seen n l) (hc : part ≠ ".") (hu : part ≠ "..") :
    IsName part := by
  cases h with
  | current _ => exact absurd rfl hc
  | up _ => exact absurd rfl hu
  | enter hp | through hp | stop hp | leaf hp => exact hp

/-- The ways on from a name. -/
theorem Leads.name_cases {t : FileTree} {follow : Bool} {dir l : Location} {part : Text}
    {rest : List Text} {seen : List Location} {n : Nat} (hp : IsName part)
    (h : t.Leads follow dir (part :: rest) seen n l) :
    (rest = [] ∧ follow = false ∧ seen = [] ∧ n = 0 ∧ l = dir ++ [part]) ∨
    ((rest ≠ [] ∨ follow = true) ∧ ∃ s, seen = (dir ++ [part]) :: s ∧
      ((t.get? (dir ++ [part]) = some .directory ∧ t.Leads follow (dir ++ [part]) rest s n l) ∨
       (∃ target m, t.get? (dir ++ [part]) = some (.link target) ∧ n = m + 1 ∧
          t.Leads follow (linkBase target dir) (steps target ++ rest) s m l) ∨
       ((t.get? (dir ++ [part]) = none ∨ ∃ f, t.get? (dir ++ [part]) = some (.file f)) ∧
          rest = [] ∧ s = [] ∧ n = 0 ∧ l = dir ++ [part]))) := by
  cases h with
  | current _ => exact absurd hp not_isName_current
  | up _ => exact absurd hp not_isName_up
  | enter _ ho hg hr => exact .inr ⟨ho, _, rfl, .inl ⟨hg, hr⟩⟩
  | through _ ho hg hr => exact .inr ⟨ho, _, rfl, .inr (.inl ⟨_, _, hg, rfl, hr⟩)⟩
  | stop _ hf => exact .inl ⟨rfl, hf, rfl, rfl, rfl⟩
  | leaf _ hf hg => exact .inr ⟨.inr hf, [], rfl, .inr (.inr ⟨hg, rfl, rfl, rfl, rfl⟩)⟩

/-- At a link that is not the end, a route goes on from the link's target. -/
theorem Leads.at_link {t : FileTree} {follow : Bool} {dir l : Location} {part : Text}
    {rest : List Text} {seen : List Location} {n : Nat} {target : Path} (hp : IsName part)
    (h : t.Leads follow dir (part :: rest) seen n l) (ho : rest ≠ [] ∨ follow = true)
    (hg : t.get? (dir ++ [part]) = some (.link target)) :
    ∃ s m, seen = (dir ++ [part]) :: s ∧ n = m + 1 ∧
      t.Leads follow (linkBase target dir) (steps target ++ rest) s m l := by
  rcases h.name_cases hp with ⟨hr, hf, _⟩ | ⟨_, s, hs, ⟨hd, _⟩ | ⟨target', m, hl, hn, hr⟩ | ⟨hd, _⟩⟩
  · rcases ho with ho | ho
    · exact absurd hr ho
    · rw [hf] at ho; cases ho
  · rw [hg] at hd; cases hd
  · rw [hg] at hl
    cases hl
    exact ⟨s, m, hs, hn, hr⟩
  · rcases hd with hd | ⟨f, hd⟩ <;> rw [hg] at hd <;> cases hd

/-- At a directory that is not the end, a route goes on from there. -/
theorem Leads.at_directory {t : FileTree} {follow : Bool} {dir l : Location} {part : Text}
    {rest : List Text} {seen : List Location} {n : Nat} (hp : IsName part)
    (h : t.Leads follow dir (part :: rest) seen n l) (ho : rest ≠ [] ∨ follow = true)
    (hg : t.get? (dir ++ [part]) = some .directory) :
    ∃ s, seen = (dir ++ [part]) :: s ∧ t.Leads follow (dir ++ [part]) rest s n l := by
  rcases h.name_cases hp with ⟨hr, hf, _⟩ | ⟨_, s, hs, ⟨_, hr⟩ | ⟨_, _, hl, _⟩ | ⟨hd, _⟩⟩
  · rcases ho with ho | ho
    · exact absurd hr ho
    · rw [hf] at ho; cases ho
  · exact ⟨s, hs, hr⟩
  · rw [hg] at hl; cases hl
  · rcases hd with hd | ⟨f, hd⟩ <;> rw [hg] at hd <;> cases hd

/-! ## Grounded locations -/

/-- A location that is a directory, as are all above it. A walk is at such locations only. -/
def Grounded (t : FileTree) (dir : Location) : Prop := ∀ x, x <+: dir → t.get? x = some .directory

theorem get?_nil (t : FileTree) : t.get? [] = some .directory := if_pos rfl

theorem grounded_nil (t : FileTree) : t.Grounded [] := by
  intro x hx
  rw [List.prefix_nil.1 hx]
  exact t.get?_nil

namespace Grounded

variable {t : FileTree} {dir : Location}

theorem self (h : t.Grounded dir) : t.get? dir = some .directory := h dir (List.prefix_refl dir)

theorem above {x : Location} (h : t.Grounded dir) (hx : x <+: dir) : t.Grounded x :=
  fun _ hy => h _ (hy.trans hx)

theorem dropLast (h : t.Grounded dir) : t.Grounded dir.dropLast :=
  h.above (List.dropLast_prefix dir)

theorem snoc {part : Text} (h : t.Grounded dir)
    (hg : t.get? (dir ++ [part]) = some .directory) : t.Grounded (dir ++ [part]) := by
  intro x hx
  rcases List.prefix_concat_iff.1 hx with rfl | hx
  · exact hg
  · exact h x hx

theorem linkBase (h : t.Grounded dir) (target : Path) : t.Grounded (linkBase target dir) := by
  unfold FileTree.linkBase
  split
  · exact grounded_nil t
  · exact h

end Grounded

/-! ## What a route depends on -/

/-- A walk depends on nothing but the places it passes. -/
theorem Leads.congr {t t' : FileTree} {follow : Bool} {dir l : Location} {parts : List Text}
    {seen : List Location} {n : Nat} (h : t.Leads follow dir parts seen n l)
    (same : ∀ x ∈ seen, t'.get? x = t.get? x) : t'.Leads follow dir parts seen n l := by
  induction h with
  | done => exact .done
  | current _ ih => exact .current (ih same)
  | up _ ih => exact .up (ih same)
  | enter hp ho hg _ ih =>
    have here := same _ (List.mem_cons_self ..)
    exact .enter hp ho (here.trans hg) (ih fun x hx => same x (List.mem_cons_of_mem _ hx))
  | through hp ho hg _ ih =>
    have here := same _ (List.mem_cons_self ..)
    exact .through hp ho (here.trans hg) (ih fun x hx => same x (List.mem_cons_of_mem _ hx))
  | stop hp hf => exact .stop hp hf
  | leaf hp hf hg =>
    have here := same _ (List.mem_cons_self ..)
    exact .leaf hp hf (by rw [here]; exact hg)

/-- A route passes places in directories. -/
theorem Leads.grounded_of_mem {t : FileTree} {follow : Bool} {dir l : Location}
    {parts : List Text} {seen : List Location} {n : Nat} (h : t.Leads follow dir parts seen n l)
    (hd : t.Grounded dir) {x : Location} (hx : x ∈ seen) :
    ∃ d part, x = d ++ [part] ∧ IsName part ∧ t.Grounded d := by
  induction h with
  | done => cases hx
  | current _ ih => exact ih hd hx
  | up _ ih => exact ih hd.dropLast hx
  | enter hp _ hg _ ih =>
    rcases List.mem_cons.1 hx with rfl | hx
    · exact ⟨_, _, rfl, hp, hd⟩
    · exact ih (hd.snoc hg) hx
  | @through dir _ _ _ _ _ target hp _ hg _ ih =>
    rcases List.mem_cons.1 hx with rfl | hx
    · exact ⟨_, _, rfl, hp, hd⟩
    · exact ih (hd.linkBase target) hx
  | stop _ _ => cases hx
  | leaf hp _ _ =>
    obtain rfl := List.mem_singleton.1 hx
    exact ⟨_, _, rfl, hp, hd⟩

/-- A route that does not follow its last link, or ends at a directory, passes directories and links
only. -/
theorem Leads.passed {t : FileTree} {follow : Bool} {dir l : Location} {parts : List Text}
    {seen : List Location} {n : Nat} (h : t.Leads follow dir parts seen n l)
    (hl : follow = false ∨ t.get? l = some .directory) {x : Location} (hx : x ∈ seen) :
    t.get? x = some .directory ∨ ∃ target, t.get? x = some (.link target) := by
  induction h with
  | done => cases hx
  | current _ ih => exact ih hl hx
  | up _ ih => exact ih hl hx
  | enter _ _ hg _ ih =>
    rcases List.mem_cons.1 hx with rfl | hx
    · exact .inl hg
    · exact ih hl hx
  | through _ _ hg _ ih =>
    rcases List.mem_cons.1 hx with rfl | hx
    · exact .inr ⟨_, hg⟩
    · exact ih hl hx
  | stop _ _ => cases hx
  | leaf _ hf _ =>
    obtain rfl := List.mem_singleton.1 hx
    rcases hl with hl | hl
    · rw [hf] at hl; cases hl
    · exact .inl hl

/-- A route that does not follow its last link, or ends at something, passes no place where nothing
is. -/
theorem Leads.get?_ne_none {t : FileTree} {follow : Bool} {dir l : Location} {parts : List Text}
    {seen : List Location} {n : Nat} (h : t.Leads follow dir parts seen n l)
    (hl : follow = false ∨ t.get? l ≠ none) {x : Location} (hx : x ∈ seen) : t.get? x ≠ none := by
  induction h with
  | done => cases hx
  | current _ ih => exact ih hl hx
  | up _ ih => exact ih hl hx
  | enter _ _ hg _ ih =>
    rcases List.mem_cons.1 hx with rfl | hx
    · simp [hg]
    · exact ih hl hx
  | through _ _ hg _ ih =>
    rcases List.mem_cons.1 hx with rfl | hx
    · simp [hg]
    · exact ih hl hx
  | stop _ _ => cases hx
  | leaf _ hf _ =>
    obtain rfl := List.mem_singleton.1 hx
    exact hl.resolve_left (by simp [hf])

/-! ## Cutting and joining routes -/

/-- A route through some parts and others behind them first leads to a directory. -/
theorem Leads.split {t : FileTree} {follow : Bool} {dir l : Location} {a b : List Text}
    {seen : List Location} {n : Nat} (h : t.Leads follow dir (a ++ b) seen n l) (hb : b ≠ [])
    (hd : t.Grounded dir) :
    ∃ mid s₁ s₂ n₁ n₂, t.Leads true dir a s₁ n₁ mid ∧ t.Leads follow mid b s₂ n₂ l ∧
      seen = s₁ ++ s₂ ∧ n = n₁ + n₂ ∧ t.Grounded mid := by
  -- by induction on the route: it is cut where the parts of `a` are used up, which may be at its start
  generalize hparts : a ++ b = parts at h
  induction h generalizing a with
  | done => exact absurd (List.append_eq_nil_iff.1 hparts).2 hb
  | @current dir l rest seen n hr ih =>
    cases a with
    | nil =>
      obtain rfl : b = _ := hparts
      exact ⟨dir, [], _, 0, _, .done, .current hr, rfl, (Nat.zero_add _).symm, hd⟩
    | cons p a =>
      obtain ⟨rfl, rfl⟩ := List.cons.inj hparts
      obtain ⟨mid, s₁, s₂, n₁, n₂, h₁, h₂, hs, hn, hm⟩ := ih hd rfl
      exact ⟨mid, s₁, s₂, n₁, n₂, .current h₁, h₂, hs, hn, hm⟩
  | @up dir l rest seen n hr ih =>
    cases a with
    | nil =>
      obtain rfl : b = _ := hparts
      exact ⟨dir, [], _, 0, _, .done, .up hr, rfl, (Nat.zero_add _).symm, hd⟩
    | cons p a =>
      obtain ⟨rfl, rfl⟩ := List.cons.inj hparts
      obtain ⟨mid, s₁, s₂, n₁, n₂, h₁, h₂, hs, hn, hm⟩ := ih hd.dropLast rfl
      exact ⟨mid, s₁, s₂, n₁, n₂, .up h₁, h₂, hs, hn, hm⟩
  | @enter dir l part rest seen n hp ho hg hr ih =>
    cases a with
    | nil =>
      obtain rfl : b = _ := hparts
      exact ⟨dir, [], _, 0, _, .done, .enter hp ho hg hr, rfl, (Nat.zero_add _).symm, hd⟩
    | cons p a =>
      obtain ⟨rfl, rfl⟩ := List.cons.inj hparts
      obtain ⟨mid, s₁, s₂, n₁, n₂, h₁, h₂, hs, hn, hm⟩ := ih (hd.snoc hg) rfl
      exact ⟨mid, _ :: s₁, s₂, n₁, n₂, .enter hp (.inr rfl) hg h₁, h₂, by simp [hs], hn, hm⟩
  | @through dir l part rest seen n target hp ho hg hr ih =>
    cases a with
    | nil =>
      obtain rfl : b = _ := hparts
      exact ⟨dir, [], _, 0, _, .done, .through hp ho hg hr, rfl, (Nat.zero_add _).symm, hd⟩
    | cons p a =>
      obtain ⟨rfl, rfl⟩ := List.cons.inj hparts
      -- the steps of the target come before what is left of `a`
      obtain ⟨mid, s₁, s₂, n₁, n₂, h₁, h₂, hs, hn, hm⟩ :=
        ih (hd.linkBase target) (List.append_assoc ..)
      exact ⟨mid, _ :: s₁, s₂, n₁ + 1, n₂, .through hp (.inr rfl) hg h₁, h₂, by simp [hs],
        by omega, hm⟩
  | @stop dir part hp hf =>
    cases a with
    | nil =>
      obtain rfl : b = _ := hparts
      exact ⟨dir, [], _, 0, _, .done, .stop hp hf, rfl, (Nat.zero_add _).symm, hd⟩
    | cons p a =>
      have hnil := (List.cons.inj hparts).2
      exact absurd (List.append_eq_nil_iff.1 hnil).2 hb
  | @leaf dir part hp hf hg =>
    cases a with
    | nil =>
      obtain rfl : b = _ := hparts
      exact ⟨dir, [], _, 0, _, .done, .leaf hp hf hg, rfl, (Nat.zero_add _).symm, hd⟩
    | cons p a =>
      have hnil := (List.cons.inj hparts).2
      exact absurd (List.append_eq_nil_iff.1 hnil).2 hb

/-- A route to a directory and one from there are a route. -/
theorem Leads.comp {t : FileTree} {follow : Bool} {dir mid l : Location} {a b : List Text}
    {s₁ s₂ : List Location} {n₁ n₂ : Nat} (h₁ : t.Leads true dir a s₁ n₁ mid)
    (hm : t.get? mid = some .directory) (h₂ : t.Leads follow mid b s₂ n₂ l)
    (ho : b ≠ [] ∨ follow = true) :
    t.Leads follow dir (a ++ b) (s₁ ++ s₂) (n₁ + n₂) l := by
  have onward : ∀ rest : List Text, rest ++ b ≠ [] ∨ follow = true := by
    intro rest
    rcases ho with hb | hf
    · exact .inl (by simp [hb])
    · exact .inr hf
  induction h₁ with
  | done => simpa using h₂
  | current _ ih => exact .current (ih hm h₂)
  | up _ ih => exact .up (ih hm h₂)
  | enter hp _ hg _ ih => exact .enter hp (onward _) hg (ih hm h₂)
  | through hp _ hg _ ih =>
    have := ih hm h₂
    rw [List.append_assoc] at this
    rw [Nat.add_right_comm]
    exact .through hp (onward _) hg this
  | stop _ hf => cases hf
  | leaf _ _ hg => rcases hg with hg | ⟨f, hg⟩ <;> rw [hm] at hg <;> cases hg

/-- A route goes on from any place it passes. -/
theorem Leads.resume {t : FileTree} {follow : Bool} {dir l : Location} {parts : List Text}
    {seen : List Location} {n : Nat} (h : t.Leads follow dir parts seen n l)
    (hd : t.Grounded dir) {x : Location} (hx : x ∈ seen) :
    ∃ d part rest s m, x = d ++ [part] ∧ IsName part ∧ t.Grounded d ∧
      (rest ≠ [] ∨ follow = true) ∧ t.Leads follow d (part :: rest) (x :: s) m l := by
  induction h with
  | done => cases hx
  | current _ ih => exact ih hd hx
  | up _ ih => exact ih hd.dropLast hx
  | enter hp ho hg hr ih =>
    rcases List.mem_cons.1 hx with rfl | hx
    · exact ⟨_, _, _, _, _, rfl, hp, hd, ho, .enter hp ho hg hr⟩
    · exact ih (hd.snoc hg) hx
  | @through _ _ _ _ _ _ target hp ho hg hr ih =>
    rcases List.mem_cons.1 hx with rfl | hx
    · exact ⟨_, _, _, _, _, rfl, hp, hd, ho, .through hp ho hg hr⟩
    · exact ih (hd.linkBase target) hx
  | stop _ _ => cases hx
  | leaf hp hf hg =>
    obtain rfl := List.mem_singleton.1 hx
    exact ⟨_, _, _, _, _, rfl, hp, hd, .inr hf, .leaf hp hf hg⟩

/-- Behind a link that a route passes, the link's target is a directory, unless the route ends
there. -/
theorem Leads.link_target {t : FileTree} {follow : Bool} {dir l : Location} {parts : List Text}
    {seen : List Location} {n : Nat} (h : t.Leads follow dir parts seen n l)
    (hd : t.Grounded dir) {x : Location} (hx : x ∈ seen) {target : Path}
    (hg : t.get? x = some (.link target)) (hl : follow = false ∨ t.get? l = some .directory) :
    ∃ mid s m, t.Leads true (linkBase target x.dropLast) (steps target) s m mid ∧
      t.get? mid = some .directory := by
  obtain ⟨d, part, rest, s, m, rfl, hp, hgr, ho, hr⟩ := h.resume hd hx
  obtain ⟨s', m', -, -, hr'⟩ := hr.at_link hp ho hg
  rw [List.dropLast_concat]
  -- behind the target the route goes on, which only directories allow, or it ends there
  by_cases hrest : rest = []
  · subst hrest
    rw [List.append_nil] at hr'
    rcases hl with rfl | hl
    · simp at ho
    · rcases ho with ho | rfl
      · exact absurd rfl ho
      · exact ⟨l, s', m', hr', hl⟩
  · obtain ⟨mid, s₁, _, n₁, _, h₁, _, _, _, hm⟩ := hr'.split hrest (hgr.linkBase target)
    exact ⟨mid, s₁, n₁, h₁, hm.self⟩

/-- A route that ends at a link can be followed to where its target leads. -/
theorem Leads.follow_link {t : FileTree} {dir l mid : Location} {parts : List Text}
    {seen s : List Location} {n m : Nat} {target : Path} (h : t.Leads false dir parts seen n l)
    (hd : t.Grounded dir) (hg : t.get? l = some (.link target))
    (ht : t.Leads true (linkBase target l.dropLast) (steps target) s m mid) :
    ∃ seen' n', t.Leads true dir parts seen' n' mid := by
  generalize hf : false = follow at h
  induction h with
  | done => rw [hd.self] at hg; cases hg
  | current _ ih =>
    obtain ⟨seen', n', hr⟩ := ih hd hg ht
    exact ⟨_, _, .current hr⟩
  | up _ ih =>
    obtain ⟨seen', n', hr⟩ := ih hd.dropLast hg ht
    exact ⟨_, _, .up hr⟩
  | enter hp _ hx _ ih =>
    obtain ⟨seen', n', hr⟩ := ih (hd.snoc hx) hg ht
    exact ⟨_, _, .enter hp (.inr rfl) hx hr⟩
  | @through _ _ _ _ _ _ target' hp _ hx _ ih =>
    obtain ⟨seen', n', hr⟩ := ih (hd.linkBase target') hg ht
    exact ⟨_, _, .through hp (.inr rfl) hx hr⟩
  | stop hp _ =>
    -- the end itself is the link, which is replaced now
    rw [List.dropLast_concat] at ht
    exact ⟨_, _, .through hp (.inr rfl) hg (by rwa [List.append_nil])⟩
  | leaf _ hf' _ => rw [hf'] at hf; cases hf

/-- A route that is followed to the end passes the link that the same parts name. -/
theorem Leads.mem_of_link {t : FileTree} {dir l m : Location} {parts : List Text}
    {seen seen' : List Location} {n n' : Nat} {target : Path}
    (h : t.Leads false dir parts seen n l) (hd : t.Grounded dir)
    (hg : t.get? l = some (.link target)) (h' : t.Leads true dir parts seen' n' m) : l ∈ seen' := by
  generalize hf : false = follow at h
  induction h generalizing seen' n' with
  | done => rw [hd.self] at hg; cases hg
  | current _ ih => exact ih hd hg h'.of_current
  | up _ ih => exact ih hd.dropLast hg h'.of_up
  | enter hp _ hx _ ih =>
    obtain ⟨s, rfl, hr⟩ := h'.at_directory hp (.inr rfl) hx
    exact List.mem_cons_of_mem _ (ih (hd.snoc hx) hg hr)
  | @through _ _ _ _ _ _ target' hp _ hx _ ih =>
    obtain ⟨s, _, rfl, -, hr⟩ := h'.at_link hp (.inr rfl) hx
    exact List.mem_cons_of_mem _ (ih (hd.linkBase target') hg hr)
  | stop hp _ =>
    obtain ⟨s, _, rfl, -, -⟩ := h'.at_link hp (.inr rfl) hg
    exact List.mem_cons_self
  | leaf _ hf' _ => rw [hf'] at hf; cases hf

/-- Two trees in which the same parts lead to different places differ at a place that both routes
pass. -/
theorem Leads.diverge {t t' : FileTree} {follow : Bool} {dir l l' : Location} {parts : List Text}
    {seen seen' : List Location} {n n' : Nat} (h : t.Leads follow dir parts seen n l)
    (h' : t'.Leads follow dir parts seen' n' l') (hne : l ≠ l') :
    ∃ x, x ∈ seen ∧ x ∈ seen' ∧ t.get? x ≠ t'.get? x := by
  -- as long as the trees agree on what the routes pass, both go on in the same way
  induction h generalizing seen' n' with
  | done => cases h'; exact absurd rfl hne
  | current _ ih =>
    cases h' with
    | current h' => exact ih h' hne
    | enter hp | through hp | stop hp | leaf hp => exact absurd hp not_isName_current
  | up _ ih =>
    cases h' with
    | up h' => exact ih h' hne
    | enter hp | through hp | stop hp | leaf hp => exact absurd hp not_isName_up
  | @enter dir l part rest seen n hp ho hg _ ih =>
    rcases h'.name_cases hp with ⟨hr, hf, _⟩ | ⟨_, s, rfl, hcase⟩
    · simp [hr, hf] at ho
    by_cases same : t.get? (dir ++ [part]) = t'.get? (dir ++ [part])
    · rw [← same, hg] at hcase
      rcases hcase with ⟨_, h'⟩ | ⟨_, _, hx, _⟩ | ⟨hx | ⟨_, hx⟩, _⟩
      · obtain ⟨x, hx, hx', hd⟩ := ih h' hne
        exact ⟨x, List.mem_cons_of_mem _ hx, List.mem_cons_of_mem _ hx', hd⟩
      all_goals cases hx
    · exact ⟨_, List.mem_cons_self .., List.mem_cons_self .., same⟩
  | @through dir l part rest seen n target hp ho hg _ ih =>
    rcases h'.name_cases hp with ⟨hr, hf, _⟩ | ⟨_, s, rfl, hcase⟩
    · simp [hr, hf] at ho
    by_cases same : t.get? (dir ++ [part]) = t'.get? (dir ++ [part])
    · rw [← same, hg] at hcase
      rcases hcase with ⟨hx, _⟩ | ⟨_, _, hx, _, h'⟩ | ⟨hx | ⟨_, hx⟩, _⟩
      · cases hx
      · cases hx
        obtain ⟨x, hx, hx', hd⟩ := ih h' hne
        exact ⟨x, List.mem_cons_of_mem _ hx, List.mem_cons_of_mem _ hx', hd⟩
      all_goals cases hx
    · exact ⟨_, List.mem_cons_self .., List.mem_cons_self .., same⟩
  | @stop dir part hp hf =>
    rcases h'.name_cases hp with ⟨_, _, _, _, hl⟩ | ⟨ho, _⟩
    · exact absurd hl.symm hne
    · simp [hf] at ho
  | @leaf dir part hp hf hg =>
    rcases h'.name_cases hp with ⟨_, hf', _⟩ | ⟨_, s, rfl, hcase⟩
    · rw [hf] at hf'; cases hf'
    by_cases same : t.get? (dir ++ [part]) = t'.get? (dir ++ [part])
    · rw [← same] at hcase
      rcases hcase with ⟨hx, _⟩ | ⟨_, _, hx, _⟩ | ⟨_, _, _, _, hl⟩
      · rcases hg with hg | ⟨_, hg⟩ <;> rw [hg] at hx <;> cases hx
      · rcases hg with hg | ⟨_, hg⟩ <;> rw [hg] at hx <;> cases hx
      · exact absurd hl.symm hne
    · exact ⟨_, List.mem_cons_self .., List.mem_cons_self .., same⟩

end CatalogAdmin.FileTree
