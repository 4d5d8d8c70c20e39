import CatalogAdmin.Proofs.FileTree.Routes
import CatalogAdmin.Proofs.Path.Components

/-!
# Where paths lead

`locate` is a walk through the steps of a path. Here are the routes of paths as they are written:

1. `leads_of_locate`, `locate_of_leads`: a path that can be walked leads where its route leads.
2. `Leads.of_solid_eq`: on the way to a directory a `.` makes no difference.
3. `Leads.follow_end`: following the end of a route changes nothing where no link stands there.
4. `not_mem_of_leads_to_file`: no route to somewhere else passes the place of a file, nor a link that
   leads to one.
-/

namespace CatalogAdmin.FileTree

open CatalogAdmin.Path (solid)

-- where a path leads can be decided
deriving instance DecidableEq for Except

/-! ## Paths that can be walked -/

/-- A path that a walk can be tried with. -/
def Walkable (p : Path) : Prop :=
  '\x00' ∉ p.text ∧ p.text ≠ [] ∧ p.text.byteLength ≤ pathLimit

theorem Walkable.of_sublist {p q : Path} (h : Walkable q) (hsub : p.text.Sublist q.text)
    (hne : p.text ≠ []) : Walkable p :=
  ⟨fun hnul => h.1 (hsub.subset hnul), hne,
    Nat.le_trans (Text.byteLength_le_of_sublist hsub) h.2.2⟩

/-- Where the walk of a path starts from. -/
def origin (t : FileTree) (p : Path) : Location := if p.isAbsolute then [] else t.here

variable {t t' : FileTree} {follow : Bool} {p : Path} {dir l : Location} {parts : List Text}
  {seen : List Location} {n : Nat}

theorem origin_of_isAbsolute (t : FileTree) (h : p.isAbsolute = true) : t.origin p = [] := by
  rw [origin, if_pos h]

theorem origin_of_here (hhere : t'.here = t.here) (p : Path) : t'.origin p = t.origin p := by
  rw [origin, origin, hhere]

theorem grounded_origin (t : FileTree) (h : p.isAbsolute = true) : t.Grounded (t.origin p) := by
  rw [origin_of_isAbsolute t h]
  exact grounded_nil t

theorem leads_of_locate (h : t.locate follow p = .ok l) :
    Walkable p ∧ ∃ seen n, n ≤ linkLimit ∧ t.Leads follow (t.origin p) (steps p) seen n l := by
  unfold locate at h
  split at h
  · cases h
  split at h
  · cases h
  split at h
  · cases h
  next hn he hl => exact ⟨⟨hn, he, by omega⟩, leads_of_walk h⟩

/-- A path that can be walked leads where its route leads, unless the route replaces too many
links. -/
theorem locate_of_leads (hw : Walkable p)
    (h : t.Leads follow (t.origin p) (steps p) seen n l) :
    t.locate follow p = if n ≤ linkLimit then .ok l else .error .tooManyLinks := by
  obtain ⟨hn, he, hl⟩ := hw
  unfold locate
  rw [if_neg hn, if_neg he, if_neg (by omega)]
  exact walk_of_leads h linkLimit

theorem locate_eq_of_leads (hw : Walkable p)
    (h : t.Leads follow (t.origin p) (steps p) seen n l) (hn : n ≤ linkLimit) :
    t.locate follow p = .ok l := by
  rw [locate_of_leads hw h, if_pos hn]

/-- An absolute path leads where its route from the root leads. -/
theorem leads_of_locate_absolute (hp : p.isAbsolute = true) (h : t.locate follow p = .ok l) :
    Walkable p ∧ ∃ seen n, n ≤ linkLimit ∧ t.Leads follow [] (steps p) seen n l := by
  have hl := leads_of_locate h
  rwa [origin_of_isAbsolute t hp] at hl

theorem locate_of_leads_absolute (hp : p.isAbsolute = true) (hw : Walkable p)
    (h : t.Leads follow [] (steps p) seen n l) :
    t.locate follow p = if n ≤ linkLimit then .ok l else .error .tooManyLinks := by
  rw [← origin_of_isAbsolute t hp] at h
  exact locate_of_leads hw h

theorem locate_eq_of_leads_absolute (hp : p.isAbsolute = true) (hw : Walkable p)
    (h : t.Leads follow [] (steps p) seen n l) (hn : n ≤ linkLimit) : t.locate follow p = .ok l := by
  rw [locate_of_leads_absolute hp hw h, if_pos hn]

theorem locate_eq_walk (t : FileTree) (follow : Bool) (hw : Walkable p) :
    t.locate follow p = t.walk follow linkLimit (t.origin p) (steps p) := by
  obtain ⟨hn, he, hl⟩ := hw
  unfold locate
  rw [if_neg hn, if_neg he, if_neg (by omega)]
  rfl

/-- A path that cannot be walked fails alike in all trees. -/
theorem locate_of_not_walkable (t t' : FileTree) (follow : Bool) (h : ¬ Walkable p) :
    t'.locate follow p = t.locate follow p := by
  unfold locate
  split
  · rfl
  next hn =>
  split
  · rfl
  next he =>
  split
  · rfl
  next hl => exact absurd ⟨hn, he, by omega⟩ h

/-- A path that cannot be walked is not just missing. -/
theorem walkable_of_notFound (h : t.locate follow p = .error .notFound) (hne : p.text ≠ []) :
    Walkable p := by
  unfold locate at h
  rw [if_neg hne] at h
  split at h
  · cases h
  next hn =>
  split at h
  · cases h
  next hlong => exact ⟨hn, hne, by omega⟩

/-- What a route leads to can only be missed for another reason than that something is missing. -/
theorem locate_ne_notFound (h : t.Leads follow (t.origin p) (steps p) seen n l)
    (hne : p.text ≠ []) : t.locate follow p ≠ .error .notFound := by
  intro hl
  rw [locate_of_leads (walkable_of_notFound hl hne) h] at hl
  split at hl <;> cases hl

theorem text_ne_nil_of_isAbsolute (h : p.isAbsolute = true) : p.text ≠ [] := by
  intro hnil
  rw [Path.isAbsolute, hnil] at h
  cases h

/-! ## Dots -/

theorem leads_dots {dots : List Text} (hd : ∀ d ∈ dots, d = ".")
    (h : t.Leads follow dir parts seen n l) : t.Leads follow dir (dots ++ parts) seen n l := by
  induction dots with
  | nil => exact h
  | cons d more ih =>
    obtain rfl := hd d (List.mem_cons_self ..)
    exact .current (ih fun x hx => hd x (List.mem_cons_of_mem _ hx))

theorem eq_of_solid_eq_nil (h : solid parts = []) : ∀ d ∈ parts, d = "." := by
  intro d hd
  have := List.filter_eq_nil_iff.1 h d hd
  simpa using this

/-- Where the solid parts begin with a name, the parts themselves do behind some dots. -/
theorem exists_of_solid_eq_cons {part : Text} {rest : List Text}
    (h : solid parts = part :: rest) :
    ∃ dots more, parts = dots ++ part :: more ∧ (∀ d ∈ dots, d = ".") ∧ solid more = rest := by
  obtain ⟨dots, more, hparts, hdots, -, hmore⟩ := List.filter_eq_cons_iff.1 h
  refine ⟨dots, more, hparts, fun d hd => ?_, hmore⟩
  simpa using hdots d hd

/-- On the way to a directory a `.` makes no difference. -/
theorem Leads.of_solid_eq {parts' : List Text} (h : t.Leads true dir parts seen n l)
    (hl : t.get? l = some .directory) (hs : solid parts' = solid parts) :
    t.Leads true dir parts' seen n l := by
  -- dots before and behind the solid parts lead nowhere else, as the end is a directory
  generalize hf : true = follow at h
  induction h generalizing parts' with
  | done =>
    rw [← List.append_nil parts']
    exact leads_dots (eq_of_solid_eq_nil hs) .done
  | current _ ih => exact ih hl (by rw [hs]; rfl)
  | up _ ih =>
    rw [Path.solid_cons (by decide)] at hs
    obtain ⟨dots, more, rfl, hdots, hmore⟩ := exists_of_solid_eq_cons hs
    exact leads_dots hdots (.up (ih hl hmore))
  | enter hp _ hg _ ih =>
    rw [Path.solid_cons hp.1] at hs
    obtain ⟨dots, more, rfl, hdots, hmore⟩ := exists_of_solid_eq_cons hs
    exact leads_dots hdots (.enter hp (.inr hf.symm) hg (ih hl hmore))
  | @through _ _ _ _ _ _ target hp _ hg _ ih =>
    rw [Path.solid_cons hp.1] at hs
    obtain ⟨dots, more, rfl, hdots, hmore⟩ := exists_of_solid_eq_cons hs
    refine leads_dots hdots (.through hp (.inr hf.symm) hg (ih hl ?_))
    rw [Path.solid_append, Path.solid_append, hmore]
  | stop _ hf' => rw [hf'] at hf; cases hf
  | leaf _ _ hg => rcases hg with hg | ⟨_, hg⟩ <;> rw [hl] at hg <;> cases hg

/-! ## Ends of routes -/

/-- A route that does not follow its last name ends at that name in some directory. -/
theorem Leads.last_name {part : Text} (h : t.Leads false dir (parts ++ [part]) seen n l)
    (hp : IsName part) (hd : t.Grounded dir) :
    ∃ mid s k, k ≤ n ∧ t.Leads true dir parts s k mid ∧ t.Grounded mid ∧ l = mid ++ [part] := by
  obtain ⟨mid, s, _, k, _, hmid, hlast, _, rfl, hgr⟩ := h.split (by simp) hd
  refine ⟨mid, s, k, Nat.le_add_right _ _, hmid, hgr, ?_⟩
  rcases hlast.name_cases hp with ⟨_, _, _, _, hl⟩ | ⟨ho, _⟩
  · exact hl
  · simp at ho

/-- The walk at a last name. -/
theorem walk_last_name (t : FileTree) (links : Nat) (dir : Location) {part : Text} (hc : part ≠ ".")
    (hu : part ≠ "..") :
    t.walk false links dir [part] =
      if nameLimit < part.byteLength then .error .nameTooLong else .ok (dir ++ [part]) := by
  by_cases hlong : nameLimit < part.byteLength
  · rw [if_pos hlong]
    cases links <;> simp only [walk, walkWith, if_neg hc, if_neg hu, if_pos hlong]
  · rw [if_neg hlong]
    have hp : IsName part := ⟨hc, hu, by omega⟩
    have hstop : t.Leads false dir [part] [] 0 (dir ++ [part]) := .stop hp rfl
    rw [walk_of_leads hstop, if_pos (Nat.zero_le _)]

/-- A route ends at the last name of its parts, in a directory. With another last name a walk comes to
this directory as well. -/
theorem Leads.sibling {part : Text} (h : t.Leads false dir (parts ++ [part]) seen n l)
    (hc : part ≠ ".") (hu : part ≠ "..") :
    ∃ mid, l = mid ++ [part] ∧ ∀ other links, n ≤ links →
      t.walk false links dir (parts ++ [other]) = t.walk false (links - n) mid [other] := by
  have hne : ∀ (front : List Text) (last : Text), front ++ [last] ≠ [] := by simp
  generalize hf : false = follow at h
  generalize hparts : parts ++ [part] = ps at h
  induction h generalizing parts with
  | done => exact absurd hparts (hne _ _)
  | current _ ih =>
    cases parts with
    | nil => exact absurd (List.cons.inj hparts).1 hc
    | cons =>
      obtain ⟨rfl, hrest⟩ := List.cons.inj hparts
      obtain ⟨mid, hl, hother⟩ := ih hrest
      refine ⟨mid, hl, fun other links hn => ?_⟩
      rw [List.cons_append, walk_current, hother other links hn]
  | up _ ih =>
    cases parts with
    | nil => exact absurd (List.cons.inj hparts).1 hu
    | cons =>
      obtain ⟨rfl, hrest⟩ := List.cons.inj hparts
      obtain ⟨mid, hl, hother⟩ := ih hrest
      refine ⟨mid, hl, fun other links hn => ?_⟩
      rw [List.cons_append, walk_up, hother other links hn]
  | enter hp ho hg _ ih =>
    cases parts with
    | nil =>
      -- a directory at the end is not entered
      obtain ⟨rfl, rfl⟩ := List.cons.inj hparts
      simp [← hf] at ho
    | cons =>
      obtain ⟨rfl, hrest⟩ := List.cons.inj hparts
      obtain ⟨mid, hl, hother⟩ := ih hrest
      refine ⟨mid, hl, fun other links hn => ?_⟩
      rw [List.cons_append, walk_name _ _ _ _ hp, hg]
      exact hother other links hn
  | @through _ _ _ _ _ n target hp ho hg _ ih =>
    cases parts with
    | nil =>
      obtain ⟨rfl, rfl⟩ := List.cons.inj hparts
      simp [← hf] at ho
    | cons p more =>
      obtain ⟨rfl, rfl⟩ := List.cons.inj hparts
      obtain ⟨mid, hl, hother⟩ := ih (List.append_assoc ..)
      refine ⟨mid, hl, fun other links hn => ?_⟩
      have hmore : ((more ++ [other]).isEmpty && !follow) = false := by simp
      cases links with
      | zero => exact absurd hn (Nat.not_succ_le_zero n)
      | succ links =>
        rw [List.cons_append, walk_name _ _ _ _ hp, hg]
        simp only [hmore, Bool.false_eq_true, if_false, walkLink]
        rw [← List.append_assoc, hother other links (Nat.le_of_succ_le_succ hn),
          Nat.add_sub_add_right]
  | @stop dir _ hp _ =>
    cases parts with
    | nil =>
      obtain ⟨rfl, -⟩ := List.cons.inj hparts
      exact ⟨dir, rfl, fun other links _ => rfl⟩
    | cons => exact absurd (List.cons.inj hparts).2 (hne _ _)
  | leaf _ hf' _ => rw [hf'] at hf; cases hf

/-- Following the end of a route changes nothing where no link stands there. -/
theorem Leads.follow_end (h : t.Leads false dir parts seen n l)
    (hl : ∀ target, t.get? l ≠ some (.link target)) :
    ∃ seen', t.Leads true dir parts seen' n l := by
  generalize hf : false = follow at h
  induction h with
  | done => exact ⟨_, .done⟩
  | current _ ih =>
    obtain ⟨seen', hr⟩ := ih hl
    exact ⟨_, .current hr⟩
  | up _ ih =>
    obtain ⟨seen', hr⟩ := ih hl
    exact ⟨_, .up hr⟩
  | enter hp _ hg _ ih =>
    obtain ⟨seen', hr⟩ := ih hl
    exact ⟨_, .enter hp (.inr rfl) hg hr⟩
  | through hp _ hg _ ih =>
    obtain ⟨seen', hr⟩ := ih hl
    exact ⟨_, .through hp (.inr rfl) hg hr⟩
  | @stop dir part hp _ =>
    cases hg : t.get? (dir ++ [part]) with
    | none => exact ⟨_, .leaf hp rfl (.inl hg)⟩
    | some node =>
      cases node with
      | directory => exact ⟨_, .enter hp (.inr rfl) hg .done⟩
      | file f => exact ⟨_, .leaf hp rfl (.inr ⟨f, hg⟩)⟩
      | link target => exact absurd hg (hl target)
  | leaf _ hf' _ => rw [hf'] at hf; cases hf

/-- No route passes the place of a file, nor a link that leads to a file. -/
theorem not_mem_of_leads_to_file {dir' l' m : Location} {parts' : List Text}
    {seen' seen'' : List Location} {n' n'' : Nat} {f : File}
    (hfile : t.Leads false dir' parts' seen' n' l') (hd' : t.Grounded dir')
    (hend : t.Leads true dir' parts' seen'' n'' m) (hm : t.get? m = some (.file f))
    (h : t.Leads follow dir parts seen n l) (hd : t.Grounded dir)
    (hl : follow = false ∨ t.get? l = some .directory) : l' ∉ seen := by
  intro hmem
  -- what the route passes is a directory, or a link to one, and so no way to a file
  rcases h.passed hl hmem with hg | ⟨target, hg⟩
  · obtain ⟨_, hr⟩ := hfile.follow_end (fun _ => by rw [hg]; simp)
    rw [hend.unique hr, hg] at hm
    cases hm
  · obtain ⟨mid, _, _, ht, hmid⟩ := h.link_target hd hmem hg hl
    obtain ⟨_, _, hr⟩ := hfile.follow_link hd' hg ht
    rw [hend.unique hr, hmid] at hm
    cases hm

/-- Where a route is followed to the end, there is one that stops at its last name. -/
theorem Leads.unfollowed (h : t.Leads true dir parts seen n l) :
    ∃ seen' n' place, n' ≤ n ∧ t.Leads false dir parts seen' n' place := by
  induction h with
  | done => exact ⟨_, _, _, Nat.le_refl _, .done⟩
  | current _ ih =>
    obtain ⟨_, _, _, hn, hr⟩ := ih
    exact ⟨_, _, _, hn, .current hr⟩
  | up _ ih =>
    obtain ⟨_, _, _, hn, hr⟩ := ih
    exact ⟨_, _, _, hn, .up hr⟩
  | @enter dir l part rest seen n hp _ hg _ ih =>
    cases rest with
    | nil => exact ⟨_, _, _, Nat.zero_le _, .stop hp rfl⟩
    | cons =>
      obtain ⟨_, _, _, hn, hr⟩ := ih
      exact ⟨_, _, _, hn, .enter hp (.inl (by simp)) hg hr⟩
  | @through dir l part rest seen n target hp _ hg _ ih =>
    cases rest with
    | nil => exact ⟨_, _, _, Nat.zero_le _, .stop hp rfl⟩
    | cons =>
      obtain ⟨_, _, _, hn, hr⟩ := ih
      exact ⟨_, _, _, Nat.succ_le_succ hn, .through hp (.inl (by simp)) hg hr⟩
  | stop _ hf => cases hf
  | leaf hp _ _ => exact ⟨_, _, _, Nat.le_refl _, .stop hp rfl⟩

/-- A path that leads somewhere has a place of its own. -/
theorem exists_place (h : t.locate true p = .ok l) : ∃ place, t.locate false p = .ok place := by
  obtain ⟨hw, _, n, hn, hr⟩ := leads_of_locate h
  obtain ⟨_, n', place, hle, hr'⟩ := hr.unfollowed
  exact ⟨place, locate_eq_of_leads hw hr' (Nat.le_trans hle hn)⟩

/-! ## What stands at a path -/

theorem exists_of_stat {node : Node} (h : t.stat follow p = .ok node) :
    ∃ l, t.locate follow p = .ok l ∧ t.get? l = some node := by
  unfold stat at h
  cases hl : t.locate follow p with
  | error e => rw [hl] at h; cases h
  | ok l =>
    rw [hl] at h
    cases hg : t.get? l with
    | none => simp only [bind, Except.bind, hg] at h; cases h
    | some found => simp only [bind, Except.bind, hg] at h; cases h; exact ⟨l, rfl, hg⟩

theorem stat_of_get? {node : Node} (h : t.locate follow p = .ok l) (hg : t.get? l = some node) :
    t.stat follow p = .ok node := by
  simp only [stat, h, bind, Except.bind, hg]
  rfl

theorem stat_of_none (h : t.locate follow p = .ok l) (hg : t.get? l = none) :
    t.stat follow p = .error .notFound := by
  simp only [stat, h, bind, Except.bind, hg]
  rfl

/-- A path leads to nothing where nothing is found. -/
theorem get?_of_notFound (h : t.locate follow p = .ok l) (hs : t.stat follow p = .error .notFound) :
    t.get? l = none := by
  cases hg : t.get? l with
  | none => rfl
  | some node =>
    rw [stat_of_get? h hg] at hs
    cases hs

theorem stat_of_error {e : IoError} (h : t.locate follow p = .error e) :
    t.stat follow p = .error e := by
  simp only [stat, h, bind, Except.bind]

/-- Where a route ends at something, something is found, unless the path cannot be walked. -/
theorem stat_ne_notFound {node : Node} (h : t.Leads follow (t.origin p) (steps p) seen n l)
    (hg : t.get? l = some node) (hne : p.text ≠ []) : t.stat follow p ≠ .error .notFound := by
  intro hstat
  cases hl : t.locate follow p with
  | error e =>
    rw [stat_of_error hl] at hstat
    cases hstat
    exact locate_ne_notFound h hne hl
  | ok l' =>
    obtain ⟨-, _, _, -, h'⟩ := leads_of_locate hl
    rw [stat_of_get? hl (h.unique h' ▸ hg)] at hstat
    cases hstat

theorem exists_of_readLink {target : Path} (h : t.readLink p = .ok target) :
    ∃ l, t.locate false p = .ok l ∧ t.get? l = some (.link target) := by
  unfold readLink at h
  cases hs : t.stat false p with
  | error e => rw [hs] at h; cases h
  | ok node =>
    rw [hs] at h
    cases node with
    | directory | file => cases h
    | link found => cases h; exact exists_of_stat hs

theorem readLink_of_get? {target : Path} (hl : t.locate false p = .ok l)
    (hg : t.get? l = some (.link target)) : t.readLink p = .ok target := by
  rw [readLink, stat_of_get? hl hg]
  rfl

theorem stat_of_isPresent (h : t.isPresent p = .ok true) : ∃ node, t.stat true p = .ok node := by
  unfold isPresent at h
  split at h
  · next node hs => exact ⟨node, hs⟩
  · cases h
  · cases h

theorem stat_of_not_isPresent (h : t.isPresent p = .ok false) :
    t.stat true p = .error .notFound := by
  unfold isPresent at h
  split at h
  · cases h
  · assumption
  · cases h

/-- Following the last link of a path makes no difference where it names no link. -/
theorem locate_follow (hl : t.locate false p = .ok l)
    (hg : ∀ target, t.get? l ≠ some (.link target)) : t.locate true p = .ok l := by
  obtain ⟨hw, _, _, hn, hroute⟩ := leads_of_locate hl
  obtain ⟨_, h⟩ := hroute.follow_end hg
  exact locate_eq_of_leads hw h hn

theorem stat_of_place {node : Node} (hl : t.locate false p = .ok l) (hg : t.get? l = some node)
    (hnode : ∀ target, node ≠ .link target) : t.stat true p = .ok node := by
  refine stat_of_get? (locate_follow hl fun target he => ?_) hg
  exact hnode target (Option.some.inj (hg.symm.trans he))

/-- What is found at the end of a route is found there in any tree that is the same along the route and has
it start at the same place. -/
theorem stat_of_same {place : Location} {node : Node} (horigin : t'.origin p = t.origin p)
    (h : t.Leads true (t.origin p) (steps p) seen n place) (hstat : t.stat true p = .ok node)
    (same : ∀ x ∈ place :: seen, t'.get? x = t.get? x) : t'.stat true p = .ok node := by
  obtain ⟨hplace, halong⟩ := List.forall_mem_cons.1 same
  obtain ⟨l, hl, hg⟩ := exists_of_stat hstat
  obtain ⟨hw, -⟩ := leads_of_locate hl
  have hroute := h.congr halong
  rw [← horigin] at hroute
  rw [locate_of_leads hw h] at hl
  split at hl
  · next hn =>
    cases hl
    exact stat_of_get? (locate_eq_of_leads hw hroute hn) (hplace.trans hg)
  · cases hl

/-! ## The place of a file -/

section

variable {f : File} {place : Location} {node : Node}

/-- Where a path leads to a file, something stands at the place it names, and no directory. -/
theorem get?_place (hf : t.stat true p = .ok (.file f)) (hplace : t.locate false p = .ok place) :
    t.get? place ≠ none ∧ t.get? place ≠ some .directory := by
  obtain ⟨l, hl, hg⟩ := exists_of_stat hf
  constructor
  all_goals
    intro hnode
    have h := locate_follow hplace fun _ => by rw [hnode]; simp
    rw [hl] at h
    cases h
    rw [hnode] at hg
    cases hg

theorem place_ne_nil (hf : t.stat true p = .ok (.file f))
    (hplace : t.locate false p = .ok place) : place ≠ [] := by
  rintro rfl
  exact (get?_place hf hplace).2 t.get?_nil

/-- Putting something in the place of a file, or of a link that leads to one, changes nothing that is
passed on the way to somewhere else. -/
theorem Leads.get?_put_place (ho : t.Grounded (t.origin p)) (hf : t.stat true p = .ok (.file f))
    (hplace : t.locate false p = .ok place) (h : t.Leads follow dir parts seen n l)
    (hd : t.Grounded dir) (hl : follow = false ∨ t.get? l = some .directory) {x : Location}
    (hx : x ∈ seen) : (t.put place node).get? x = t.get? x := by
  obtain ⟨m, hm, hg⟩ := exists_of_stat hf
  obtain ⟨-, _, _, -, hend⟩ := leads_of_locate hm
  obtain ⟨-, _, _, -, hroute⟩ := leads_of_locate hplace
  have hoff := not_mem_of_leads_to_file hroute ho hend hg h hd hl
  rw [get?_put _ _ _ _ (place_ne_nil hf hplace), if_neg]
  rintro rfl
  exact hoff hx

/-- So it changes no route but those that end there. -/
theorem Leads.put_place (ho : t.Grounded (t.origin p)) (hf : t.stat true p = .ok (.file f))
    (hplace : t.locate false p = .ok place) (h : t.Leads follow dir parts seen n l)
    (hd : t.Grounded dir) (hl : follow = false ∨ t.get? l = some .directory) :
    (t.put place node).Leads follow dir parts seen n l :=
  h.congr fun _ hx => h.get?_put_place ho hf hplace hd hl hx

theorem locate_put_place {q : Path} (ho : t.Grounded (t.origin p))
    (hf : t.stat true p = .ok (.file f)) (hplace : t.locate false p = .ok place)
    (hq : t.Grounded (t.origin q)) (h : t.locate false q = .ok l) :
    (t.put place node).locate false q = .ok l := by
  obtain ⟨hw, seen, n, hn, hroute⟩ := leads_of_locate h
  have hroute' : (t.put place node).Leads false _ _ seen n l :=
    hroute.put_place ho hf hplace hq (.inl rfl)
  exact locate_eq_of_leads hw hroute' hn

/-- What is no file when a file was put somewhere was the same before. -/
theorem get?_of_put_file {f' : File} {x : Location} {found : Option Node} (hne : place ≠ [])
    (h : (t.put place (.file f')).get? x = found) (hfile : ∀ g, found ≠ some (.file g)) :
    t.get? x = found := by
  rw [get?_put t place x _ hne] at h
  split at h
  · exact absurd h.symm (hfile f')
  · exact h

/-- A file is on the way of no route to somewhere else, so a route that is there when a file was put
somewhere was there before. -/
theorem Leads.of_put_file {f' : File} (hne : place ≠ [])
    (h : (t.put place (.file f')).Leads follow dir parts seen n l)
    (hl : follow = false ∨ (t.put place (.file f')).get? l = some .directory) :
    t.Leads follow dir parts seen n l := by
  refine h.congr fun x hx => ?_
  rcases h.passed hl hx with hg | ⟨_, hg⟩ <;> rw [hg, get?_of_put_file hne hg (by simp)]

theorem locate_of_put_file {q : Path} (f' : File) (hne : place ≠ [])
    (h : (t.put place (.file f')).locate false q = .ok l) : t.locate false q = .ok l := by
  obtain ⟨hw, _, _, hn, hroute⟩ := leads_of_locate h
  have hroute' : t.Leads false (t.origin q) (steps q) _ _ l := hroute.of_put_file hne (.inl rfl)
  exact locate_eq_of_leads hw hroute' hn

/-- What a route ends at is still found, maybe sooner, when a file is put in the place of a file, or of
a link that leads to one. -/
theorem Leads.found_put_place (f' : File) (ho : t.Grounded (t.origin p))
    (hf : t.stat true p = .ok (.file f)) (hplace : t.locate false p = .ok place)
    (h : t.Leads true dir parts seen n l) (hd : t.Grounded dir) (hl : t.get? l ≠ none) :
    ∃ seen' n' l', n' ≤ n ∧ (t.put place (.file f')).Leads true dir parts seen' n' l' ∧
      (t.put place (.file f')).get? l' ≠ none := by
  have hget := fun x => get?_put t place x (.file f') (place_ne_nil hf hplace)
  have hdirectory : ∀ x, t.get? x = some .directory →
      (t.put place (.file f')).get? x = some .directory := by
    intro x hx
    rw [hget, if_neg, hx]
    rintro rfl
    exact (get?_place hf hplace).2 hx
  generalize htrue : true = follow at h
  induction h with
  | done =>
    refine ⟨_, _, _, Nat.le_refl _, .done, ?_⟩
    rw [hdirectory _ hd.self]
    simp
  | current _ ih =>
    obtain ⟨_, _, _, hn, hr, hend⟩ := ih hd hl
    exact ⟨_, _, _, hn, .current hr, hend⟩
  | up _ ih =>
    obtain ⟨_, _, _, hn, hr, hend⟩ := ih hd.dropLast hl
    exact ⟨_, _, _, hn, .up hr, hend⟩
  | enter hp _ hg _ ih =>
    obtain ⟨_, _, _, hn, hr, hend⟩ := ih (hd.snoc hg) hl
    exact ⟨_, _, _, hn, .enter hp (.inr htrue.symm) (hdirectory _ hg) hr, hend⟩
  | @through dir l part rest _ n target hp _ hg hr ih =>
    by_cases hsame : dir ++ [part] = place
    · -- the link in the place leads to a file, so the route ends with it
      obtain rfl : rest = [] := by
        refine Decidable.byContradiction fun hrest => ?_
        obtain ⟨m, hm, hfile⟩ := exists_of_stat hf
        obtain ⟨-, _, _, -, hend⟩ := leads_of_locate hm
        obtain ⟨-, _, _, -, hroute⟩ := leads_of_locate hplace
        obtain ⟨mid, _, _, _, _, htarget, -, -, -, hmid⟩ := hr.split hrest (hd.linkBase target)
        rw [← hsame] at hroute
        obtain ⟨_, _, hfollow⟩ := hroute.follow_link ho hg (by rwa [List.dropLast_concat])
        rw [hend.unique hfollow, hmid.self] at hfile
        cases hfile
      have hnow : (t.put place (.file f')).get? (dir ++ [part]) = some (.file f') := by
        rw [hget, if_pos hsame]
      exact ⟨_, _, _, Nat.zero_le _, .leaf hp htrue.symm (.inr ⟨_, hnow⟩), by rw [hnow]; simp⟩
    · obtain ⟨_, _, _, hn, hr, hend⟩ := ih (hd.linkBase target) hl
      have hnow : (t.put place (.file f')).get? (dir ++ [part]) = some (.link target) := by
        rw [hget, if_neg hsame, hg]
      exact ⟨_, _, _, Nat.succ_le_succ hn, .through hp (.inr htrue.symm) hnow hr, hend⟩
  | stop _ hf' => rw [hf'] at htrue; cases htrue
  | @leaf dir part hp _ hg =>
    obtain ⟨g, hg⟩ := hg.resolve_left hl
    obtain ⟨g', hnow⟩ : ∃ g', (t.put place (.file f')).get? (dir ++ [part]) = some (.file g') := by
      rw [hget]
      split
      · exact ⟨f', rfl⟩
      · exact ⟨g, hg⟩
    exact ⟨_, _, _, Nat.le_refl _, .leaf hp htrue.symm (.inr ⟨g', hnow⟩), by rw [hnow]; simp⟩

/-- What a path leads to is still found when a file is put in the place of a file, or of a link that
leads to one. -/
theorem isPresent_put_place {q : Path} (f' : File) (ho : t.Grounded (t.origin p))
    (hf : t.stat true p = .ok (.file f)) (hplace : t.locate false p = .ok place)
    (hq : t.Grounded (t.origin q)) (h : t.isPresent q = .ok true) :
    (t.put place (.file f')).isPresent q = .ok true := by
  obtain ⟨_, hstat⟩ := stat_of_isPresent h
  obtain ⟨l, hl, hg⟩ := exists_of_stat hstat
  obtain ⟨hw, _, n, hn, hroute⟩ := leads_of_locate hl
  obtain ⟨_, _, l', hle, hroute', hend⟩ :=
    hroute.found_put_place f' ho hf hplace hq (by rw [hg]; simp)
  have hl' : (t.put place (.file f')).locate true q = .ok l' :=
    locate_eq_of_leads hw hroute' (Nat.le_trans hle hn)
  obtain ⟨found, hfound⟩ := Option.ne_none_iff_exists'.1 hend
  rw [isPresent, stat_of_get? hl' hfound]

end

theorem ne_nil_of_free (hfree : t.get? l = none) : l ≠ [] := by
  rintro rfl
  rw [get?_nil] at hfree
  cases hfree

/-- A path leads where it led also with something new where nothing was. -/
theorem locate_put_free {place : Location} (hfree : t.get? l = none) (node : Node)
    (h : t.locate false p = .ok place) : (t.put l node).locate false p = .ok place := by
  obtain ⟨hw, seen, n, hn, hroute⟩ := leads_of_locate h
  have hroute' : (t.put l node).Leads false (t.origin p) (steps p) seen n place := by
    refine hroute.congr fun x hx => ?_
    rw [get?_put t l x node (ne_nil_of_free hfree), if_neg]
    rintro rfl
    rcases hroute.passed (.inl rfl) hx with hg | ⟨_, hg⟩ <;> cases hfree.symm.trans hg
  exact locate_eq_of_leads hw hroute' hn

end CatalogAdmin.FileTree
