import CatalogAdmin.UuidChange
import CatalogAdmin.Proofs.FileTree.Changes
import CatalogAdmin.Proofs.Layout.Names
import CatalogAdmin.Proofs.Layout.Store

/-!
# What a move of a store leaves

A store directory is moved in steps: the directory above its new place is made (`Opened`), the store is
moved (`Moving`), and the table's link is made anew. The first two steps may fail; the last cannot, and
this is what there is to prove. A link is only made anew if it points to the old store, and once the old
store is gone nothing leads through such a link any more (`Moving.not_leads_to_source`). So the path of
the link does not lead through the link itself, and still leads to its place after the link is removed.

`relocateStore_error` puts it together: where moving fails, the files are as they were, but for the
directory above the new place. `moving_of_ok` says what has happened where it goes well.

All this is so for an absolute root. A link with the text of a relative path leads from the directory the
link is in, not from where the program was started, so it may well lead somewhere when the store is gone,
and the path of the link through it. Such a link is lost.
-/

namespace CatalogAdmin.FileTree

open Session
open CatalogAdmin.Path (solid)

/-! ## The directory above the new place -/

/-- `t'` is `t`, or `t` with a new directory for the store directory of a UUID. -/
inductive Opened (t : FileTree) (layout : Layout) (u : Uuid) : FileTree → Prop
  | same : Opened t layout u t
  | made {dir : Location} {seen : List Location} {n : Nat} {parent : Path} :
      t.Leads true (t.origin layout.root) layout.storeParts seen n dir → t.Grounded dir →
      (layout.storeDirectory u).parent? = some parent →
      t.locate false parent = .ok (dir ++ [u.text.take 3]) →
      t.get? (dir ++ [u.text.take 3]) = none →
      Opened t layout u (t.put (dir ++ [u.text.take 3]) .directory)

section

variable {t t' : FileTree} {layout : Layout} {old new : Uuid} {follow : Bool} {dir l : Location}
  {parts : List Text} {seen : List Location} {n : Nat}

/-- A new directory stands where nothing was. -/
theorem Opened.get?_of_some (h : Opened t layout new t') {x : Location} {node : Node}
    (hx : t.get? x = some node) : t'.get? x = some node := by
  cases h with
  | same => exact hx
  | @made dir _ _ _ _ _ _ _ hfree =>
    have hne : x ≠ dir ++ [new.text.take 3] := by
      rintro rfl
      rw [hfree] at hx
      cases hx
    rw [get?_put _ _ _ _ (by simp), if_neg hne, hx]

theorem Opened.grounded (h : Opened t layout new t') (hd : t.Grounded dir) : t'.Grounded dir :=
  fun x hx => h.get?_of_some (hd x hx)

/-- A new directory changes no route but those that end where it stands. -/
theorem Opened.leads (h : Opened t layout new t') (hr : t.Leads follow dir parts seen n l)
    (hl : follow = false ∨ t.get? l = some .directory) : t'.Leads follow dir parts seen n l := by
  refine hr.congr fun x hx => ?_
  rcases hr.passed hl hx with hg | ⟨target, hg⟩
  · rw [h.get?_of_some hg, hg]
  · rw [h.get?_of_some hg, hg]

theorem Opened.here (h : Opened t layout new t') : t'.here = t.here := by
  cases h <;> rfl

theorem Opened.locate {p : Path} (h : Opened t layout new t') (hl : t.locate false p = .ok l) :
    t'.locate false p = .ok l := by
  obtain ⟨hw, _, _, hn, hroute⟩ := leads_of_locate hl
  rw [← origin_of_here h.here] at hroute
  exact locate_eq_of_leads hw (h.leads hroute (.inl rfl)) hn

/-- The root's path starts from a directory also when there is a new one. -/
theorem Opened.start (h : Opened t layout new t') (hstart : t.Grounded (t.origin layout.root)) :
    t'.Grounded (t'.origin layout.root) := by
  rw [origin_of_here h.here]
  exact h.grounded hstart

/-- What is new is a directory, and it is where the path of the directory above the store leads. -/
theorem Opened.added (h : Opened t layout new t') {x : Location} {node : Node}
    (hnone : t.get? x = none) (hsome : t'.get? x = some node) :
    node = .directory ∧ ∃ parent, (layout.storeDirectory new).parent? = some parent ∧
      t'.locate false parent = .ok x := by
  cases h with
  | same =>
    rw [hnone] at hsome
    cases hsome
  | @made dir _ _ parent hdir hgr hparent hl hfree =>
    rw [get?_put _ _ _ _ (by simp)] at hsome
    split at hsome
    · next hx =>
      cases hsome
      exact ⟨rfl, parent, hparent, hx ▸ (Opened.made hdir hgr hparent hl hfree).locate hl⟩
    · rw [hnone] at hsome
      cases hsome

/-- Where a store directory is present, so are the directories it is in. -/
theorem exists_store_route (hstart : t.Grounded (t.origin layout.root)) {node : Node}
    (h : t.stat true (layout.storeDirectory old) = .ok node) :
    (∃ dir seen n, t.Leads true (t.origin layout.root) (layout.storeParts) seen n dir ∧
      t.Grounded dir) ∧
    ∃ dir seen n, t.Leads true (t.origin layout.root) (layout.storeParts ++ [old.text.take 3])
      seen n dir ∧ t.Grounded dir := by
  obtain ⟨l, hl, -⟩ := exists_of_stat h
  obtain ⟨-, seen, n, -, hr⟩ := leads_of_locate hl
  rw [origin_storeDirectory, layout.steps_storeDirectory] at hr
  obtain ⟨dir, s₁, _, n₁, _, hdir, _, _, _, hgr⟩ := hr.split (by simp) hstart
  obtain ⟨above, s₂, _, n₂, _, habove, _, _, _, hga⟩ := hdir.split (by simp) hstart
  exact ⟨⟨above, s₂, n₂, habove, hga⟩, dir, s₁, n₁, hdir, hgr⟩

/-- Makes the directory that a path is in. -/
def openParent (p : Path) : EStateM IoError FileTree Unit :=
  match p.parent? with
  | some parent => makeDirectories parent
  | none => pure ()

/-- Where the directory of all stores is there, the directory that a store is in has a place in it. -/
theorem exists_parent_route (u : Uuid)
    (hdir : t.Leads true (t.origin layout.root) layout.storeParts seen n dir)
    (hg : t.get? dir = some .directory) :
    ∃ parent, (layout.storeDirectory u).parent? = some parent ∧
      Path.ofComponents parent.components = parent ∧ parent.text ≠ [] ∧
      t.Leads false (t.origin parent) (steps parent) (seen ++ []) (n + 0) (dir ++ [u.text.take 3]) := by
  obtain ⟨parent, front, hparent, habs, hback, hsteps, hfront⟩ :=
    layout.exists_parent_storeDirectory u
  have hstart : t.origin parent = t.origin layout.root := by rw [origin, origin, habs]
  refine ⟨parent, hparent, hback, ?_, ?_⟩
  · intro hnil
    obtain rfl : parent = ⟨[]⟩ := by cases parent; cases hnil; rfl
    have hnone : steps ⟨[]⟩ = [] := rfl
    rw [hnone] at hsteps
    simp at hsteps
  · -- all but the last name is on the way to the directory of all stores
    rw [hstart, hsteps]
    exact (hdir.of_solid_eq hg hfront).comp hg (.stop u.isName_start.1 rfl) (.inl (by simp))

/-- Where the directory of all stores is there, opening a place for a store makes at most one
directory. -/
theorem openParent_of_route (new : Uuid)
    (hdir : t.Leads true (t.origin layout.root) layout.storeParts seen n dir)
    (hg : t.get? dir = some .directory) :
    (∃ parent, (layout.storeDirectory new).parent? = some parent ∧
      t.locate false parent = .ok (dir ++ [new.text.take 3]) ∧
      t.get? (dir ++ [new.text.take 3]) = none ∧
      openParent (layout.storeDirectory new) t =
        .ok () (t.put (dir ++ [new.text.take 3]) .directory)) ∨
    openParent (layout.storeDirectory new) t = .ok () t ∨
    ∃ e, openParent (layout.storeDirectory new) t = .error e t := by
  obtain ⟨parent, hparent, hback, htext, hroute⟩ := exists_parent_route new hdir hg
  unfold openParent
  rw [hparent]
  rcases makeDirectories_cases hback (locate_ne_notFound hroute htext) with
    ⟨l, hl, hfree, hrun⟩ | hrun | ⟨e, hrun⟩
  · obtain ⟨-, _, _, -, hroute'⟩ := leads_of_locate hl
    obtain rfl := hroute.unique hroute'
    exact .inl ⟨parent, rfl, hl, hfree, hrun⟩
  · exact .inr (.inl hrun)
  · exact .inr (.inr ⟨e, hrun⟩)

/-- Where another store is present, opening a place for a store makes at most one directory. -/
theorem openParent_cases (new : Uuid) (hstart : t.Grounded (t.origin layout.root)) {node : Node}
    (h : t.stat true (layout.storeDirectory old) = .ok node) :
    (∃ t', Opened t layout new t' ∧ openParent (layout.storeDirectory new) t = .ok () t') ∨
    ∃ e, openParent (layout.storeDirectory new) t = .error e t := by
  obtain ⟨⟨dir, seen, n, hdir, hgr⟩, -⟩ := exists_store_route hstart h
  rcases openParent_of_route new hdir hgr.self with ⟨parent, hparent, hl, hfree, hrun⟩ | hrun | hrun
  · exact .inl ⟨_, .made hdir hgr hparent hl hfree, hrun⟩
  · exact .inl ⟨t, .same, hrun⟩
  · exact .inr hrun

theorem opened_of_openParent (hstart : t.Grounded (t.origin layout.root)) {node : Node}
    (h : t.stat true (layout.storeDirectory old) = .ok node)
    (hopen : openParent (layout.storeDirectory new) t = .ok () t') : Opened t layout new t' := by
  rcases openParent_cases new hstart h with ⟨_, hopened, hrun⟩ | ⟨e, hrun⟩
  · cases hopen.symm.trans hrun
    exact hopened
  · cases hopen.symm.trans hrun

/-! ## The old place after the move -/

/-- A store stands by its name in a directory. -/
theorem exists_room {u : Uuid} (hstart : t.Grounded (t.origin layout.root))
    (h : t.locate false (layout.storeDirectory u) = .ok l) :
    ∃ room seen n, n ≤ linkLimit ∧
      t.Leads true (t.origin layout.root) (layout.storeParts ++ [u.text.take 3]) seen n room ∧
      t.Grounded room ∧ l = room ++ [u.text] := by
  obtain ⟨-, _, _, hn, hroute⟩ := leads_of_locate h
  rw [origin_storeDirectory, layout.steps_storeDirectory] at hroute
  obtain ⟨room, seen, n, hle, hroom, hgr, hl⟩ := hroute.last_name u.isName_text.1 hstart
  exact ⟨room, seen, n, Nat.le_trans hle hn, hroom, hgr, hl⟩

/-- Two stores are never at one place, unless they are one. -/
theorem eq_of_same_place (hstart : t.Grounded (t.origin layout.root))
    (ha : t.locate false (layout.storeDirectory old) = .ok l)
    (hb : t.locate false (layout.storeDirectory new) = .ok l) :
    layout.storeDirectory old = layout.storeDirectory new := by
  obtain ⟨_, _, _, -, -, -, hold⟩ := exists_room hstart ha
  obtain ⟨_, _, _, -, -, -, hnew⟩ := exists_room hstart hb
  refine layout.storeDirectory_congr ?_
  simpa using (List.append_inj' (hold.symm.trans hnew) rfl).2

/-- What is found in one store directory and missed in another is told apart by the UUIDs. -/
theorem text_ne_of_free {node : Node} (hstat : t.stat true (layout.storeDirectory old) = .ok node)
    (hfree : t.stat true (layout.storeDirectory new) = .error .notFound) : old.text ≠ new.text := by
  intro hsame
  rw [layout.storeDirectory_congr hsame, hfree] at hstat
  cases hstat

/-- A store is moved from `a` to `b`. It was present in the tree `t`, and nothing was found at its new
place. In `t₂` there is a directory for it, in `t₃` it is moved. -/
structure Moving (t t₂ t₃ : FileTree) (layout : Layout) (old new : Uuid) (a b : Location) : Prop where
  start : t.Grounded (t.origin layout.root)
  present : ∃ node, t.stat true (layout.storeDirectory old) = .ok node
  free : t.stat true (layout.storeDirectory new) = .error .notFound
  opened : Opened t layout new t₂
  source : t₂.locate false (layout.storeDirectory old) = .ok a
  target : t₂.locate false (layout.storeDirectory new) = .ok b
  renamed : Renamed t₂ a b t₃

namespace Moving

variable {t₂ t₃ : FileTree} {a b x l' : Location} {seen' : List Location} {n' : Nat}
  (h : Moving t t₂ t₃ layout old new a b)

include h

theorem ne : a ≠ b := by
  rintro rfl
  obtain ⟨node, hstat⟩ := h.present
  rw [eq_of_same_place (h.opened.start h.start) h.source h.target, h.free] at hstat
  cases hstat

theorem target_not_below : ¬ a <+: b := by
  cases h.renamed with
  | same hab => exact absurd hab h.ne
  | free hab _ | replaced _ hab _ => exact hab

theorem source_ne_nil : a ≠ [] := by
  rintro rfl
  exact h.target_not_below List.nil_prefix

theorem moved : Moved t₂ t₃ a b := by
  cases h.renamed with
  | same hab => exact absurd hab h.ne
  | free hab _ => exact moved_move hab
  | replaced _ hab hba => exact moved_erase_move hab hba

/-- The store was in a directory that was there before. -/
theorem exists_above : ∃ above seen n,
    t.Leads true (t.origin layout.root) (layout.storeParts ++ [old.text.take 3]) seen n above ∧
      t.Grounded above ∧ a = above ++ [old.text] := by
  obtain ⟨_, hstat⟩ := h.present
  obtain ⟨-, above, seen, n, habove, hga⟩ := exists_store_route h.start hstat
  obtain ⟨_, _, _, -, hroom, -, hl⟩ := exists_room (h.opened.start h.start) h.source
  rw [origin_of_here h.opened.here] at hroom
  rw [hroom.unique (h.opened.leads habove (.inr hga.self))] at hl
  exact ⟨above, seen, n, habove, hga, hl⟩

/-- Where nothing was found at the new place, no route to a directory passes it or goes on below
it. -/
theorem target_off_route (hd : t.Grounded dir) (hr : t.Leads follow dir parts seen n l)
    (hend : follow = false ∨ t.get? l = some .directory) :
    (∀ d, t.Grounded d → ¬ b <+: d) ∧ b ∉ seen := by
  obtain ⟨hw, _, _, -, hroute⟩ := leads_of_locate h.target
  rw [origin_of_here h.opened.here] at hroute
  cases h.opened with
  | same =>
    -- a route that ends at the new place ends at something, so something would have been found
    have nothing : ∀ {seen n m node},
        t.Leads true (t.origin (layout.storeDirectory new)) (steps (layout.storeDirectory new)) seen n m →
          t.get? m = some node → False := fun hthere hg => stat_ne_notFound hthere hg hw.2.1 h.free
    have hstart : t.Grounded (t.origin (layout.storeDirectory new)) := by
      rw [origin_storeDirectory]
      exact h.start
    have notDirectory : t.get? b ≠ some .directory := by
      intro hg
      obtain ⟨_, hthere⟩ := hroute.follow_end fun _ => by rw [hg]; simp
      exact nothing hthere hg
    refine ⟨fun d hd hp => notDirectory (hd b hp), fun hmem => ?_⟩
    rcases hr.passed hend hmem with hg | ⟨target, hg⟩
    · exact notDirectory hg
    · obtain ⟨mid, _, _, htarget, hmid⟩ := hr.link_target hd hmem hg hend
      obtain ⟨_, _, hthere⟩ := hroute.follow_link hstart hg htarget
      exact nothing hthere hmid
  | @made above s m parent habove hga hparent hl hnew =>
    have hmadedir : (t.put (above ++ [new.text.take 3]) .directory).get?
        (above ++ [new.text.take 3]) = some .directory := by
      rw [get?_put _ _ _ _ (by simp), if_pos rfl]
    -- so the new place is in the new directory, below which nothing was
    have hplace : b = above ++ [new.text.take 3] ++ [new.text] := by
      have hmade := Opened.made habove hga hparent hl hnew
      have hopen := (hmade.leads habove (.inr hga.self)).comp (hmade.grounded hga).self
        (.enter new.isName_start.1 (.inr rfl) hmadedir .done) (.inr rfl)
      obtain ⟨_, _, _, -, hroom, -, hl⟩ := exists_room (hmade.start h.start) h.target
      rw [hl, hroom.unique hopen]
    have off : ∀ d, t.Grounded d → ¬ (above ++ [new.text.take 3]) <+: d := by
      intro d hd hp
      have := hd _ hp
      rw [hnew] at this
      cases this
    refine ⟨fun d hd hp => off d hd ((List.prefix_append _ _).trans (hplace ▸ hp)), fun hmem => ?_⟩
    obtain ⟨d, part, hx, -, hgd⟩ := hr.grounded_of_mem hd hmem
    rw [hplace] at hx
    exact off d hgd (List.append_inj_left' hx rfl ▸ List.prefix_refl _)

/-- The new place is above no directory. -/
theorem target_off_directory (hd : t.Grounded dir) : ¬ b <+: dir :=
  have hstay : t.Leads true dir [] [] 0 dir := .done
  (h.target_off_route hd hstay (.inr hd.self)).1 dir hd

/-- Of all that is passed on the way to a directory, only what is in the store is gone. -/
theorem get?_passed (hd : t.Grounded dir) (hr : t.Leads follow dir parts seen n l)
    (hend : follow = false ∨ t.get? l = some .directory) (hx : x ∈ seen) :
    t₃.get? x = if a <+: x then none else t.get? x := by
  obtain ⟨offGrounded, offRoute⟩ := h.target_off_route hd hr hend
  have hoff : ¬ b <+: x := by
    intro hp
    obtain ⟨d, part, rfl, -, hgd⟩ := hr.grounded_of_mem hd hx
    rcases List.prefix_concat_iff.1 hp with rfl | hp
    · exact offRoute hx
    · exact offGrounded d hgd hp
  have hkept : t₂.get? x = t.get? x := by
    rcases hr.passed hend hx with hg | ⟨_, hg⟩ <;> rw [h.opened.get?_of_some hg, hg]
  rw [h.moved.2 x hoff, hkept]

/-- A directory outside of the store stays. -/
theorem grounded (hd : t.Grounded dir) (hout : ¬ a <+: dir) : t₃.Grounded dir := by
  intro x hx
  rw [h.moved.2 x fun hp => h.target_off_directory hd (hp.trans hx),
    if_neg fun hp => hout (hp.trans hx)]
  exact h.opened.get?_of_some (hd x hx)

/-- No way leads elsewhere than before. -/
theorem eq_of_leads (hd : t.Grounded dir) (hr : t.Leads follow dir parts seen n l)
    (hend : follow = false ∨ t.get? l = some .directory)
    (hr' : t₃.Leads follow dir parts seen' n' l') (hend' : follow = false ∨ t₃.get? l' ≠ none) :
    l' = l := by
  refine Decidable.byContradiction fun hne => ?_
  -- the ways part at a place that changed, and all that changed is gone
  obtain ⟨x, hx, hx', hdiffers⟩ := hr.diverge hr' (Ne.symm hne)
  have hg := h.get?_passed hd hr hend hx
  split at hg
  · exact hr'.get?_ne_none hend' hx' hg
  · exact hdiffers hg.symm

theorem get?_source : t₃.get? a = none := by
  obtain ⟨above, _, _, habove, hga, rfl⟩ := h.exists_above
  rw [h.moved.2 _ fun hp => ?_, if_pos (List.prefix_refl _)]
  rcases List.prefix_concat_iff.1 hp with hp | hp
  · exact h.ne hp.symm
  · exact h.target_off_directory hga hp

/-- Paths start from where they started before, if that is not in the store. -/
theorem origin_eq {p : Path} (hout : ¬ a <+: t.origin p) : t₃.origin p = t.origin p := by
  rw [← origin_of_here h.opened.here p] at hout ⊢
  exact h.renamed.origin_eq hout

/-- Once a store is moved, nothing leads to a directory at its old place any more. -/
theorem not_leads_to_source (hout : ¬ a <+: t.origin layout.root)
    (hr : t₃.Leads true (t.origin layout.root) (steps (layout.storeDirectory old)) seen n l) :
    t₃.get? l ≠ some .directory := by
  intro hl
  obtain ⟨above, _, _, habove, hga, hplace⟩ := h.exists_above
  rw [layout.steps_storeDirectory] at hr
  obtain ⟨above₃, _, _, _, _, habove₃, hlast, _, _, hga₃⟩ :=
    hr.split (by simp) (h.grounded h.start hout)
  -- the way leads to the directory the store was in, where it is no longer
  obtain rfl := h.eq_of_leads h.start habove (.inr hga.self) habove₃ (.inr (by rw [hga₃.self]; simp))
  have hgone := h.get?_source
  rw [hplace] at hgone
  rcases hlast.name_cases old.isName_text.1 with
    ⟨_, hf, _⟩ | ⟨_, _, _, ⟨hg, _⟩ | ⟨_, _, hg, _⟩ | ⟨_, _, _, _, hend⟩⟩
  · cases hf
  · rw [hgone] at hg; cases hg
  · rw [hgone] at hg; cases hg
  · rw [hend, hgone] at hl; cases hl

end Moving

/-! ## The link -/

/-- Lets a link that points to one path point to another. -/
def redirect (link source target : Path) : EStateM IoError FileTree (Bool × Bool) := do
  match (← get).readLink link with
  | .ok current =>
    if current.components = source.components then
      removeFile link
      makeLink target link
      return (true, true)
    else return (true, false)
  | .error _ => return (true, false)

/-- A link stands at a path, and its target goes through the same components as another path. -/
def Points (t : FileTree) (link source : Path) : Prop :=
  ∃ current, t.readLink link = .ok current ∧ current.components = source.components

/-- How redirecting ends. A link that does not point to the path stays. One that does is removed, and made
anew unless nothing can be found at its path without it. -/
theorem redirect_cases (link source target : Path) (t : FileTree) :
    (¬ t.Points link source ∧ redirect link source target t = .ok (true, false) t) ∨
    t.Points link source ∧ ∃ l, t.locate false link = .ok l ∧
      (((t.erase l).locate false link = .ok l ∧
          redirect link source target t = .ok (true, true) ((t.erase l).put l (.link target))) ∨
        ∃ e, (t.erase l).locate false link = .error e ∧
          redirect link source target t = .error e (t.erase l)) := by
  unfold redirect
  rw [bind_of_ok (get_eq t)]
  cases hread : t.readLink link with
  | error e =>
    refine .inl ⟨?_, rfl⟩
    rintro ⟨current, hcurrent, -⟩
    cases hread.symm.trans hcurrent
  | ok current =>
    by_cases hsame : current.components = source.components
    case neg =>
      refine .inl ⟨?_, by simp only [if_neg hsame]; rfl⟩
      rintro ⟨found, hfound, hcomponents⟩
      cases hread.symm.trans hfound
      exact hsame hcomponents
    obtain ⟨l, hl, hg⟩ := exists_of_readLink hread
    have hne : l ≠ [] := by
      rintro rfl
      rw [t.get?_nil] at hg
      cases hg
    refine .inr ⟨⟨current, hread, hsame⟩, l, hl, ?_⟩
    simp only [if_pos hsame]
    rw [bind_of_ok (removeFile_of_get? hl hg (by simp))]
    cases hl' : (t.erase l).locate false link with
    | error e => exact .inr ⟨e, rfl, bind_of_error (makeLink_of_error hl')⟩
    | ok l' =>
      -- what is found without the link is found with it
      obtain rfl : l = l' := Except.ok.inj (hl.symm.trans ((Pruned.erase hl).locate hl'))
      have hfree : (t.erase l).get? l = none := by
        rw [get?_erase t l l hne, if_pos (List.prefix_refl l)]
      exact .inl ⟨rfl, bind_of_ok (makeLink_of_free hl' hfree)⟩

/-- Where redirecting ends well, the link stays, or it pointed to the path and is made anew. -/
theorem redirect_of_ok {link source target : Path} {answer : Bool × Bool}
    (h : redirect link source target t = .ok answer t') :
    (answer = (true, false) ∧ t' = t ∧ ¬ t.Points link source) ∨
    (answer = (true, true) ∧ t.Points link source ∧ ∃ l, t.locate false link = .ok l ∧
      (t.erase l).locate false link = .ok l ∧ t' = (t.erase l).put l (.link target)) := by
  rcases redirect_cases link source target t with
    ⟨hpoints, hrun⟩ | ⟨hpoints, l, hl, ⟨hl', hrun⟩ | ⟨e, -, hrun⟩⟩
  · cases hrun.symm.trans h
    exact .inl ⟨rfl, rfl, hpoints⟩
  · cases hrun.symm.trans h
    exact .inr ⟨rfl, hpoints, l, hl, hl', rfl⟩
  · cases hrun.symm.trans h

/-- Where redirecting fails, the link pointed to the path and is gone, and without it nothing can be found
at its path. -/
theorem redirect_of_error {link source target : Path} {e : IoError}
    (h : redirect link source target t = .error e t') :
    t.Points link source ∧ ∃ l, t.locate false link = .ok l ∧ t' = t.erase l ∧
      t'.locate false link = .error e := by
  rcases redirect_cases link source target t with
    ⟨-, hrun⟩ | ⟨hpoints, l, hl, ⟨-, hrun⟩ | ⟨e, hl', hrun⟩⟩
  · cases hrun.symm.trans h
  · cases hrun.symm.trans h
  · cases hrun.symm.trans h
    exact ⟨hpoints, l, hl, rfl, hl'⟩

/-- Nothing that is passed on the way to a directory is a link to where nothing leads to a directory, or
below one. -/
theorem link_off_route {source current : Path} (hsource : source.isAbsolute = true)
    (hgone : ∀ {seen n l}, t.Leads true [] (steps source) seen n l → t.get? l ≠ some .directory)
    {place : Location} (hg : t.get? place = some (.link current))
    (hsame : current.components = source.components) (hr : t.Leads follow [] parts seen n l)
    (hend : follow = false ∨ t.get? l = some .directory) {x : Location} (hx : x ∈ seen) :
    ¬ place <+: x := by
  intro hp
  obtain ⟨d, part, rfl, -, hgd⟩ := hr.grounded_of_mem (grounded_nil t) hx
  rcases List.prefix_concat_iff.1 hp with rfl | hp
  · obtain ⟨habs, hsolid⟩ := Path.solid_eq_of_components_eq hsource hsame
    obtain ⟨mid, _, _, hmid, hdir⟩ := hr.link_target (grounded_nil t) hx hg hend
    rw [linkBase, if_pos habs] at hmid
    refine hgone (hmid.of_solid_eq hdir ?_) hdir
    rw [Path.solid_steps, Path.solid_steps, hsolid]
  · rw [hgd place hp] at hg
    cases hg

/-- So the path of such a link leads to the same place when the link is removed. -/
theorem locate_erase_link {link source current : Path} (hlink : link.isAbsolute = true)
    (hsource : source.isAbsolute = true)
    (hgone : ∀ {seen n l}, t.Leads true [] (steps source) seen n l → t.get? l ≠ some .directory)
    (hl : t.locate false link = .ok l) (hg : t.get? l = some (.link current))
    (hsame : current.components = source.components) : (t.erase l).locate false link = .ok l := by
  have hne : l ≠ [] := by
    rintro rfl
    rw [t.get?_nil] at hg
    cases hg
  obtain ⟨hw, seen, n, hn, hr⟩ := leads_of_locate_absolute hlink hl
  have hr' : (t.erase l).Leads false [] (steps link) seen n l := by
    refine hr.congr fun x hx => ?_
    rw [get?_erase t l x hne, if_neg (link_off_route hsource hgone hg hsame hr (.inl rfl) hx)]
  exact locate_eq_of_leads_absolute hlink hw hr' hn

/-- A link is redirected without fail once nothing leads to a directory at the path it points to. -/
theorem redirect_ok {link source : Path} (target : Path) (hlink : link.isAbsolute = true)
    (hsource : source.isAbsolute = true)
    (hgone : ∀ {seen n l}, t.Leads true [] (steps source) seen n l → t.get? l ≠ some .directory) :
    ∃ answer t', redirect link source target t = .ok answer t' := by
  rcases redirect_cases link source target t with
    ⟨-, hrun⟩ | ⟨⟨current, hread, hsame⟩, l, hl, ⟨-, hrun⟩ | ⟨e, hl', -⟩⟩
  · exact ⟨_, _, hrun⟩
  · exact ⟨_, _, hrun⟩
  · obtain ⟨place, hplace, hg⟩ := exists_of_readLink hread
    obtain rfl : l = place := Except.ok.inj (hl.symm.trans hplace)
    cases hl'.symm.trans (locate_erase_link hlink hsource hgone hl hg hsame)

/-! ## Moving a store -/

theorem relocateStore_eq (link source target : Path) :
    relocateStore link source target = (do
      let present ← look (·.isPresent source)
      if !present then return (false, false)
      else do
        let occupied ← look (·.isPresent target)
        if occupied then throw (.occupied target)
        else do
          openParent target
          rename source target
          redirect link source target) := by
  unfold relocateStore openParent redirect
  congr 1
  funext present
  cases present with
  | false => rfl
  | true =>
    refine congrArg (look (·.isPresent target) >>= ·) (funext fun occupied => ?_)
    cases occupied with
    | true => rfl
    | false => cases target.parent? <;> rfl

theorem look_of_ok {α : Type} {f : FileTree → Except IoError α} {answer : α}
    (h : f t = .ok answer) : look f t = .ok answer t := by
  simp only [look, h]

theorem look_of_error {α : Type} {f : FileTree → Except IoError α} {e : IoError}
    (h : f t = .error e) : look f t = .error e t := by
  simp only [look, h]

theorem ok_of_look {α : Type} {f : FileTree → Except IoError α} {answer : α}
    (h : look f t = .ok answer t') : f t = .ok answer ∧ t = t' := by
  unfold look at h
  split at h
  · next hf =>
    cases h
    exact ⟨hf, rfl⟩
  · cases h

/-- A store that is missing is not moved. -/
theorem relocateStore_of_missing {source : Path} (link target : Path)
    (h : t.isPresent source = .ok false) :
    relocateStore link source target t = .ok (false, false) t := by
  rw [relocateStore_eq, bind_of_ok (look_of_ok h)]
  rfl

/-- Where it cannot be found out whether there is a store, nothing is moved. -/
theorem relocateStore_of_unclear {source : Path} {e : IoError} (link target : Path)
    (h : t.isPresent source = .error e) : relocateStore link source target t = .error e t := by
  rw [relocateStore_eq]
  exact bind_of_error (look_of_error h)

/-- Where it cannot be found out whether its new place is free, a store is not moved. -/
theorem relocateStore_of_unclear_target {source target : Path} {e : IoError} (link : Path)
    (hpresent : t.isPresent source = .ok true) (h : t.isPresent target = .error e) :
    relocateStore link source target t = .error e t := by
  rw [relocateStore_eq, bind_of_ok (look_of_ok hpresent)]
  exact bind_of_error (look_of_error h)

/-- A store is not moved to where something is. -/
theorem relocateStore_of_occupied {source target : Path} (link : Path)
    (hpresent : t.isPresent source = .ok true) (h : t.isPresent target = .ok true) :
    relocateStore link source target t = .error (.occupied target) t := by
  have hlook : look (·.isPresent target) t = .ok true t := look_of_ok h
  rw [relocateStore_eq, bind_of_ok (look_of_ok hpresent)]
  exact bind_of_ok hlook

/-- Where moving a store ends well, no store was found, or one was, and nothing at its new place. Then
there was room for it, it was moved, and its link was made anew if need be. -/
theorem relocateStore_ok {link source target : Path} {answer : Bool × Bool}
    (h : relocateStore link source target t = .ok answer t') :
    (answer = (false, false) ∧ t' = t ∧ t.isPresent source = .ok false) ∨
    ∃ updated t₂ t₃, answer = (true, updated) ∧ t.isPresent source = .ok true ∧
      t.isPresent target = .ok false ∧ openParent target t = .ok () t₂ ∧
      rename source target t₂ = .ok () t₃ ∧ redirect link source target t₃ = .ok answer t' := by
  rw [relocateStore_eq] at h
  obtain ⟨present, _, hlook, h⟩ := ok_of_bind h
  obtain ⟨hpresent, rfl⟩ := ok_of_look hlook
  cases present with
  | false =>
    cases h
    exact .inl ⟨rfl, rfl, hpresent⟩
  | true =>
  obtain ⟨occupied, _, hlook, h⟩ := ok_of_bind h
  obtain ⟨hoccupied, rfl⟩ := ok_of_look hlook
  cases occupied with
  | true => cases h
  | false =>
  obtain ⟨_, t₂, hopen, h⟩ := ok_of_bind h
  obtain ⟨_, t₃, hmove, hredirect⟩ := ok_of_bind h
  right
  rcases redirect_of_ok hredirect with ⟨rfl, -⟩ | ⟨rfl, -⟩
  · exact ⟨false, t₂, t₃, rfl, hpresent, hoccupied, hopen, hmove, hredirect⟩
  · exact ⟨true, t₂, t₃, rfl, hpresent, hoccupied, hopen, hmove, hredirect⟩

/-- An absolute path does not start from a store. -/
theorem Moving.outside {t₂ t₃ : FileTree} {a b : Location} (h : Moving t t₂ t₃ layout old new a b)
    {p : Path} (hp : p.isAbsolute = true) : ¬ a <+: t.origin p := by
  rw [origin_of_isAbsolute t hp, List.prefix_nil]
  exact h.source_ne_nil

/-- Where moving a store fails, the files are as they were, but for the directory above the new place.
With a relative root it may also be that the store was moved, and then its link could not be made anew. -/
theorem relocateStore_error {link : Path} {cause : IoError}
    (hstart : t.Grounded (t.origin layout.root)) (hlink : link.isAbsolute = layout.root.isAbsolute)
    (h : relocateStore link (layout.storeDirectory old) (layout.storeDirectory new) t =
      .error cause t') :
    Opened t layout new t' ∨ layout.root.isAbsolute = false ∧
      ∃ t₂ t₃ a b, Moving t t₂ t₃ layout old new a b ∧
        redirect link (layout.storeDirectory old) (layout.storeDirectory new) t₃ = .error cause t' := by
  cases hpresent : t.isPresent (layout.storeDirectory old) with
  | error e =>
    cases (relocateStore_of_unclear _ _ hpresent).symm.trans h
    exact .inl .same
  | ok present =>
  cases present with
  | false => cases (relocateStore_of_missing _ _ hpresent).symm.trans h
  | true =>
  cases hoccupied : t.isPresent (layout.storeDirectory new) with
  | error e =>
    cases (relocateStore_of_unclear_target _ hpresent hoccupied).symm.trans h
    exact .inl .same
  | ok occupied =>
  cases occupied with
  | true =>
    cases (relocateStore_of_occupied _ hpresent hoccupied).symm.trans h
    exact .inl .same
  | false =>
  rw [relocateStore_eq, bind_of_ok (look_of_ok hpresent)] at h
  replace h := (bind_of_ok (look_of_ok hoccupied)).symm.trans h
  -- the store is there, its new place is free, and nothing has changed so far
  obtain ⟨node, hstat⟩ := stat_of_isPresent hpresent
  have hfree := stat_of_not_isPresent hoccupied
  rcases openParent_cases new hstart hstat with ⟨t₂, hopened, hopen⟩ | ⟨e, hopen⟩
  case inr =>
    have := (bind_of_error hopen).symm.trans h
    cases this
    exact .inl .same
  replace h := (bind_of_ok hopen).symm.trans h
  rcases renamed_cases (layout.storeDirectory old) (layout.storeDirectory new) t₂ with
    ⟨e, hmove⟩ | ⟨a, b, t₃, ha, hb, hmove, hrenamed⟩
  · have := (bind_of_error hmove).symm.trans h
    cases this
    exact .inl hopened
  replace h := (bind_of_ok hmove).symm.trans h
  have hmoving : Moving t t₂ t₃ layout old new a b :=
    ⟨hstart, ⟨node, hstat⟩, hfree, hopened, ha, hb, hrenamed⟩
  cases hroot : layout.root.isAbsolute with
  | false => exact .inr ⟨rfl, t₂, t₃, a, b, hmoving, h⟩
  | true =>
    -- the link of an absolute path can always be made anew
    obtain ⟨answer, t₄, hdone⟩ := redirect_ok (layout.storeDirectory new) (hlink.trans hroot)
      (layout.isAbsolute_storeDirectory old hroot) fun hr => by
        rw [← origin_of_isAbsolute t hroot] at hr
        exact hmoving.not_leads_to_source (hmoving.outside hroot) hr
    cases hdone.symm.trans h

/-- Where a store was moved, its link was redirected after that. -/
theorem moving_of_ok {link : Path} {updated : Bool} (hstart : t.Grounded (t.origin layout.root))
    (h : relocateStore link (layout.storeDirectory old) (layout.storeDirectory new) t =
      .ok (true, updated) t') :
    ∃ t₂ t₃ a b, Moving t t₂ t₃ layout old new a b ∧
      redirect link (layout.storeDirectory old) (layout.storeDirectory new) t₃ =
        .ok (true, updated) t' := by
  rcases relocateStore_ok h with
    ⟨hanswer, -⟩ | ⟨_, t₂, t₃, -, hpresent, hoccupied, hopen, hmove, hredirect⟩
  · cases hanswer
  obtain ⟨node, hstat⟩ := stat_of_isPresent hpresent
  rcases renamed_cases (layout.storeDirectory old) (layout.storeDirectory new) t₂ with
    ⟨e, hrun⟩ | ⟨a, b, _, ha, hb, hrun, hrenamed⟩
  · cases hrun.symm.trans hmove
  cases hrun.symm.trans hmove
  exact ⟨t₂, t₃, a, b, ⟨hstart, ⟨node, hstat⟩, stat_of_not_isPresent hoccupied,
    opened_of_openParent hstart hstat hopen, ha, hb, hrenamed⟩, hredirect⟩

end

end CatalogAdmin.FileTree
