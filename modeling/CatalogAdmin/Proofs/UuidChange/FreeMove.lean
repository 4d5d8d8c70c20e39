import CatalogAdmin.Proofs.UuidChange.StoreMove

/-!
# A store moves where its new place is free

Where no links are on the ways of both store directories, the old one is present and at the new one
nothing is, nothing can go wrong: there is room for the store (`openParent_of_absent`), it is moved, and
the link follows (`relocateStore_of_absent`). What is where then is said by `StoreMoved`; here it is added
that the directory of the new place is there, and that everything still stands in a directory.
-/

namespace CatalogAdmin

open Session FileTree
open CatalogAdmin.Path (solid)

variable {t t' t₂ : FileTree} {layout : Layout} {table : TableName} {old new : Uuid} {l : Location}
  {node : Node} {p : Path}

/-! ## The ways of both stores -/

/-- A path at which nothing is found can be walked. -/
theorem FileTree.walkable_of_stat {follow : Bool} (h : t.stat follow p = .error .notFound)
    (hne : p.text ≠ []) : Walkable p := by
  cases hl : t.locate follow p with
  | ok l => exact (leads_of_locate hl).1
  | error e =>
    rw [stat_of_error hl] at h
    cases h
    exact walkable_of_notFound hl hne

theorem Layout.text_storeDirectory_ne_nil (layout : Layout) (u : Uuid) :
    (layout.storeDirectory u).text ≠ [] := by
  obtain ⟨front, hfront⟩ := layout.exists_text_storeDirectory u
  rw [hfront]
  simp [u.text_ne_nil]

/-- The directory of a store can be walked to if the store can. -/
theorem Layout.walkable_parent {u : Uuid} {parent : Path}
    (hparent : (layout.storeDirectory u).parent? = some parent) (hne : parent.text ≠ [])
    (h : Walkable (layout.storeDirectory u)) : Walkable parent := by
  have hsolid : solid (layout.storeDirectory u).parts =
      solid layout.storeParts ++ [u.text.take 3] ++ [u.text] := by
    rw [← Path.solid_steps, layout.steps_storeDirectory, Path.solid_append, Path.solid_append,
      Path.solid_cons u.isName_start.1.1, Path.solid_cons u.isName_text.1.1]
    rfl
  exact h.of_sublist (Path.parent_sublist hsolid (by simp) hparent) hne

theorem goal_storeParts (layout : Layout) (t : FileTree) :
    goal (t.origin layout.root) layout.storeParts = layout.base t ++ [storeName] :=
  goal_base layout t [storeName] (by decide)

/-- Where a store is present, the way to the directory of all stores leads through directories. -/
theorem exists_stores_route (hstart : t.Grounded (t.origin layout.root))
    (hold : t.Straight (layout.storeDirectory old))
    (hstat : t.stat true (layout.storeDirectory old) = .ok node) :
    ∃ seen, t.Leads true (t.origin layout.root) layout.storeParts seen 0
        (layout.base t ++ [storeName]) ∧ t.Grounded (layout.base t ++ [storeName]) := by
  obtain ⟨-, _, _, -, hroute⟩ := leads_of_locate (hold.of_stat hstat).1
  rw [layout.steps_storeDirectory, List.append_assoc, origin_storeDirectory] at hroute
  obtain ⟨stores, seen, _, _, _, hstores, -, -, -, hgr⟩ := hroute.split (by simp) hstart
  have hstraight := hstores.straight fun x hx => hold x (by
    rw [layout.steps_storeDirectory, List.append_assoc, origin_storeDirectory, way_append]
    exact List.mem_append_left _ hx)
  obtain ⟨rfl, rfl, -⟩ := hstraight
  rw [goal_storeParts] at hstores hgr
  exact ⟨seen, hstores, hgr⟩

/-! ## Room for the store -/

/-- Where nothing is found at the place of a store, its directory is missing or is a directory. -/
theorem room_of_absent (hnew : t.Straight (layout.storeDirectory new))
    (hfree : t.stat true (layout.storeDirectory new) = .error .notFound) {seen : List Location}
    (hstores : t.Leads true (t.origin layout.root) layout.storeParts seen 0
      (layout.base t ++ [storeName])) (hg : t.get? (layout.base t ++ [storeName]) = some .directory) :
    t.get? (layout.base t ++ [storeName] ++ [new.text.take 3]) = none ∨
      t.get? (layout.base t ++ [storeName] ++ [new.text.take 3]) = some .directory := by
  have hw := walkable_of_stat hfree (layout.text_storeDirectory_ne_nil new)
  have hwalk : t.locate true (layout.storeDirectory new) =
      t.walk true linkLimit (layout.base t ++ [storeName]) [new.text.take 3, new.text] := by
    rw [locate_eq_walk t true hw, origin_storeDirectory, layout.steps_storeDirectory, List.append_assoc,
      hstores.walk_append hg]
    rfl
  rw [walk_name _ _ _ _ new.isName_start.1] at hwalk
  cases hroom : t.get? (layout.base t ++ [storeName] ++ [new.text.take 3]) with
  | none => exact .inl rfl
  | some node =>
    cases node with
    | directory => exact .inr rfl
    | file f =>
      rw [hroom] at hwalk
      rw [stat_of_error hwalk] at hfree
      cases hfree
    | link target =>
      refine absurd ⟨target, hroom⟩ (hnew _ ?_)
      rw [layout.steps_storeDirectory, List.append_assoc, origin_storeDirectory, way_append,
        goal_storeParts, List.singleton_append, way_name new.isName_start.1.1 new.isName_start.1.2.1]
      exact List.mem_append_right _ (List.mem_cons_self ..)

/-- Where the directory of a store is there, the store has a place in it. -/
theorem locate_storeDirectory {u : Uuid} {seen : List Location} (hw : Walkable (layout.storeDirectory u))
    (hstores : t.Leads true (t.origin layout.root) layout.storeParts seen 0
      (layout.base t ++ [storeName])) (hg : t.get? (layout.base t ++ [storeName]) = some .directory)
    (hroom : t.get? (layout.base t ++ [storeName, u.text.take 3]) = some .directory) :
    t.locate false (layout.storeDirectory u) = .ok (layout.base t ++ storeNames u) := by
  have hlast : t.Leads false (layout.base t ++ [storeName]) [u.text.take 3, u.text]
      [layout.base t ++ [storeName] ++ [u.text.take 3]] 0
      (layout.base t ++ [storeName] ++ [u.text.take 3] ++ [u.text]) :=
    .enter u.isName_start.1 (.inl (by simp)) (by simpa using hroom) (.stop u.isName_text.1 rfl)
  have hwhole := hstores.comp hg hlast (.inl (by simp))
  have hsteps : layout.storeParts ++ [u.text.take 3, u.text] = steps (layout.storeDirectory u) := by
    rw [layout.steps_storeDirectory, List.append_assoc]
    rfl
  have hplace : layout.base t ++ [storeName] ++ [u.text.take 3] ++ [u.text] =
      layout.base t ++ storeNames u := by simp [storeNames]
  rw [hsteps, hplace, ← origin_storeDirectory t layout u] at hwhole
  exact locate_eq_of_leads hw hwhole (Nat.zero_le _)

/-- Room is made for a store, and then its place can be found. -/
theorem openParent_of_absent (hstanding : t.Standing) (hstart : t.Grounded (t.origin layout.root))
    (hold : t.Straight (layout.storeDirectory old)) (hnew : t.Straight (layout.storeDirectory new))
    (hstat : t.stat true (layout.storeDirectory old) = .ok node)
    (hfree : t.stat true (layout.storeDirectory new) = .error .notFound) :
    ∃ t₂, openParent (layout.storeDirectory new) t = .ok () t₂ ∧
      Extended t t₂ (layout.base t ++ [storeName, new.text.take 3]) ∧
      t₂.get? (layout.base t ++ [storeName, new.text.take 3]) = some .directory ∧
      t₂.locate false (layout.storeDirectory new) = .ok (layout.base t ++ storeNames new) := by
  have hw := walkable_of_stat hfree (layout.text_storeDirectory_ne_nil new)
  obtain ⟨seen, hstores, hgr⟩ := exists_stores_route hstart hold hstat
  obtain ⟨parent, hparent, hback, htext, hroute⟩ := exists_parent_route new hstores hgr.self
  have hl := locate_eq_of_leads (layout.walkable_parent hparent htext hw) hroute (Nat.zero_le _)
  have hroom : layout.base t ++ [storeName] ++ [new.text.take 3] =
      layout.base t ++ [storeName, new.text.take 3] := by simp
  have hopen : ∃ t₂, openParent (layout.storeDirectory new) t = .ok () t₂ ∧
      Extended t t₂ (layout.base t ++ [storeName, new.text.take 3]) ∧
      t₂.get? (layout.base t ++ [storeName, new.text.take 3]) = some .directory := by
    unfold openParent
    rw [hparent]
    rcases room_of_absent hnew hfree hstores hgr.self with hnone | hdir
    · have hne : layout.base t ++ [storeName, new.text.take 3] ≠ [] := by simp
      have habove : t.get? (layout.base t ++ [storeName, new.text.take 3]).dropLast =
          some .directory := by
        rw [← hroom, List.dropLast_concat]
        exact hgr.self
      rw [hroom] at hl hnone
      exact ⟨_, makeDirectories_of_free hback htext hl hnone, .put hstanding hne habove hnone,
        by rw [get?_put _ _ _ _ hne, if_pos rfl]⟩
    · exact ⟨t, makeDirectories_of_directory hback htext hl hdir, .refl hstanding _, hroom ▸ hdir⟩
  obtain ⟨t₂, hrun, hex, hdir⟩ := hopen
  refine ⟨t₂, hrun, hex, hdir, ?_⟩
  -- the way there is as it was, and leads on through the directory made
  have hstores₂ : t₂.Leads true (t.origin layout.root) layout.storeParts seen 0
      (layout.base t ++ [storeName]) := hstores.congr fun x hx => by
    rcases hstores.passed (.inr hgr.self) hx with hg | ⟨_, hg⟩ <;> rw [hex.of_some hg, hg]
  rw [← hex.origin, ← hex.base] at hstores₂
  rw [← hex.base]
  exact locate_storeDirectory hw hstores₂ (hex.base layout ▸ hex.of_some hgr.self)
    (hex.base layout ▸ hdir)

/-! ## The whole move -/

/-- A store was moved, there is a directory where it is now, and everything stands in one. The root's path
starts from where it started. -/
structure StoreRelocated (t t' : FileTree) (layout : Layout) (table : TableName) (old new : Uuid)
    (updated : Bool) : Prop where
  moved : StoreMoved t t' [] layout table old new true updated
  room : t'.get? (layout.base t ++ [storeName, new.text.take 3]) = some .directory
  origin : t'.origin layout.root = t.origin layout.root
  spare : t'.spare = t.spare
  standing : t'.Standing

theorem StoreRelocated.base {updated : Bool} (hm : StoreRelocated t t' layout table old new updated) :
    layout.base t' = layout.base t :=
  base_of_origin layout hm.origin

/-- The link is made anew where it pointed to the old place. -/
theorem StoreRelocated.updated_iff {updated : Bool}
    (hm : StoreRelocated t t' layout table old new updated) (hd : table.database ≠ [])
    (ht : table.table ≠ []) (hlink : t.StraightTo (layout.dataLink table))
    (hapart : RootApart t layout old) :
    updated = true ↔ t.Points (layout.dataLink table) (layout.storeDirectory old) := by
  rw [hm.moved.updated_iff (by simp) hd ht hlink hapart.start (avoids_of_root t hd ht old hapart.way),
    and_iff_right rfl]

section Free

variable (hstart : t.Grounded (t.origin layout.root)) (hstanding : t.Standing)
  (hold : t.Straight (layout.storeDirectory old)) (hnew : t.Straight (layout.storeDirectory new))
include hstart hstanding hold hnew

/-- A store that is found is moved to where nothing is. -/
theorem rename_of_absent (hstat : t.stat true (layout.storeDirectory old) = .ok node)
    (hfree : t.stat true (layout.storeDirectory new) = .error .notFound) :
    ∃ t₂ t₃, openParent (layout.storeDirectory new) t = .ok () t₂ ∧
      rename (layout.storeDirectory old) (layout.storeDirectory new) t₂ = .ok () t₃ ∧ t₃.Standing ∧
      t₃.get? (layout.base t ++ [storeName, new.text.take 3]) = some .directory ∧ t₃.spare = t.spare := by
  obtain ⟨t₂, hopen, hex, hroom, hb⟩ :=
    openParent_of_absent hstanding hstart hold hnew hstat hfree
  have hgb := (get?_of_absent hstanding hnew hfree hex hb).2
  have hends := layout.storeDirectory_endsIn old
  obtain ⟨hplace, hnode⟩ := hold.of_stat hstat
  have ha := (hold.last hends).1.locate_of_kept hends hex.origin (fun _ _ => hex.of_some) hplace
  rw [goalOf_storeDirectory] at ha hnode
  have htexts := text_ne_of_free hstat hfree
  have hoff : ¬ layout.base t ++ storeNames old <+: layout.base t ++ storeNames new := by
    have hapart : ¬ layout.base t ++ storeNames old <+: layout.base t ++ storeNames new ++ [] :=
      not_prefix_store htexts
    rwa [List.append_nil] at hapart
  have hane : layout.base t ++ storeNames old ≠ [] := by simp [storeNames]
  have hbne : layout.base t ++ storeNames new ≠ [] := by simp [storeNames]
  refine ⟨t₂, _, hopen, rename_of_free ha (hex.of_some hnode) hb hgb hoff,
    hex.standing.move hane hbne hgb (by rw [dropLast_storeNames]; exact hroom) hoff, ?_, hex.spare⟩
  rw [get?_move _ hane not_prefix_room, if_neg not_prefix_room, hroom]

/-- A store that is present is moved to where nothing is, if the program was not started in it. -/
theorem relocateStore_of_absent (hout : ¬ t.goalOf (layout.storeDirectory old) <+: t.origin layout.root)
    (hd : table.database ≠ []) (ht : table.table ≠ [])
    (hlink : t.StraightTo (layout.dataLink table))
    (hpresent : t.isPresent (layout.storeDirectory old) = .ok true)
    (habsent : t.isPresent (layout.storeDirectory new) = .ok false) :
    ∃ updated t', relocateStore (layout.dataLink table) (layout.storeDirectory old)
        (layout.storeDirectory new) t = .ok (true, updated) t' ∧
      StoreRelocated t t' layout table old new updated := by
  obtain ⟨node, hstat⟩ := stat_of_isPresent hpresent
  have hfree := stat_of_not_isPresent habsent
  obtain ⟨t₂, t₃, hopen, hmove, hstands, hroom, hspare⟩ :=
    rename_of_absent hstart hstanding hold hnew hstat hfree
  obtain ⟨hrelocated, hhere⟩ :=
    relocated_of_rename hstanding hstart hold hnew hstat hfree hopen hmove
  have horigin : t₃.origin layout.root = t.origin layout.root := origin_of_moved hhere hout
  -- the way of the link is as it was, so the link can be made anew
  have hlink' := hrelocated.straightTo hold hstat hd ht hlink horigin
  obtain ⟨answer, t', hredirect⟩ := redirect_ok_of_straight (layout.storeDirectory old)
    (layout.storeDirectory new) hstands hd ht hlink'
  have hrun : relocateStore (layout.dataLink table) (layout.storeDirectory old)
      (layout.storeDirectory new) t = .ok answer t' := by
    rw [relocateStore_eq, bind_of_ok (FileTree.look_of_ok hpresent)]
    exact (bind_of_ok (FileTree.look_of_ok habsent)).trans
      ((bind_of_ok hopen).trans ((bind_of_ok hmove).trans hredirect))
  have hmoved := fun updated (h : answer = (true, updated)) =>
    storeMoved_of_standing hstanding hstart hold hnew hd ht hlink (fun hin => absurd hin hout) (h ▸ hrun)
  have hgoal := (goalOf_dataLink_of_moved hhere hd ht).trans (goalOf_dataLink t layout hd ht)
  rcases redirect_of_ok_straight hd ht hlink' hredirect with
    ⟨hanswer, rfl, -⟩ | ⟨hanswer, ⟨_, hread, -⟩, -, rfl⟩
  · exact ⟨false, t', hanswer ▸ hrun, hmoved false hanswer, hroom, horigin, hspare, hstands⟩
  · obtain ⟨l, hl, hg⟩ := exists_of_readLink hread
    rw [(hlink'.locate (layout.dataLink_endsIn hd ht) hl).1] at hg
    have hne : t₃.goalOf (layout.dataLink table) ≠ [] := by simp [hgoal, linkNames]
    refine ⟨true, _, hanswer ▸ hrun, hmoved true hanswer, ?_, horigin, hspare, hstands.relink hne hg _⟩
    rw [get?_relink _ _ hne, hroom]
    rw [hgoal]
    exact not_prefix_of_tops (by decide) (prefix_tops _ storeName _) (prefix_tops _ dataName _)

end Free

end CatalogAdmin
