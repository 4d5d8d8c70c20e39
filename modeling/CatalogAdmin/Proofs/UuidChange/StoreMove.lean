import CatalogAdmin.Proofs.FileTree.Moves
import CatalogAdmin.Proofs.FileTree.Straight
import CatalogAdmin.Proofs.Layout.Regular
import CatalogAdmin.Proofs.UuidChange.Relocation

/-!
# What a move of a store does

Where no link is on the ways of both store directories, a path leads to the place of its names, and so it
can be said of places what a move that ends well has done to them (`storeMoved_of_standing`). Room is made for
the store (`Extended`), all of it is moved there (`Relocated`), and the table's link is made anew if it
pointed to the old place (`StoreMoved`).

The link is made anew only if it is still found after the move. It is if its path neither starts in the
store nor leads through it (`Avoids`), and to lead through it takes a `..` in the root's path
(`avoids_of_down`). A program that was started in the store starts in it still when it has moved; its
root is the same directory then (`base_of_moved`), though the way there is another one.
-/

namespace CatalogAdmin

open Session FileTree

variable {t t' t'' : FileTree} {layout : Layout} {table : TableName} {old new : Uuid}
  {a b x : Location}

/-! ## Where paths without links lead -/

/-- The directory that the root's path leads to if no link is on its way. -/
def Layout.base (layout : Layout) (t : FileTree) : Location :=
  goal (t.origin layout.root) layout.root.parts

/-- A path leads to the root and from there down by some names. -/
structure Layout.Names (layout : Layout) (p : Path) (names : List Text) : Prop where
  steps : FileTree.steps p = layout.root.parts ++ names
  origin : ∀ t : FileTree, t.origin p = t.origin layout.root
  down : ∀ name ∈ names, name ≠ "." ∧ name ≠ ".."

namespace Layout

theorem names_storeDirectory (layout : Layout) (u : Uuid) :
    layout.Names (layout.storeDirectory u) (storeNames u) where
  steps := by simp [layout.steps_storeDirectory, storeParts, storeNames]
  origin t := origin_storeDirectory t layout u
  down name hname := by
    simp only [storeNames, List.mem_cons, List.not_mem_nil, or_false] at hname
    rcases hname with rfl | rfl | rfl
    · decide
    · exact ⟨u.isName_start.1.1, u.isName_start.1.2.1⟩
    · exact ⟨u.isName_text.1.1, u.isName_text.1.2.1⟩

theorem names_dataLink (layout : Layout) (hd : table.database ≠ []) (ht : table.table ≠ []) :
    layout.Names (layout.dataLink table) (linkNames table) where
  steps := by
    simp [layout.steps_dataLink, ht, dataParts, nameParts_of_ne_nil hd, linkNames]
  origin t := origin_dataLink t layout table
  down name hname := by
    simp only [linkNames, List.mem_cons, List.not_mem_nil, or_false] at hname
    rcases hname with rfl | rfl | rfl
    · decide
    · exact escapeName_not_dots _
    · exact escapeName_not_dots _

theorem names_tableFile (layout : Layout) (hd : table.database ≠ []) :
    layout.Names (layout.tableFile table) (fileNames table) where
  steps := by
    simp [layout.steps_tableFile, metadataParts, nameParts_of_ne_nil hd, fileNames]
  origin t := origin_tableFile t layout table
  down name hname := by
    simp only [fileNames, List.mem_cons, List.not_mem_nil, or_false] at hname
    rcases hname with rfl | rfl | rfl
    · decide
    · exact escapeName_not_dots _
    · exact catalogName_not_dots _

namespace Names

variable {p : Path} {names front : List Text} {part : Text}

theorem endsIn (hp : layout.Names p (front ++ [part])) : EndsIn p (layout.root.parts ++ front) part :=
  have hpart := hp.down part (by simp)
  { steps := by rw [hp.steps, List.append_assoc]
    not_current := hpart.1
    not_up := hpart.2 }

theorem exists_endsIn (hp : layout.Names p names) (hne : names ≠ []) :
    ∃ parts part, EndsIn p parts part := by
  obtain ⟨front, part, rfl⟩ := (List.eq_nil_or_concat' names).resolve_left hne
  exact ⟨_, _, hp.endsIn⟩

theorem goalOf (hp : layout.Names p names) (t : FileTree) : t.goalOf p = layout.base t ++ names := by
  rw [FileTree.goalOf, hp.origin, hp.steps, goal_append, goal_names _ hp.down, base]

theorem way_eq (hp : layout.Names p names) (t : FileTree) :
    way (t.origin p) (FileTree.steps p) =
      way (t.origin layout.root) layout.root.parts ++ way (layout.base t) names := by
  rw [hp.origin, hp.steps, way_append, base]

/-- What is on the way is on the way to the root, or below it. -/
theorem mem_way (hp : layout.Names p names) (hx : x ∈ way (t.origin p) (FileTree.steps p)) :
    x ∈ way (t.origin layout.root) layout.root.parts ∨
      ∃ front, x = layout.base t ++ front ∧ front <+: names ∧ front ≠ [] := by
  rw [hp.way_eq, List.mem_append] at hx
  refine hx.imp_right fun hx => ?_
  obtain ⟨hfront, ⟨front, rfl⟩, hne⟩ := mem_way_names hp.down hx
  rw [List.prefix_append_right_inj] at hfront
  refine ⟨front, rfl, hfront, ?_⟩
  rintro rfl
  exact hne (List.append_nil _)

end Names

theorem storeDirectory_endsIn (layout : Layout) (u : Uuid) : EndsIn (layout.storeDirectory u)
    (layout.root.parts ++ [storeName, u.text.take 3]) u.text :=
  (layout.names_storeDirectory u).endsIn

theorem dataLink_endsIn (layout : Layout) (hd : table.database ≠ []) (ht : table.table ≠ []) :
    EndsIn (layout.dataLink table) (layout.root.parts ++ [dataName, escapeName table.database])
      (escapeName table.table) :=
  (layout.names_dataLink hd ht).endsIn

theorem tableFile_endsIn (layout : Layout) (hd : table.database ≠ []) :
    EndsIn (layout.tableFile table) (layout.root.parts ++ [metadataName, escapeName table.database])
      (catalogName table.table) :=
  (layout.names_tableFile hd).endsIn

end Layout

/-- The root is the same where its path starts from the same place. -/
theorem base_of_origin (layout : Layout) (horigin : t'.origin layout.root = t.origin layout.root) :
    layout.base t' = layout.base t := by
  rw [Layout.base, Layout.base, horigin]

/-- A root that is found from a store, or from elsewhere, is the same when the store has moved and the start
directory with it. -/
theorem base_of_moved (layout : Layout)
    (hhere : t'.here = afterMove (layout.base t ++ storeNames old) (layout.base t ++ storeNames new)
      t.here) :
    layout.base t' = layout.base t := by
  cases hroot : layout.root.isAbsolute with
  | true =>
    unfold Layout.base
    rw [origin_of_isAbsolute t' hroot, origin_of_isAbsolute t hroot]
  | false =>
    have horigin : ∀ s : FileTree, layout.base s = goal s.here layout.root.parts := fun s => by
      rw [Layout.base, origin, hroot, if_neg Bool.false_ne_true]
    rw [horigin t', hhere]
    by_cases hin : layout.base t ++ storeNames old <+: t.here
    · obtain ⟨rel, hrel⟩ := hin
      rw [← hrel, afterMove_append]
      refine goal_aside (x := storeNames old) (y := storeNames new) rfl rel ?_
      rw [hrel, ← horigin]
    · rw [afterMove_of_outside hin, horigin]

theorem goal_base (layout : Layout) (t : FileTree) (names : List Text)
    (h : ∀ name ∈ names, name ≠ "." ∧ name ≠ "..") :
    goal (t.origin layout.root) (layout.root.parts ++ names) = layout.base t ++ names := by
  rw [goal_append, goal_names _ h, Layout.base]

theorem goalOf_storeDirectory (t : FileTree) (layout : Layout) (u : Uuid) :
    t.goalOf (layout.storeDirectory u) = layout.base t ++ storeNames u :=
  (layout.names_storeDirectory u).goalOf t

theorem goalOf_dataLink (t : FileTree) (layout : Layout) (hd : table.database ≠ [])
    (ht : table.table ≠ []) :
    t.goalOf (layout.dataLink table) = layout.base t ++ linkNames table :=
  (layout.names_dataLink hd ht).goalOf t

theorem goalOf_storeDirectory_of_origin (horigin : t'.origin layout.root = t.origin layout.root) (u : Uuid) :
    t'.goalOf (layout.storeDirectory u) = t.goalOf (layout.storeDirectory u) := by
  rw [goalOf_storeDirectory, goalOf_storeDirectory, base_of_origin layout horigin]

theorem goalOf_dataLink_of_origin (horigin : t'.origin layout.root = t.origin layout.root)
    (hd : table.database ≠ []) (ht : table.table ≠ []) :
    t'.goalOf (layout.dataLink table) = t.goalOf (layout.dataLink table) := by
  rw [goalOf_dataLink t' layout hd ht, goalOf_dataLink t layout hd ht, base_of_origin layout horigin]

theorem prefix_goalOf_storeDirectory (t : FileTree) (layout : Layout) (u : Uuid) :
    layout.base t ++ [storeName] <+: t.goalOf (layout.storeDirectory u) :=
  goalOf_storeDirectory t layout u ▸ prefix_tops _ _ _

theorem prefix_goalOf_dataLink (t : FileTree) (layout : Layout) (hd : table.database ≠ [])
    (ht : table.table ≠ []) : layout.base t ++ [dataName] <+: t.goalOf (layout.dataLink table) :=
  goalOf_dataLink t layout hd ht ▸ prefix_tops _ _ _

/-- The directory that a store is in. -/
theorem dropLast_storeNames (base : Location) (u : Uuid) :
    (base ++ storeNames u).dropLast = base ++ [storeName, u.text.take 3] := by
  simp [storeNames]

/-- No store holds a directory that stores are in. -/
theorem not_prefix_room {base : Location} :
    ¬ base ++ storeNames old <+: base ++ [storeName, new.text.take 3] := fun hp => by
  simpa [storeNames] using hp.length_le

/-! ## Moving a store where no links are -/

/-- `t'` is `t`, perhaps with a new directory. -/
structure Extended (t t' : FileTree) (d : Location) : Prop where
  standing : t'.Standing
  here : t'.here = t.here
  spare : t'.spare = t.spare
  kept : ∀ x, t'.get? x = t.get? x ∨ x = d ∧ t.get? x = none ∧ t'.get? x = some .directory

namespace Extended

variable {d : Location}

theorem refl (h : t.Standing) (d : Location) : Extended t t d := ⟨h, rfl, rfl, fun _ => .inl rfl⟩

theorem put (h : t.Standing) (hd : d ≠ []) (habove : t.get? d.dropLast = some .directory)
    (hg : t.get? d = none) : Extended t (t.put d .directory) d where
  standing := h.put hd habove (by rw [hg]; simp) _
  here := rfl
  spare := rfl
  kept x := by
    rw [get?_put t d x _ hd]
    split
    · next hx => exact .inr ⟨hx, hx ▸ hg, rfl⟩
    · exact .inl rfl

theorem of_some (h : Extended t t' d) {node : Node} (hg : t.get? x = some node) :
    t'.get? x = some node := by
  rcases h.kept x with hsame | ⟨-, hnone, -⟩
  · rw [hsame, hg]
  · rw [hnone] at hg
    cases hg

theorem isLink (h : Extended t t' d) (hx : t'.IsLink x) : t.IsLink x := by
  obtain ⟨target, hg⟩ := hx
  rcases h.kept x with hsame | ⟨-, -, hnew⟩
  · exact ⟨target, hsame ▸ hg⟩
  · rw [hnew] at hg
    cases hg

theorem origin {p : Path} (h : Extended t t' d) : t'.origin p = t.origin p := by
  rw [FileTree.origin, FileTree.origin, h.here]

theorem base (h : Extended t t' d) (layout : Layout) : layout.base t' = layout.base t := by
  rw [Layout.base, Layout.base, h.origin]

theorem straight {p : Path} (h : Extended t t' d) (hp : t.Straight p) : t'.Straight p := by
  intro x hx hlink
  rw [h.origin] at hx
  exact hp x hx (h.isLink hlink)

end Extended

/-- Where a store is present, making room for another one makes at most one directory. -/
theorem extended_of_openParent (ht : t.Standing) (hstart : t.Grounded (t.origin layout.root))
    (hold : t.Straight (layout.storeDirectory old))
    {node : Node} (hstat : t.stat true (layout.storeDirectory old) = .ok node)
    (h : openParent (layout.storeDirectory new) t = .ok () t') :
    Extended t t' (layout.base t ++ [storeName, new.text.take 3]) := by
  obtain ⟨hplace, -⟩ := hold.of_stat hstat
  obtain ⟨-, _, _, -, hroute⟩ := leads_of_locate hplace
  rw [layout.steps_storeDirectory, List.append_assoc, origin_storeDirectory] at hroute
  obtain ⟨stores, _, _, _, _, hstores, -, -, -, hgr⟩ :=
    hroute.split (by simp) hstart
  obtain rfl : stores = layout.base t ++ [storeName] := by
    rw [← goal_base layout t [storeName] (by decide)]
    refine (hstores.straight fun x hx => hold x ?_).1
    rw [layout.steps_storeDirectory, List.append_assoc, origin_storeDirectory, way_append]
    exact List.mem_append_left _ hx
  have hd : layout.base t ++ [storeName, new.text.take 3] =
      layout.base t ++ [storeName] ++ [new.text.take 3] := by simp
  rw [hd]
  rcases openParent_of_route new hstores hgr.self with ⟨_, -, -, hfree, hrun⟩ | hrun | ⟨e, hrun⟩
  · rw [hrun] at h
    cases h
    exact .put ht (by simp) (by rw [List.dropLast_concat]; exact hgr.self) hfree
  · rw [hrun] at h
    cases h
    exact .refl ht _
  · rw [hrun] at h
    cases h

/-- All that was at one place is at another, where nothing was, and nothing is left behind. -/
structure Transferred (t t' : FileTree) (a b : Location) : Prop where
  moved : ∀ rel, t'.get? (b ++ rel) = t.get? (a ++ rel)
  left : ∀ rel, t'.get? (a ++ rel) = none
  free : ∀ rel, t.get? (b ++ rel) = none

/-- Nothing else changed, but that the directory which the new place is in may be new. -/
structure Relocated (t t' : FileTree) (a b : Location) : Prop extends Transferred t t' a b where
  kept : ∀ x, ¬ a <+: x → ¬ b <+: x →
    t'.get? x = t.get? x ∨ x = b.dropLast ∧ t.get? x = none ∧ t'.get? x = some .directory

/-- Where nothing is found at the new place, nothing is there. -/
theorem get?_of_absent (ht : t.Standing) (hnew : t.Straight (layout.storeDirectory new))
    (hstat : t.stat true (layout.storeDirectory new) = .error .notFound)
    (hex : Extended t t' (layout.base t ++ [storeName, new.text.take 3]))
    (hl : t'.locate false (layout.storeDirectory new) = .ok b) :
    b = layout.base t ++ storeNames new ∧ t'.get? b = none := by
  have hends := layout.storeDirectory_endsIn new
  have hnew' := hex.straight hnew
  have hb := hnew'.locate hl
  rw [goalOf_storeDirectory, hex.base] at hb
  refine ⟨hb, ?_⟩
  cases hg' : t'.get? b with
  | none => rfl
  | some node =>
    have habove : layout.base t ++ [storeName, new.text.take 3] <+: b :=
      hb ▸ ⟨[new.text], by simp [storeNames]⟩
    have hne : layout.base t ++ [storeName, new.text.take 3] ≠ b := by
      rw [hb]
      simp [storeNames]
    -- so it was there before, in a directory that was there before, and would have been found
    have hg : t.get? b = some node := by
      rcases hex.kept b with hsame | ⟨hd, -, -⟩
      · rw [← hsame, hg']
      · exact absurd hd.symm hne
    have hdir := ht.directory_of_below habove hne hg
    have hplace : t.locate false (layout.storeDirectory new) = .ok b := by
      refine (hnew'.last hends).1.locate_of_kept hends hex.origin.symm (fun x _ hx => ?_) hl
      rcases hex.kept x with hsame | ⟨rfl, hnone, -⟩
      · rw [← hsame, hx]
      · rw [hdir] at hnone
        cases hnone
    have hfound := stat_of_place hplace hg fun target hlink => by
      refine (hnew.last hends).2 ?_
      rw [goalOf_storeDirectory, ← hb]
      exact ⟨target, hlink ▸ hg⟩
    rw [hfound] at hstat
    cases hstat

/-- Different stores are not in each other. -/
theorem not_prefix_store {base : Location} (hne : old.text ≠ new.text) {rel : Location} :
    ¬ base ++ storeNames old <+: base ++ storeNames new ++ rel := by
  rintro ⟨more, hmore⟩
  rw [List.append_assoc, List.append_assoc, List.append_cancel_left_eq] at hmore
  exact hne (storeNames_injective (List.append_inj hmore rfl).1)

/-- A store that is moved to where none was. -/
theorem relocated_of_rename (ht : t.Standing) (hstart : t.Grounded (t.origin layout.root))
    (hold : t.Straight (layout.storeDirectory old)) (hnew : t.Straight (layout.storeDirectory new)) {node : Node}
    (hstat : t.stat true (layout.storeDirectory old) = .ok node)
    (hfree : t.stat true (layout.storeDirectory new) = .error .notFound)
    (hopen : openParent (layout.storeDirectory new) t = .ok () t')
    (hmove : rename (layout.storeDirectory old) (layout.storeDirectory new) t' = .ok () t'') :
    Relocated t t'' (t.goalOf (layout.storeDirectory old)) (t.goalOf (layout.storeDirectory new)) ∧
      t''.here = afterMove (t.goalOf (layout.storeDirectory old))
        (t.goalOf (layout.storeDirectory new)) t.here := by
  have hex := extended_of_openParent ht hstart hold hstat hopen
  rcases renamed_cases (layout.storeDirectory old) (layout.storeDirectory new) t' with
    ⟨e, hrun⟩ | ⟨a, b, _, ha, hb, hrun, hrenamed⟩
  · rw [hrun] at hmove
    cases hmove
  rw [hrun] at hmove
  cases hmove
  obtain ⟨hbeq, hbnone⟩ := get?_of_absent ht hnew hfree hex hb
  have haeq := (hex.straight hold).locate ha
  rw [goalOf_storeDirectory, hex.base] at haeq
  have htexts := text_ne_of_free hstat hfree
  have hgone : ∀ rel, ¬ a <+: b ++ rel := fun _ => haeq ▸ hbeq ▸ not_prefix_store htexts
  have hstays : ∀ rel, ¬ b <+: a ++ rel := fun _ =>
    haeq ▸ hbeq ▸ not_prefix_store (Ne.symm htexts)
  have hane : a ≠ [] := by
    rintro rfl
    exact hgone [] List.nil_prefix
  have hbne : b ≠ [] := by
    rintro rfl
    exact hstays [] List.nil_prefix
  rw [goalOf_storeDirectory, goalOf_storeDirectory, ← haeq, ← hbeq]
  have hroom : b.dropLast = layout.base t ++ [storeName, new.text.take 3] := by
    rw [hbeq, dropLast_storeNames]
  cases hrenamed with
  | same hsame =>
    subst hsame
    exact absurd (List.prefix_append a []) (hgone [])
  | replaced hthere => rw [hbnone] at hthere; cases hthere
  | free _ _ =>
    refine ⟨⟨⟨fun rel => ?_, fun rel => ?_, fun rel => ?_⟩, fun x hxa hxb => ?_⟩,
      congrArg (afterMove a b) hex.here⟩
    · rw [get?_move_target hane hbne _ (hex.standing.get?_below hbnone (List.prefix_append _ _))]
      rcases hex.kept (a ++ rel) with hsame | ⟨hd, -, -⟩
      · exact hsame
      · -- the new directory is not as deep
        have hlen := congrArg List.length hd
        simp [haeq, storeNames] at hlen
    · rw [get?_move _ hane (hstays rel), if_pos (List.prefix_append a rel)]
    · cases hg : t.get? (b ++ rel) with
      | none => rfl
      | some node =>
        have hnone := hex.standing.get?_below hbnone (List.prefix_append b rel)
        rw [hex.of_some hg] at hnone
        cases hnone
    · rw [get?_move _ hane hxb, if_neg hxa, hroom]
      exact hex.kept x

/-! ## The link of the table -/

theorem mem_way_dataLink (hd : table.database ≠ []) (ht : table.table ≠ [])
    (hx : x ∈ way (t.origin (layout.dataLink table)) (steps (layout.dataLink table))) :
    x ∈ way (t.origin layout.root) layout.root.parts ∨ layout.base t ++ [dataName] <+: x := by
  refine ((layout.names_dataLink hd ht).mem_way hx).imp_right ?_
  rintro ⟨_ | ⟨first, rest⟩, rfl, hfront, hne⟩
  · exact absurd rfl hne
  · obtain ⟨rfl, -⟩ := List.cons_prefix_cons.1 hfront
    exact prefix_tops _ _ _

/-- A path does not lead through a place. -/
def FileTree.Avoids (t : FileTree) (p : Path) (a : Location) : Prop :=
  ∀ x ∈ way (t.origin p) (steps p), ¬ a <+: x

instance (t : FileTree) (p : Path) (a : Location) : Decidable (t.Avoids p a) :=
  inferInstanceAs (Decidable (∀ x ∈ way (t.origin p) (steps p), ¬ a <+: x))

theorem avoids_iff_parts {p : Path} {a : Location} :
    t.Avoids p a ↔ ∀ x ∈ way (t.origin p) p.parts, ¬ a <+: x := by
  rw [Avoids, way_parts]

theorem avoids_of_origin (horigin : t'.origin layout.root = t.origin layout.root) {u : Uuid} :
    t'.Avoids layout.root (t'.goalOf (layout.storeDirectory u)) ↔
      t.Avoids layout.root (t.goalOf (layout.storeDirectory u)) := by
  rw [goalOf_storeDirectory_of_origin horigin, Avoids, Avoids, horigin]

/-- The root's path neither starts in the store directory of a UUID nor leads through it. -/
structure RootApart (t : FileTree) (layout : Layout) (u : Uuid) : Prop where
  start : ¬ t.goalOf (layout.storeDirectory u) <+: t.origin layout.root
  way : t.Avoids layout.root (t.goalOf (layout.storeDirectory u))

instance (t : FileTree) (layout : Layout) (u : Uuid) : Decidable (RootApart t layout u) :=
  decidable_of_iff (¬ t.goalOf (layout.storeDirectory u) <+: t.origin layout.root ∧
    t.Avoids layout.root (t.goalOf (layout.storeDirectory u))) ⟨fun h => ⟨h.1, h.2⟩, fun h => ⟨h.1, h.2⟩⟩

theorem RootApart.congr {u : Uuid} (h : RootApart t layout u)
    (horigin : t'.origin layout.root = t.origin layout.root) : RootApart t' layout u where
  start := by
    rw [goalOf_storeDirectory_of_origin horigin, horigin]
    exact h.start
  way := (avoids_of_origin horigin).2 h.way

/-- Where the way of a link is the same in two trees, so is what the link points to. -/
theorem points_of_same {p source : Path} {parts : List Text} {part : Text}
    (hends : EndsIn p parts part) (hp : t.StraightTo p) (hhere : t'.here = t.here)
    (hsame : ∀ x ∈ way (t.origin p) (steps p),
      t.get? x = some .directory ∨ t.IsLink x → t'.get? x = t.get? x)
    (h : t.Points p source) : t'.Points p source := by
  obtain ⟨current, hread, hcomponents⟩ := h
  obtain ⟨l, hl, hg⟩ := exists_of_readLink hread
  have hplace := (hp.locate hends hl).1
  rw [way_steps hends, List.forall_mem_append] at hsame
  have hl' : t'.locate false p = .ok l :=
    hp.locate_of_kept hends (origin_of_here hhere p)
      (fun x hx hdir => (hsame.1 x hx (.inl hdir)).trans hdir) hl
  have hg' := (hsame.2 l (List.mem_singleton.2 hplace) (.inr ⟨current, hg⟩)).trans hg
  exact ⟨current, readLink_of_get? hl' hg', hcomponents⟩

/-- The path of a link leads through no store if the root's path does not. -/
theorem avoids_of_root (t : FileTree) (hd : table.database ≠ []) (ht : table.table ≠ []) (u : Uuid)
    (hroot : t.Avoids layout.root (t.goalOf (layout.storeDirectory u))) :
    t.Avoids (layout.dataLink table) (t.goalOf (layout.storeDirectory u)) := by
  intro x hx
  rcases mem_way_dataLink hd ht hx with hx | hx
  · exact avoids_iff_parts.1 hroot x hx
  · exact not_prefix_of_tops (by decide) hx (prefix_goalOf_storeDirectory t layout u)

/-- The path of a link leads through no store if the root's path goes up nowhere. -/
theorem avoids_of_down (t : FileTree) (hup : (".." : Text) ∉ layout.root.parts)
    (hd : table.database ≠ []) (ht : table.table ≠ []) (u : Uuid) :
    t.Avoids (layout.dataLink table) (t.goalOf (layout.storeDirectory u)) := by
  refine avoids_of_root t hd ht u (avoids_iff_parts.2 fun x hx hstore => ?_)
  have hlen := (((prefix_goalOf_storeDirectory t layout u).trans hstore).trans
    (prefix_goal hup (.inr hx))).length_le
  rw [List.length_append, List.length_singleton] at hlen
  exact absurd hlen (Nat.not_succ_le_self _)

/-! ## The whole move -/

/-- `t'` is `t` with a store moved and its link made anew, as far as there was a store and a link to it.
What else changed are some places given. -/
structure StoreMoved (t t' : FileTree) (changed : List Location) (layout : Layout) (table : TableName)
    (old new : Uuid) (relocated updated : Bool) : Prop where
  present : relocated = true ↔ ∃ node, t.stat false (layout.storeDirectory old) = .ok node
  store : relocated = true →
    Transferred t t' (t.goalOf (layout.storeDirectory old)) (t.goalOf (layout.storeDirectory new))
  pointed : updated = true ↔ relocated = true ∧
    t.Points (layout.dataLink table) (layout.storeDirectory old) ∧
    t'.locate false (layout.dataLink table) = .ok (t.goalOf (layout.dataLink table))
  link : updated = true →
    t'.get? (t.goalOf (layout.dataLink table)) = some (.link (layout.storeDirectory new))
  kept : ∀ x ∉ changed,
    (relocated = true → ¬ t.goalOf (layout.storeDirectory old) <+: x ∧
      ¬ t.goalOf (layout.storeDirectory new) <+: x) →
    (updated = true → x ≠ t.goalOf (layout.dataLink table)) →
    t'.get? x = t.get? x ∨
      relocated = true ∧ x = (t.goalOf (layout.storeDirectory new)).dropLast ∧ t.get? x = none ∧
        t'.get? x = some .directory
  here : t'.here = if relocated then afterMove (t.goalOf (layout.storeDirectory old))
    (t.goalOf (layout.storeDirectory new)) t.here else t.here

/-- What is outside of the store, and is no link, stays where it is. -/
theorem StoreMoved.get?_of_some {relocated updated : Bool} {node : Node} {changed : List Location}
    (h : StoreMoved t t' changed layout table old new relocated updated) (hg : t.get? x = some node)
    (hnode : ∀ target, node ≠ .link target) (hd : table.database ≠ []) (ht : table.table ≠ [])
    (hlink : t.StraightTo (layout.dataLink table)) (hx : x ∉ changed)
    (hoff : ¬ t.goalOf (layout.storeDirectory old) <+: x) : t'.get? x = some node := by
  have hnew : relocated = true → ¬ t.goalOf (layout.storeDirectory new) <+: x := by
    rintro hr ⟨rel, rfl⟩
    cases ((h.store hr).free rel).symm.trans hg
  have hother : updated = true → x ≠ t.goalOf (layout.dataLink table) := by
    rintro hu rfl
    obtain ⟨-, ⟨_, hread, -⟩, -⟩ := h.pointed.1 hu
    obtain ⟨l, hl, hl'⟩ := exists_of_readLink hread
    rw [(hlink.locate (layout.dataLink_endsIn hd ht) hl).1] at hl'
    exact hnode _ (Option.some.inj (hg.symm.trans hl'))
  rcases h.kept x hx (fun hr => ⟨hoff, hnew hr⟩) hother with hsame | ⟨-, -, hnone, -⟩
  · rw [hsame, hg]
  · cases hnone.symm.trans hg

/-- Paths start from where they started before, if that is not in the store. -/
theorem StoreMoved.origin_eq {relocated updated : Bool} {changed : List Location} {p : Path}
    (h : StoreMoved t t' changed layout table old new relocated updated)
    (hout : ¬ t.goalOf (layout.storeDirectory old) <+: t.origin p) : t'.origin p = t.origin p := by
  have hhere := h.here
  split at hhere
  · exact origin_of_moved hhere hout
  · exact origin_of_here hhere p

/-- A link that is found past the store is made anew if it points there. -/
theorem StoreMoved.updated_iff {relocated updated : Bool} {changed : List Location}
    (h : StoreMoved t t' changed layout table old new relocated updated)
    (hfiles : ∀ x ∈ changed, t.get? x ≠ some .directory) (hd : table.database ≠ [])
    (ht : table.table ≠ []) (hlink : t.StraightTo (layout.dataLink table))
    (hout : ¬ t.goalOf (layout.storeDirectory old) <+: t.origin layout.root)
    (hoff : t.Avoids (layout.dataLink table) (t.goalOf (layout.storeDirectory old))) :
    updated = true ↔ relocated = true ∧
      t.Points (layout.dataLink table) (layout.storeDirectory old) := by
  refine h.pointed.trans (and_congr_right fun _ => and_iff_left_of_imp ?_)
  rintro ⟨_, hread, -⟩
  obtain ⟨l, hl, -⟩ := exists_of_readLink hread
  have hends := layout.dataLink_endsIn hd ht
  have hdirs := (hlink.locate hends hl).2
  have horigin : t'.origin (layout.dataLink table) = t.origin (layout.dataLink table) := by
    rw [origin_dataLink, origin_dataLink, h.origin_eq hout]
  have hkept : ∀ x ∈ way (t'.origin (layout.dataLink table))
      (layout.root.parts ++ [dataName, escapeName table.database]), t'.get? x = some .directory := by
    intro x hx
    rw [horigin] at hx
    have hg := hdirs x hx
    refine h.get?_of_some hg (by simp) hd ht hlink (fun hmem => hfiles x hmem hg) (hoff x ?_)
    rw [way_steps hends]
    exact List.mem_append_left _ hx
  rw [locate_of_directories hends hl hkept, FileTree.goalOf, FileTree.goalOf, horigin]

/-- Outside of the directory of all stores only the link of the table changes. -/
theorem StoreMoved.get?_elsewhere {relocated updated : Bool}
    (h : StoreMoved t t' [] layout table old new relocated updated)
    (hx : ¬ layout.base t ++ [storeName] <+: x)
    (hl : updated = true → x ≠ t.goalOf (layout.dataLink table)) : t'.get? x = t.get? x := by
  have hstore := fun u (hp : t.goalOf (layout.storeDirectory u) <+: x) =>
    hx ((prefix_goalOf_storeDirectory t layout u).trans hp)
  refine (h.kept x List.not_mem_nil (fun _ => ⟨hstore old, hstore new⟩) hl).resolve_right ?_
  rintro ⟨-, rfl, -⟩
  rw [goalOf_storeDirectory, dropLast_storeNames] at hx
  exact hx (prefix_tops _ _ _)

/-- A store that is missing is not moved. -/
theorem StoreMoved.of_absent (hold : t.Straight (layout.storeDirectory old))
    (hstat : t.stat true (layout.storeDirectory old) = .error .notFound) :
    StoreMoved t t [] layout table old new false false where
  present := by
    refine ⟨fun h => (Bool.false_ne_true h).elim, ?_⟩
    rintro ⟨node, hnode⟩
    obtain ⟨hl, hg⟩ := hold.of_stat hnode
    have hfound := stat_of_place hl hg fun target htarget =>
      (hold.last (layout.storeDirectory_endsIn old)).2 ⟨target, htarget ▸ hg⟩
    rw [hfound] at hstat
    cases hstat
  store h := (Bool.false_ne_true h).elim
  pointed := by simp
  link h := (Bool.false_ne_true h).elim
  kept _ _ _ _ := .inl rfl
  here := rfl

/-- The store is found by way of the root, so there are directories on that. -/
theorem directory_of_root_way {node : Node} (hold : t.Straight (layout.storeDirectory old))
    (hstat : t.stat true (layout.storeDirectory old) = .ok node)
    (hx : x ∈ way (t.origin layout.root) layout.root.parts) : t.get? x = some .directory := by
  have hends := layout.storeDirectory_endsIn old
  refine ((hold.last hends).1.locate hends (hold.of_stat hstat).1).2 x ?_
  rw [origin_storeDirectory, way_append]
  exact List.mem_append_left _ hx

/-- Nothing in the directory of the links changes when a store moves. -/
theorem Relocated.get?_data
    (h : Relocated t t' (t.goalOf (layout.storeDirectory old)) (t.goalOf (layout.storeDirectory new)))
    (hx : layout.base t ++ [dataName] <+: x) : t'.get? x = t.get? x := by
  have hstore := prefix_goalOf_storeDirectory t layout
  refine (h.kept x (not_prefix_of_tops (by decide) hx (hstore old))
    (not_prefix_of_tops (by decide) hx (hstore new))).resolve_right ?_
  rintro ⟨rfl, -, -⟩
  rw [goalOf_storeDirectory, dropLast_storeNames] at hx
  exact absurd (eq_of_prefix_tops hx (prefix_tops _ storeName _)) (by decide)

section AfterMove

variable {node : Node}
  (h : Relocated t t' (t.goalOf (layout.storeDirectory old)) (t.goalOf (layout.storeDirectory new)))
  (hhere : t'.here = afterMove (t.goalOf (layout.storeDirectory old))
    (t.goalOf (layout.storeDirectory new)) t.here)
  (hold : t.Straight (layout.storeDirectory old))
  (hstat : t.stat true (layout.storeDirectory old) = .ok node) (hd : table.database ≠ [])
  (ht : table.table ≠ []) (hlink : t.StraightTo (layout.dataLink table))
  (hlink' : t'.StraightTo (layout.dataLink table))

include hhere hd ht in
/-- The link of the table is to be found where it was. -/
theorem goalOf_dataLink_of_moved :
    t'.goalOf (layout.dataLink table) = t.goalOf (layout.dataLink table) := by
  rw [goalOf_storeDirectory, goalOf_storeDirectory] at hhere
  rw [goalOf_dataLink t' layout hd ht, goalOf_dataLink t layout hd ht, base_of_moved layout hhere]

include h hold hstat hd ht

include hlink in
/-- A move of a store puts no link on the way of the table's link, unless that starts in the store. -/
theorem Relocated.straightTo (horigin : t'.origin layout.root = t.origin layout.root) :
    t'.StraightTo (layout.dataLink table) := by
  intro x hx hlinked
  obtain ⟨target, hg⟩ := hlinked
  rw [origin_dataLink, horigin, ← origin_dataLink t layout table] at hx
  have hmem : x ∈ way (t.origin (layout.dataLink table)) (steps (layout.dataLink table)) := by
    have hends := layout.dataLink_endsIn hd ht
    rw [hends.steps, List.dropLast_concat] at hx
    rw [way_steps hends]
    exact List.mem_append_left _ hx
  rcases mem_way_dataLink hd ht hmem with hroot | hdata
  · -- a directory on the way to the root is there still, or gone with the store
    have hdir := directory_of_root_way hold hstat hroot
    have hold' : ¬ t.goalOf (layout.storeDirectory old) <+: x := by
      rintro ⟨rel, rfl⟩
      cases (h.left rel).symm.trans hg
    have hnew : ¬ t.goalOf (layout.storeDirectory new) <+: x := by
      rintro ⟨rel, rfl⟩
      cases (h.free rel).symm.trans hdir
    rcases h.kept x hold' hnew with hsame | ⟨-, hnone, -⟩
    · cases (hsame.symm.trans hg).symm.trans hdir
    · cases hnone.symm.trans hdir
  · exact hlink x hx ⟨target, (h.get?_data hdata).symm.trans hg⟩

include hhere hlink hlink'

/-- After the move the link points to the old place if it did before and is still found. -/
theorem Relocated.points_iff {source : Path} :
    t'.Points (layout.dataLink table) source ↔ t.Points (layout.dataLink table) source ∧
      t'.locate false (layout.dataLink table) = .ok (t.goalOf (layout.dataLink table)) := by
  have hends := layout.dataLink_endsIn hd ht
  have hgoal := goalOf_dataLink_of_moved hhere hd ht
  have hsame := h.get?_data (prefix_goalOf_dataLink t layout hd ht)
  constructor
  · rintro ⟨current, hread, hcomponents⟩
    obtain ⟨l, hl, hg⟩ := exists_of_readLink hread
    obtain ⟨rfl, hdirs'⟩ := hlink'.locate hends hl
    rw [hgoal] at hl hg
    rw [hsame] at hg
    refine ⟨⟨current, readLink_of_get? (locate_of_directories hends hl fun x hx => ?_) hg, hcomponents⟩,
      hl⟩
    have hmem : x ∈ way (t.origin (layout.dataLink table)) (steps (layout.dataLink table)) := by
      rw [way_steps hends]
      exact List.mem_append_left _ hx
    rcases mem_way_dataLink hd ht hmem with hroot | hdata
    · exact directory_of_root_way hold hstat hroot
    -- what is not on the way to the root is where it was, and the way after the move leads there
    rw [← h.get?_data hdata]
    rw [way_append, List.mem_append] at hx
    rcases hx with hroot | hx
    · rw [origin_dataLink] at hroot
      rw [h.get?_data hdata]
      exact directory_of_root_way hold hstat hroot
    · refine hdirs' x ?_
      rw [goalOf_storeDirectory, goalOf_storeDirectory] at hhere
      rw [way_append]
      refine List.mem_append_right _ ?_
      rwa [origin_dataLink, show goal (t'.origin layout.root) layout.root.parts = layout.base t' from rfl,
        base_of_moved layout hhere, Layout.base, ← origin_dataLink t layout table]
  · rintro ⟨⟨current, hread, hcomponents⟩, hl'⟩
    obtain ⟨l, hl, hg⟩ := exists_of_readLink hread
    obtain rfl := (hlink.locate hends hl).1
    exact ⟨current, readLink_of_get? hl' (hsame.trans hg), hcomponents⟩

/-- Where only the store moves, the link did not point to it. -/
theorem StoreMoved.of_relocated
    (hpoints : ¬ t'.Points (layout.dataLink table) (layout.storeDirectory old)) :
    StoreMoved t t' [] layout table old new true false where
  present := by
    obtain ⟨hl, hg⟩ := hold.of_stat hstat
    exact ⟨fun _ => ⟨node, stat_of_get? hl hg⟩, fun _ => rfl⟩
  store _ := h.toTransferred
  pointed := by
    rw [h.points_iff hhere hold hstat hd ht hlink hlink'] at hpoints
    simpa using hpoints
  link h := (Bool.false_ne_true h).elim
  kept x _ hx _ := (h.kept x (hx rfl).1 (hx rfl).2).imp_right fun hnew => ⟨rfl, hnew⟩
  here := hhere

/-- Where the link points to the store after that moved, it is made anew. -/
theorem StoreMoved.of_redirected (hstanding : t.Standing)
    (hpoints : t'.Points (layout.dataLink table) (layout.storeDirectory old))
    (hagain : (t'.erase (t.goalOf (layout.dataLink table))).locate false (layout.dataLink table) =
      .ok (t.goalOf (layout.dataLink table))) :
    StoreMoved t ((t'.erase (t.goalOf (layout.dataLink table))).put
      (t.goalOf (layout.dataLink table)) (.link (layout.storeDirectory new)))
      [] layout table old new true true := by
  have hdata := prefix_goalOf_dataLink t layout hd ht
  have hstores := prefix_goalOf_storeDirectory t layout
  have hboth := (h.points_iff hhere hold hstat hd ht hlink hlink').1 hpoints
  generalize hl : t.goalOf (layout.dataLink table) = l at hdata hagain ⊢
  have hne : l ≠ [] := by
    rintro rfl
    simp at hdata
  have hget := fun x => get?_put (t'.erase l) l x (.link (layout.storeDirectory new)) hne
  have hfree : (t'.erase l).get? l = none := by
    rw [get?_erase _ _ _ hne, if_pos (List.prefix_refl l)]
  -- both places of the store are elsewhere
  have hstore : ∀ {x}, layout.base t ++ [storeName] <+: x →
      ((t'.erase l).put l (.link (layout.storeDirectory new))).get? x = t'.get? x := by
    intro x hx
    have hoff := not_prefix_of_tops (by decide) hx hdata
    rw [hget, if_neg, get?_erase _ _ _ hne, if_neg hoff]
    rintro rfl
    exact hoff (List.prefix_refl _)
  have hwhere := hold.of_stat hstat
  exact {
    present := ⟨fun _ => ⟨node, stat_of_get? hwhere.1 hwhere.2⟩, fun _ => rfl⟩
    store := fun _ => {
      moved := fun rel => (hstore ((hstores new).trans (List.prefix_append _ _))).trans (h.moved rel)
      left := fun rel => (hstore ((hstores old).trans (List.prefix_append _ _))).trans (h.left rel)
      free := h.free }
    pointed := iff_of_true rfl ⟨rfl, hboth.1, hl ▸ locate_put_free hfree _ hagain⟩
    link := fun _ => by rw [hl, hget, if_pos rfl]
    kept := fun x _ hx hxl => by
      rw [hl] at hxl
      rw [hget, if_neg (hxl rfl), get?_erase _ _ _ hne]
      split
      · next hbelow =>
        -- below a link there is nothing
        refine .inl ?_
        cases hg : t.get? x with
        | none => rfl
        | some node =>
          have hdir := hstanding.directory_of_below hbelow (Ne.symm (hxl rfl)) hg
          obtain ⟨⟨_, hread, -⟩, -⟩ := hboth
          obtain ⟨place, hplace, hlinked⟩ := exists_of_readLink hread
          rw [(hlink.locate (layout.dataLink_endsIn hd ht) hplace).1, hl, hdir] at hlinked
          cases hlinked
      · exact (h.kept x (hx rfl).1 (hx rfl).2).imp_right fun hnew => ⟨rfl, hnew⟩
    here := hhere }

end AfterMove

/-- Where no other link is on the way to a table's link, that is made anew where it was. -/
theorem redirect_of_ok_straight {source target : Path} {answer : Bool × Bool}
    (hd : table.database ≠ []) (ht : table.table ≠ []) (hlink : t.StraightTo (layout.dataLink table))
    (h : redirect (layout.dataLink table) source target t = .ok answer t') :
    (answer = (true, false) ∧ t' = t ∧ ¬ t.Points (layout.dataLink table) source) ∨
    (answer = (true, true) ∧ t.Points (layout.dataLink table) source ∧
      (t.erase (t.goalOf (layout.dataLink table))).locate false (layout.dataLink table) =
        .ok (t.goalOf (layout.dataLink table)) ∧
      t' = (t.erase (t.goalOf (layout.dataLink table))).put (t.goalOf (layout.dataLink table))
        (.link target)) := by
  rcases redirect_of_ok h with hleft | ⟨hanswer, hpoints, l, hl, hl', rfl⟩
  · exact .inl hleft
  · obtain rfl := (hlink.locate (layout.dataLink_endsIn hd ht) hl).1
    exact .inr ⟨hanswer, hpoints, hl', rfl⟩

/-- Where no other link is on the way to a table's link, that can be made anew. -/
theorem redirect_ok_of_straight (source target : Path) (hstanding : t.Standing) (hd : table.database ≠ [])
    (ht : table.table ≠ []) (hlink : t.StraightTo (layout.dataLink table)) :
    ∃ answer t', redirect (layout.dataLink table) source target t = .ok answer t' := by
  rcases redirect_cases (layout.dataLink table) source target t with
    ⟨-, hrun⟩ | ⟨⟨current, hread, -⟩, l, hl, ⟨-, hrun⟩ | ⟨e, herror, -⟩⟩
  · exact ⟨_, _, hrun⟩
  · exact ⟨_, _, hrun⟩
  obtain ⟨place, hplace, hg⟩ := exists_of_readLink hread
  obtain rfl : l = place := Except.ok.inj (hl.symm.trans hplace)
  have hne : l ≠ [] := by
    rintro rfl
    rw [get?_nil] at hg
    cases hg
  have hends := layout.dataLink_endsIn hd ht
  have hdirs := (hlink.locate hends hl).2
  -- what is on the way is a directory, and stands below no link
  have hfound : (t.erase l).locate false (layout.dataLink table) = .ok _ :=
      locate_of_directories hends hl fun x hx => by
    have hdir := hdirs x hx
    rw [get?_erase t l x hne, if_neg, hdir]
    intro hp
    by_cases hsame : l = x
    · cases hg.symm.trans (hsame ▸ hdir)
    · cases hg.symm.trans (hstanding.directory_of_below hp hsame hdir)
  cases herror.symm.trans hfound

/-- If no link is on the way of a table's link that was perhaps made anew, none was before. -/
theorem straightTo_of_redirect {source target : Path} {answer : Bool × Bool} (hd : table.database ≠ [])
    (ht : table.table ≠ []) (hlink' : t'.StraightTo (layout.dataLink table))
    (h : redirect (layout.dataLink table) source target t = .ok answer t') :
    t.StraightTo (layout.dataLink table) := by
  rcases redirect_of_ok h with ⟨-, rfl, -⟩ | ⟨-, ⟨_, hread, -⟩, l, hl, hl', rfl⟩
  · exact hlink'
  have hends := layout.dataLink_endsIn hd ht
  obtain ⟨place, hplace, hg⟩ := exists_of_readLink hread
  obtain rfl : l = place := Except.ok.inj (hl.symm.trans hplace)
  have hne : l ≠ [] := by
    rintro rfl
    rw [get?_nil] at hg
    cases hg
  have hfree : (t.erase l).get? l = none := by
    rw [get?_erase _ _ _ hne, if_pos (List.prefix_refl l)]
  -- all on the way are directories, which the link is not
  have hdirs := (hlink'.locate hends (locate_put_free hfree _ hl')).2
  intro x hx hlinked
  obtain ⟨link, hlinkx⟩ := hlinked
  rw [hends.steps, List.dropLast_concat] at hx
  have hdir := hdirs x hx
  rw [get?_put _ _ _ _ hne] at hdir
  split at hdir
  · cases hdir
  rw [get?_erase _ _ _ hne] at hdir
  split at hdir
  · cases hdir
  · cases hdir.symm.trans hlinkx

/-- A run of `relocateStore` that ends well has moved the store that is there, with the link to it. Where
the way of the link starts in the store, there may be no link on it once it starts in the new place. -/
theorem storeMoved_of_standing (hstanding : t.Standing) (hstart : t.Grounded (t.origin layout.root))
    (hold : t.Straight (layout.storeDirectory old)) (hnew : t.Straight (layout.storeDirectory new))
    (hd : table.database ≠ []) (ht : table.table ≠ [])
    (hlink : t.StraightTo (layout.dataLink table))
    (hlink' : t.goalOf (layout.storeDirectory old) <+: t.origin layout.root →
      t'.StraightTo (layout.dataLink table)) {relocated updated : Bool}
    (h : relocateStore (layout.dataLink table) (layout.storeDirectory old)
      (layout.storeDirectory new) t = .ok (relocated, updated) t') :
    StoreMoved t t' [] layout table old new relocated updated := by
  rcases relocateStore_ok h with
    ⟨hanswer, rfl, hmissing⟩ | ⟨_, t₂, t₃, -, hpresent, hoccupied, hopen, hmove, hredirect⟩
  · cases hanswer
    exact .of_absent hold (stat_of_not_isPresent hmissing)
  obtain ⟨node, hstat⟩ := stat_of_isPresent hpresent
  obtain ⟨hrelocated, hhere⟩ :=
    relocated_of_rename hstanding hstart hold hnew hstat (stat_of_not_isPresent hoccupied) hopen hmove
  have hmoved : t₃.StraightTo (layout.dataLink table) := by
    by_cases hin : t.goalOf (layout.storeDirectory old) <+: t.origin layout.root
    · exact straightTo_of_redirect hd ht (hlink' hin) hredirect
    · exact hrelocated.straightTo hold hstat hd ht hlink (origin_of_moved hhere hin)
  have hgoal := goalOf_dataLink_of_moved hhere hd ht
  rcases redirect_of_ok_straight hd ht hmoved hredirect
    with ⟨hanswer, rfl, hpoints⟩ | ⟨hanswer, hpoints, hagain, rfl⟩
  · cases hanswer
    exact .of_relocated hrelocated hhere hold hstat hd ht hlink hmoved hpoints
  · cases hanswer
    rw [hgoal] at hagain ⊢
    exact .of_redirected hrelocated hhere hold hstat hd ht hlink hmoved hstanding hpoints hagain

end CatalogAdmin
