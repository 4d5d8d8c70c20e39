import CatalogAdmin.Proofs.UuidChange.Plain

/-!
# The places of a table

How a change of a table's UUID goes depends on few places: those on the ways of the catalog file, of a new
file beside it, of the link and of both stores (`LooksAt`). It changes fewer: the catalog file, the link, what
is in the stores, and perhaps the directory of the new store (`Touches`, `Confined`).

Results:
1. `Agrees.setUuid`, `Agrees.relocateStore`: in two trees that agree on these places, both steps of a change
   go the same way, and the trees agree again.
2. `Agrees.of_confined`: a change of another table, with other UUIDs, leaves them as they are, but that it may
   make the directory of a store.
3. `sameView_of_confined`: such changes of two tables lead to the same in either order.
-/

namespace CatalogAdmin

open Session FileTree

variable {t t' t₁ t₁' : FileTree} {layout : Layout} {table a b : TableName}
  {old new u a₁ a₂ b₁ b₂ : Uuid} {base x : Location} {made updated : Bool}

/-! ## Places -/

/-- The places that decide how a change of UUID goes, but for the directories that the stores are in. -/
inductive LooksAt (base : Location) (table : TableName) (old new : Uuid) : Location → Prop
  | stores : LooksAt base table old new (base ++ [storeName])
  | file {front : List Text} : front <+: fileNames table → front ≠ [] →
      LooksAt base table old new (base ++ front)
  | beside {name : Text} : (∀ other, name ≠ catalogName other) →
      LooksAt base table old new (base ++ [metadataName, escapeName table.database, name])
  | link {front : List Text} : front <+: linkNames table → front ≠ [] →
      LooksAt base table old new (base ++ front)
  | store {u : Uuid} (rel : Location) : u = old ∨ u = new →
      LooksAt base table old new (base ++ storeNames u ++ rel)

/-- The places that a change of UUID may change, but for the directory that the new store is in. -/
inductive Touches (base : Location) (table : TableName) (old new : Uuid) : Location → Prop
  | file : Touches base table old new (base ++ fileNames table)
  | link : Touches base table old new (base ++ linkNames table)
  | store {u : Uuid} (rel : Location) : u = old ∨ u = new →
      Touches base table old new (base ++ storeNames u ++ rel)

/-- Different tables, whose old and new UUIDs are different. -/
structure Apart (a b : TableName) (a₁ a₂ b₁ b₂ : Uuid) : Prop where
  tables : a ≠ b
  uuids : ∀ u v, u = a₁ ∨ u = a₂ → v = b₁ ∨ v = b₂ → u.text ≠ v.text

theorem Apart.symm (h : Apart a b a₁ a₂ b₁ b₂) : Apart b a b₁ b₂ a₁ a₂ :=
  ⟨h.tables.symm, fun u v hu hv => (h.uuids v u hv hu).symm⟩

theorem Touches.looksAt (h : Touches base table old new x) : LooksAt base table old new x := by
  cases h with
  | file => exact .file (List.prefix_refl _) (by simp [fileNames])
  | link => exact .link (List.prefix_refl _) (by simp [linkNames])
  | store rel hu => exact .store rel hu

/-- What is looked at for one table is not changed for the other. -/
theorem LooksAt.not_touches (hab : Apart a b a₁ a₂ b₁ b₂) (h : LooksAt base a a₁ a₂ x) :
    ¬ Touches base b b₁ b₂ x := by
  intro ht
  generalize hx : x = y at ht
  cases h with
  | stores => cases ht <;> simp [fileNames, linkNames, storeNames] at hx
  | @file front hfront hne =>
    have hhead : ∀ top, base ++ [top] <+: y → metadataName = top := fun top htop =>
      Option.some.inj (head?_of_prefix_top hfront hne (hx ▸ htop))
    cases ht with
    | file =>
      rw [List.append_cancel_left_eq] at hx
      exact hab.tables (fileNames_injective (hfront.eq_of_length (by rw [hx]; rfl) ▸ hx))
    | link => exact absurd (hhead _ (prefix_tops _ _ _)) (by decide)
    | store rel =>
      rw [List.append_assoc] at hhead
      exact absurd (hhead _ (prefix_tops _ _ _)) (by decide)
  | @beside name hname =>
    have hhead : ∀ top, base ++ [top] <+: y → metadataName = top := fun top htop =>
      eq_of_prefix_tops (prefix_tops _ _ _) (hx ▸ htop)
    cases ht with
    | file =>
      rw [List.append_cancel_left_eq] at hx
      exact hname b.table (List.cons.inj (List.cons.inj (List.cons.inj hx).2).2).1
    | link => exact absurd (hhead _ (prefix_tops _ _ _)) (by decide)
    | store rel =>
      rw [List.append_assoc] at hhead
      exact absurd (hhead _ (prefix_tops _ _ _)) (by decide)
  | @link front hfront hne =>
    have hhead : ∀ top, base ++ [top] <+: y → dataName = top := fun top htop =>
      Option.some.inj (head?_of_prefix_top hfront hne (hx ▸ htop))
    cases ht with
    | file => exact absurd (hhead _ (prefix_tops _ _ _)) (by decide)
    | link =>
      rw [List.append_cancel_left_eq] at hx
      exact hab.tables (linkNames_injective (hfront.eq_of_length (by rw [hx]; rfl) ▸ hx))
    | store rel =>
      rw [List.append_assoc] at hhead
      exact absurd (hhead _ (prefix_tops _ _ _)) (by decide)
  | @store u rel hu =>
    rw [List.append_assoc] at hx
    cases ht with
    | file | link =>
      rw [List.append_cancel_left_eq] at hx
      exact absurd (List.cons.inj hx).1 (by decide)
    | @store v more hv =>
      rw [List.append_assoc, List.append_cancel_left_eq] at hx
      exact hab.uuids u v hu hv (storeNames_injective (List.append_inj hx rfl).1)

/-- The directory of a store is not on the way of anything else. -/
theorem LooksAt.ne_room (h : LooksAt base table old new x) : x ≠ base ++ [storeName, u.text.take 3] := by
  intro hx
  cases h with
  | stores => simp at hx
  | beside => simp at hx
  | file hfront | link hfront =>
    rw [List.append_cancel_left_eq] at hx
    exact absurd (List.cons_prefix_cons.1 (hx ▸ hfront)).1 (by decide)
  | store rel =>
    have hlen := congrArg List.length hx
    simp [storeNames] at hlen

theorem not_touches_room : ¬ Touches base table old new (base ++ [storeName, u.text.take 3]) :=
  fun h => h.looksAt.ne_room rfl

/-! ## Sound trees -/

/-- A plain tree in which the root's path leads to the root. -/
structure Sound (t : FileTree) (layout : Layout) : Prop extends Plain t layout, Rooted t layout

namespace Sound

theorem put_file (h : Sound t layout) {c : Location} {f : File} (hg : t.get? c = some (.file f))
    (f' : File) : Sound (t.put c (.file f')) layout :=
  { h.toPlain.put_file hg f', h.toRooted.rewritten h.toPlain (.of_put hg f') with }

theorem relocated (h : Sound t layout) (hd : table.database ≠ []) (ht : table.table ≠ [])
    (hm : StoreRelocated t t' layout table old new updated) (hapart : RootApart t layout old) :
    Sound t' layout :=
  { h.toPlain.relocated hd ht hm, h.toRooted.relocated h.toPlain hd ht hm hapart with }

end Sound

/-- What is at no place of the table stays, but that the directory of the new store is there now. -/
theorem StoreRelocated.get?_kept (hm : StoreRelocated t t' layout table old new updated)
    (hold : ¬ t.goalOf (layout.storeDirectory old) <+: x)
    (hnew : ¬ t.goalOf (layout.storeDirectory new) <+: x)
    (hlink : updated = true → x ≠ t.goalOf (layout.dataLink table))
    (hroom : x ≠ layout.base t ++ [storeName, new.text.take 3]) : t'.get? x = t.get? x := by
  refine (hm.moved.kept x List.not_mem_nil (fun _ => ⟨hold, hnew⟩) hlink).resolve_right ?_
  rintro ⟨-, rfl, -⟩
  rw [goalOf_storeDirectory, dropLast_storeNames] at hroom
  exact hroom rfl

/-! ## Trees that agree on the places of a table -/

/-- Two trees in which a change of UUID finds the same. The directory of a store may be in the second one
only. -/
structure Agrees (layout : Layout) (table : TableName) (old new : Uuid) (t t' : FileTree) : Prop where
  origin : t'.origin layout.root = t.origin layout.root
  spare : t'.spare = t.spare
  places : ∀ x, LooksAt (layout.base t) table old new x → t'.get? x = t.get? x
  rooms : ∀ u, u = old ∨ u = new →
    t'.get? (layout.base t ++ [storeName, u.text.take 3]) =
        t.get? (layout.base t ++ [storeName, u.text.take 3]) ∨
      t.get? (layout.base t ++ [storeName, u.text.take 3]) = none ∧
        t'.get? (layout.base t ++ [storeName, u.text.take 3]) = some .directory

theorem front_storeNames {front : List Text} (h : front <+: storeNames u) (hne : front ≠ []) :
    front = [storeName] ∨ front = [storeName, u.text.take 3] ∨ front = storeNames u := by
  match front, hne with
  | [_], _ => simpa [storeNames, List.cons_prefix_cons] using h
  | [_, _], _ => simpa [storeNames, List.cons_prefix_cons] using h
  | [_, _, _], _ => simpa [storeNames, List.cons_prefix_cons] using h
  | _ :: _ :: _ :: _ :: _, _ => simp [storeNames, List.cons_prefix_cons] at h

namespace Agrees

theorem refl (layout : Layout) (table : TableName) (old new : Uuid) (t : FileTree) :
    Agrees layout table old new t t :=
  ⟨rfl, rfl, fun _ _ => rfl, fun _ _ => .inl rfl⟩

theorem base_eq (h : Agrees layout table old new t t') : layout.base t' = layout.base t :=
  base_of_origin layout h.origin

section Looks

variable (h : Agrees layout table old new t t') (hs : Sound t layout) (hs' : Sound t' layout)
include h hs hs'

omit hs in
theorem directory_of_way {x : Location} (hx : x ∈ way (t.origin layout.root) layout.root.parts) :
    t'.get? x = some .directory := by
  rw [← h.origin] at hx
  exact hs'.toPlain.directory_of_way hs'.toRooted hx

theorem stat_eq {p : Path} {names : List Text} {follow : Bool} (hp : layout.Names p names)
    (hne : names ≠ []) (hto : t.StraightTo p) (hend : follow = false ∨ ¬ t.IsLink (t.goalOf p))
    (hnames : ∀ front, front <+: names → front ≠ [] →
      t'.get? (layout.base t ++ front) = t.get? (layout.base t ++ front)) :
    t'.locate follow p = t.locate follow p ∧ t'.stat follow p = t.stat follow p :=
  hs.toPlain.stat_congr hs.toRooted hp hne hto hend h.origin
    (fun _ _ hx => h.directory_of_way hs' hx) hnames

theorem stat_tableFile (hd : table.database ≠ []) (follow : Bool) :
    t'.locate follow (layout.tableFile table) = t.locate follow (layout.tableFile table) ∧
      t'.stat follow (layout.tableFile table) = t.stat follow (layout.tableFile table) := by
  have hlast := (hs.toPlain.straight_tableFile hd).last (layout.tableFile_endsIn hd)
  exact h.stat_eq hs hs' (layout.names_tableFile hd) (by simp [fileNames]) hlast.1 (.inr hlast.2)
    fun front hfront hne => h.places _ (.file hfront hne)

/-- The same can be made beside the catalog file in both trees. -/
theorem sameBeside (hd : table.database ≠ []) : t'.SameBeside t (layout.tableFile table) := by
  refine hs.toPlain.sameBeside hs.toRooted hd h.origin h.spare (fun _ _ hx => h.directory_of_way hs' hx)
    fun front hfront hne => ?_
  match front, hne with
  | [_], _ =>
    obtain ⟨rfl, -⟩ := List.cons_prefix_cons.1 hfront
    exact h.places _ (.file ⟨_, rfl⟩ (by simp))
  | [_, _], _ =>
    obtain ⟨rfl, hrest⟩ := List.cons_prefix_cons.1 hfront
    obtain ⟨rfl, -⟩ := List.cons_prefix_cons.1 hrest
    exact h.places _ (.file ⟨_, rfl⟩ (by simp))
  | _ :: _ :: _ :: _, _ =>
    rw [hfront.eq_of_length_le (by simp [spareNames])]
    exact h.places _ (.beside t.spareName_ne_catalogName)

theorem points_iff (hd : table.database ≠ []) (ht : table.table ≠ []) {source : Path} :
    t'.Points (layout.dataLink table) source ↔ t.Points (layout.dataLink table) source := by
  have hsame := (h.stat_eq hs hs' (layout.names_dataLink hd ht) (by simp [linkNames])
    (hs.toPlain.straightTo hd ht) (.inl (rfl : false = false))
    fun front hfront hne => h.places _ (.link hfront hne)).2
  rw [Points, Points, readLink, readLink, hsame]

/-- A store is present in both trees or in none. -/
theorem isPresent (hu : u = old ∨ u = new) :
    t'.isPresent (layout.storeDirectory u) = t.isPresent (layout.storeDirectory u) := by
  have hbase := h.base_eq
  have hstores := h.places _ .stores
  have hstore : t'.get? (layout.base t ++ storeNames u) = t.get? (layout.base t ++ storeNames u) := by
    have hplace := h.places _ (.store [] hu)
    rwa [List.append_nil] at hplace
  rcases h.rooms u hu with hroom | ⟨hnone, hmade⟩
  · have hlast := (hs.toPlain.straight_storeDirectory u).last (layout.storeDirectory_endsIn u)
    refine isPresent_of_stat (h.stat_eq hs hs' (layout.names_storeDirectory u) (by simp [storeNames])
      hlast.1 (.inr hlast.2) fun front hfront hne => ?_).2
    rcases front_storeNames hfront hne with rfl | rfl | rfl
    · exact hstores
    · exact hroom
    · exact hstore
  · by_cases hw : Walkable (layout.storeDirectory u)
    · -- the store is missing, with its directory or without
      have hdir : t'.get? (layout.base t ++ [storeName]) = some .directory :=
        hs'.standing.grounded hmade _ ⟨[u.text.take 3], by simp⟩
      have hgone : t.get? (layout.base t ++ storeNames u) = none :=
        hs.standing.get?_below hnone ⟨[u.text], by simp [storeNames]⟩
      rw [Plain.isPresent_of_no_room hs.toRooted hw (hstores ▸ hdir) hnone,
        hs'.toPlain.isPresent_of_room hs'.toRooted hw (by rw [hbase]; exact hmade), hbase, hstore, hgone]
      rfl
    · have hlocate := locate_of_not_walkable t t' true hw
      unfold FileTree.isPresent FileTree.stat
      cases hl : t.locate true (layout.storeDirectory u) with
      | ok l => exact absurd (leads_of_locate hl).1 hw
      | error e => rw [hlocate, hl]; rfl

end Looks

/-- The trees agree again when their catalog files changed in the same way. -/
theorem put_file (h : Agrees layout table old new t t') (f' : File) :
    Agrees layout table old new (t.put (layout.base t ++ fileNames table) (.file f'))
      (t'.put (layout.base t ++ fileNames table) (.file f')) where
  origin := h.origin
  spare := h.spare
  places x hx := by
    have hne : layout.base t ++ fileNames table ≠ [] := by simp [fileNames]
    rw [get?_put _ _ _ _ hne, get?_put _ _ _ _ hne, h.places x hx]
  rooms u hu := by
    have hne : layout.base t ++ fileNames table ≠ [] := by simp [fileNames]
    have hroom : layout.base t ++ [storeName, u.text.take 3] ≠ layout.base t ++ fileNames table := by
      simp [fileNames]
    have hbase : layout.base (t.put (layout.base t ++ fileNames table) (.file f')) = layout.base t := rfl
    rw [hbase, get?_put _ _ _ _ hne, get?_put _ _ _ _ hne, if_neg hroom, if_neg hroom]
    exact h.rooms u hu

/-- A catalog file takes its new UUID in both trees or in none, and is the same then. -/
theorem setUuid (h : Agrees layout table old new t t') (hs : Sound t layout) (hs' : Sound t' layout)
    (hd : table.database ≠ []) :
    (∃ e, Catalog.setUuid (layout.tableFile table) new t = .error e t ∧
      Catalog.setUuid (layout.tableFile table) new t' = .error e t') ∨
    ∃ previous f f', t.get? (layout.base t ++ fileNames table) = some (.file f) ∧
      Catalog.setUuid (layout.tableFile table) new t =
        .ok previous (t.put (layout.base t ++ fileNames table) (.file f')) ∧
      Catalog.setUuid (layout.tableFile table) new t' =
        .ok previous (t'.put (layout.base t ++ fileNames table) (.file f')) := by
  have hstraight := hs.toPlain.straight_tableFile hd
  have hgoal := (layout.names_tableFile hd).goalOf t
  rcases Catalog.setUuid_congr new (h.stat_tableFile hs hs' hd true).2
    (h.stat_tableFile hs hs' hd false).1 (h.sameBeside hs hs' hd) with hfails | ⟨previous, f, f', place, hstat, hplace, hset, hset'⟩
  · exact .inl hfails
  · obtain rfl := hstraight.locate hplace
    have hg := (hstraight.of_stat hstat).2
    rw [hgoal] at hg hset hset'
    exact .inr ⟨previous, f, f', hg, hset, hset'⟩

/-- The trees agree again when a store was moved in both. -/
theorem relocated (h : Agrees layout table old new t t') (hd : table.database ≠ [])
    (ht : table.table ≠ []) (hm : StoreRelocated t t₁ layout table old new updated)
    (hm' : StoreRelocated t' t₁' layout table old new updated) :
    Agrees layout table old new t₁ t₁' := by
  have hbase := hm.base
  have hbase' := h.base_eq
  have hgoal := goalOf_storeDirectory_of_origin h.origin
  have hgoalLink := goalOf_dataLink_of_origin h.origin hd ht
  have hstore := hm.moved.store rfl
  have hstore' := hm'.moved.store rfl
  refine ⟨hm'.origin.trans (h.origin.trans hm.origin.symm), hm'.spare.trans (h.spare.trans hm.spare.symm),
    fun x hx => ?_, fun u hu => ?_⟩
  · rw [hbase] at hx
    by_cases hold : t.goalOf (layout.storeDirectory old) <+: x
    · obtain ⟨rel, rfl⟩ := hold
      rw [hstore.left, ← hgoal, hstore'.left]
    by_cases hnew : t.goalOf (layout.storeDirectory new) <+: x
    · obtain ⟨rel, rfl⟩ := hnew
      rw [hstore.moved, ← hgoal, hstore'.moved, hgoal, goalOf_storeDirectory]
      exact h.places _ (.store rel (.inl rfl))
    by_cases hlink : updated = true ∧ x = t.goalOf (layout.dataLink table)
    · obtain ⟨hu, rfl⟩ := hlink
      have hthere := hm'.moved.link hu
      rw [hgoalLink] at hthere
      rw [hm.moved.link hu, hthere]
    · have hother := fun hu hl => hlink ⟨hu, hl⟩
      rw [hm.get?_kept hold hnew hother hx.ne_room,
        hm'.get?_kept (by rwa [hgoal]) (by rwa [hgoal]) (by rwa [hgoalLink])
          (by rw [hbase']; exact hx.ne_room)]
      exact h.places x hx
  · rw [hbase]
    by_cases hsame : layout.base t ++ [storeName, u.text.take 3] =
        layout.base t ++ [storeName, new.text.take 3]
    · have hroom' := hm'.room
      rw [hbase'] at hroom'
      exact .inl (by rw [hsame, hm.room, hroom'])
    · have hapart : ∀ v, ¬ t.goalOf (layout.storeDirectory v) <+:
          layout.base t ++ [storeName, u.text.take 3] := fun v => by
        rw [goalOf_storeDirectory]
        exact not_prefix_room
      have hother : layout.base t ++ [storeName, u.text.take 3] ≠ t.goalOf (layout.dataLink table) := by
        rw [goalOf_dataLink t layout hd ht]
        simp [linkNames]
      rw [hm.get?_kept (hapart old) (hapart new) (fun _ => hother) hsame,
        hm'.get?_kept (by rw [hgoal]; exact hapart old) (by rw [hgoal]; exact hapart new)
          (by rw [hgoalLink]; exact fun _ => hother) (by rw [hbase']; exact hsame)]
      exact h.rooms u hu

/-- Moving a store ends the same way in both trees, and where it is moved in one, it is in the other. -/
theorem relocateStore (h : Agrees layout table old new t t') (hs : Sound t layout) (hs' : Sound t' layout)
    (hd : table.database ≠ []) (ht : table.table ≠ []) (hapart : RootApart t layout old) :
    let move := FileTree.relocateStore (layout.dataLink table) (layout.storeDirectory old)
      (layout.storeDirectory new)
    (∃ e, move t = .error e t ∧ move t' = .error e t') ∨
    (move t = .ok (false, false) t ∧ move t' = .ok (false, false) t') ∨
    ∃ updated t₁ t₁', move t = .ok (true, updated) t₁ ∧ move t' = .ok (true, updated) t₁' ∧
      StoreRelocated t t₁ layout table old new updated ∧
      StoreRelocated t' t₁' layout table old new updated := by
  intro move
  have hsource := h.isPresent hs hs' (.inl rfl)
  have htarget := h.isPresent hs hs' (.inr rfl)
  cases hpresent : t.isPresent (layout.storeDirectory old) with
  | error e =>
    exact .inl ⟨e, relocateStore_of_unclear _ _ hpresent,
      relocateStore_of_unclear _ _ (hsource.trans hpresent)⟩
  | ok present =>
  cases present with
  | false =>
    exact .inr (.inl ⟨relocateStore_of_missing _ _ hpresent,
      relocateStore_of_missing _ _ (hsource.trans hpresent)⟩)
  | true =>
  cases habsent : t.isPresent (layout.storeDirectory new) with
  | error e =>
    exact .inl ⟨e, relocateStore_of_unclear_target _ hpresent habsent,
      relocateStore_of_unclear_target _ (hsource.trans hpresent) (htarget.trans habsent)⟩
  | ok occupied =>
  cases occupied with
  | true =>
    exact .inl ⟨_, relocateStore_of_occupied _ hpresent habsent,
      relocateStore_of_occupied _ (hsource.trans hpresent) (htarget.trans habsent)⟩
  | false =>
    have hapart' := hapart.congr h.origin
    obtain ⟨updated, t₁, hrun, hm⟩ := relocateStore_of_absent hs.start hs.standing
      (hs.toPlain.straight_storeDirectory old) (hs.toPlain.straight_storeDirectory new) hapart.start hd ht
      (hs.toPlain.straightTo hd ht) hpresent habsent
    obtain ⟨updated', t₁', hrun', hm'⟩ := relocateStore_of_absent hs'.start hs'.standing
      (hs'.toPlain.straight_storeDirectory old) (hs'.toPlain.straight_storeDirectory new) hapart'.start hd ht
      (hs'.toPlain.straightTo hd ht) (hsource.trans hpresent) (htarget.trans habsent)
    -- the link is made anew in both trees or in none
    have hupdated : updated' = updated := by
      rw [Bool.eq_iff_iff, hm.updated_iff hd ht (hs.toPlain.straightTo hd ht) hapart,
        hm'.updated_iff hd ht (hs'.toPlain.straightTo hd ht) hapart', h.points_iff hs hs' hd ht]
    subst hupdated
    exact .inr (.inr ⟨updated', t₁, t₁', hrun, hrun', hm, hm'⟩)

end Agrees

/-! ## Changes that keep to the places of a table -/

/-- `t'` is `t` but at the places of a table, and perhaps for the directory of its new store, which is there
now. -/
structure Confined (layout : Layout) (table : TableName) (old new : Uuid) (made : Bool)
    (t t' : FileTree) : Prop where
  sound : Sound t' layout
  here : t'.here = if made then afterMove (layout.base t ++ storeNames old) (layout.base t ++ storeNames new)
    t.here else t.here
  origin : t'.origin layout.root = t.origin layout.root
  spare : t'.spare = t.spare
  kept : ∀ x, ¬ Touches (layout.base t) table old new x →
    t'.get? x = if made = true ∧ x = layout.base t ++ [storeName, new.text.take 3] then some .directory
      else t.get? x
  room : made = true → t.get? (layout.base t ++ [storeName, new.text.take 3]) = none ∨
    t.get? (layout.base t ++ [storeName, new.text.take 3]) = some .directory

namespace Confined

theorem refl (hs : Sound t layout) : Confined layout table old new false t t :=
  ⟨hs, rfl, rfl, rfl, fun x _ => by simp, fun h => absurd h Bool.false_ne_true⟩

theorem put_file (hs : Sound t layout) {f : File}
    (hg : t.get? (layout.base t ++ fileNames table) = some (.file f)) (f' : File) :
    Confined layout table old new false t (t.put (layout.base t ++ fileNames table) (.file f')) where
  sound := hs.put_file hg f'
  here := rfl
  origin := rfl
  spare := rfl
  kept x hx := by
    have hne : x ≠ layout.base t ++ fileNames table := by
      rintro rfl
      exact hx .file
    rw [get?_put _ _ _ _ (by simp [fileNames]), if_neg hne]
    simp
  room h := absurd h Bool.false_ne_true

/-- A move of the store comes on top of what changed before. -/
theorem relocated (h : Confined layout table old new false t t') (hd : table.database ≠ [])
    (ht : table.table ≠ []) (hm : StoreRelocated t' t₁ layout table old new updated)
    (hapart : RootApart t layout old) : Confined layout table old new true t t₁ := by
  have hbase := base_of_origin layout h.origin
  have hbefore : ∀ x, ¬ Touches (layout.base t) table old new x → t'.get? x = t.get? x := fun x hx => by
    simpa using h.kept x hx
  have hstore : ∀ u, t'.goalOf (layout.storeDirectory u) = layout.base t ++ storeNames u := fun u => by
    rw [goalOf_storeDirectory, hbase]
  have hroom := hm.room
  rw [hbase] at hroom
  have hsound := h.sound.relocated hd ht hm (hapart.congr h.origin)
  have hhere := hm.moved.here
  rw [hstore, hstore, h.here] at hhere
  refine ⟨hsound, hhere, hm.origin.trans h.origin, hm.spare.trans h.spare, fun x hx => ?_, fun _ => ?_⟩
  · split
    · next hx' => rw [hx'.2, hroom]
    · next hx' =>
      have hold : ¬ t'.goalOf (layout.storeDirectory old) <+: x := by
        rw [hstore]
        rintro ⟨rel, rfl⟩
        exact hx (.store rel (.inl rfl))
      have hnew : ¬ t'.goalOf (layout.storeDirectory new) <+: x := by
        rw [hstore]
        rintro ⟨rel, rfl⟩
        exact hx (.store rel (.inr rfl))
      have hlink : x ≠ t'.goalOf (layout.dataLink table) := by
        rw [goalOf_dataLink _ _ hd ht, hbase]
        rintro rfl
        exact hx .link
      rw [hm.get?_kept hold hnew (fun _ => hlink) (fun heq => hx' ⟨rfl, hbase ▸ heq⟩), hbefore x hx]
  · -- the directory was made for the store, or was there
    have hkept := hm.moved.kept (layout.base t ++ [storeName, new.text.take 3]) List.not_mem_nil
      (fun _ => by rw [hstore, hstore]; exact ⟨not_prefix_room, not_prefix_room⟩) (fun _ => by
        rw [goalOf_dataLink _ _ hd ht, hbase]
        simp [linkNames])
    rw [← hbefore _ not_touches_room]
    rcases hkept with hsame | ⟨-, -, hnone, -⟩
    · exact .inr (hsame ▸ hroom)
    · exact .inl hnone

end Confined

/-- A change for one table leaves the places of the other as they are, but for the directory of a store. -/
theorem Agrees.of_confined (hab : Apart a b a₁ a₂ b₁ b₂) (h : Confined layout b b₁ b₂ made t t') :
    Agrees layout a a₁ a₂ t t' where
  origin := h.origin
  spare := h.spare
  places x hx := by
    rw [h.kept x (hx.not_touches hab), if_neg fun hmade => hx.ne_room hmade.2]
  rooms u _ := by
    rw [h.kept _ not_touches_room]
    split
    · next hmade =>
      rw [hmade.2]
      exact (h.room hmade.1).elim (fun hnone => .inr ⟨hnone, rfl⟩) fun hdir => .inl hdir.symm
    · exact .inl rfl

/-- Moves of two stores take a start directory to the same place in either order. -/
theorem afterMove_comm {l : Location} (hab : Apart a b a₁ a₂ b₁ b₂) :
    afterMove (base ++ storeNames b₁) (base ++ storeNames b₂)
        (afterMove (base ++ storeNames a₁) (base ++ storeNames a₂) l) =
      afterMove (base ++ storeNames a₁) (base ++ storeNames a₂)
        (afterMove (base ++ storeNames b₁) (base ++ storeNames b₂) l) := by
  by_cases ha : base ++ storeNames a₁ <+: l
  · obtain ⟨rel, rfl⟩ := ha
    rw [afterMove_append, afterMove_of_outside
        (not_prefix_store (hab.uuids a₂ b₁ (.inr rfl) (.inl rfl)).symm),
      afterMove_of_outside (not_prefix_store (hab.uuids a₁ b₁ (.inl rfl) (.inl rfl)).symm),
      afterMove_append]
  rw [afterMove_of_outside ha]
  by_cases hb : base ++ storeNames b₁ <+: l
  · obtain ⟨rel, rfl⟩ := hb
    rw [afterMove_append,
      afterMove_of_outside (not_prefix_store (hab.uuids a₁ b₂ (.inl rfl) (.inr rfl)))]
  · rw [afterMove_of_outside hb, afterMove_of_outside ha]

/-- Changes for two tables lead to the same in either order, if both do the same at the places of their
tables in either order. -/
theorem sameView_of_confined {made made' : Bool} {tA tB tAB tBA : FileTree} (hab : Apart a b a₁ a₂ b₁ b₂)
    (hA : Confined layout a a₁ a₂ made t tA) (hAB : Confined layout b b₁ b₂ made' tA tAB)
    (hB : Confined layout b b₁ b₂ made' t tB) (hBA : Confined layout a a₁ a₂ made tB tBA)
    (hfirst : Agrees layout a a₁ a₂ tA tBA) (hsecond : Agrees layout b b₁ b₂ tB tAB) :
    SameView tAB tBA := by
  have hbaseA := base_of_origin layout hA.origin
  have hbaseB := base_of_origin layout hB.origin
  have hplacesA := hfirst.places
  have hplacesB := hsecond.places
  have hkeptAB := hAB.kept
  have hkeptBA := hBA.kept
  rw [hbaseA] at hplacesA hkeptAB
  rw [hbaseB] at hplacesB hkeptBA
  refine ⟨?_, fun x => ?_⟩
  · rw [hBA.here, hB.here, hAB.here, hA.here, hbaseA, hbaseB]
    cases made <;> cases made' <;> simp [afterMove_comm hab]
  by_cases hxA : Touches (layout.base t) a a₁ a₂ x
  · rw [hplacesA x hxA.looksAt, hkeptAB x (hxA.looksAt.not_touches hab),
      if_neg fun hmade => hxA.looksAt.ne_room hmade.2]
  by_cases hxB : Touches (layout.base t) b b₁ b₂ x
  · rw [hplacesB x hxB.looksAt, hkeptBA x hxA, if_neg fun hmade => hxB.looksAt.ne_room hmade.2]
  -- elsewhere only the directories of the new stores are made
  rw [hkeptAB x hxB, hA.kept x hxA, hkeptBA x hxA, hB.kept x hxB]
  split <;> split <;> rfl

end CatalogAdmin
