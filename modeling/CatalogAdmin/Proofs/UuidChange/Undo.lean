import CatalogAdmin.Proofs.UuidChange.Detached
import CatalogAdmin.Proofs.UuidChange.Plain

/-!
# Undoing a change of UUID

A change of UUID is undone by a change back (`changeUuid_undone`): the catalog file gets its old text, the
store goes back to its old place, and the link points there again. All that may be left is an empty directory,
made for the store at its other place (`Restored`).

Each step has its inverse: the text of the catalog file (`Catalog.setUuid_back`), and the move of the store
with its link (`StoreMoved.back`). The way back goes through a tree in which the store is at its other place,
so the root's path must neither start in the store nor lead through it. It must not fail where the way there
did nothing either: a file in place of the directory of the new store stops a look at it, and that is asked
for only on the way back.
-/

namespace CatalogAdmin

open Session FileTree

variable {t t₁ t₂ t₃ t₄ t' t'' : FileTree} {layout : Layout} {table : TableName} {old new : Uuid}
  {c x : Location} {p : Path}

/-- `t'` is `t`, perhaps with one empty directory more, and with a file that is the same (`SameButLent`).
Relative paths start from the same directory, if it is there. -/
structure Restored (t t' : FileTree) (c room : Location) : Prop where
  here : t.Grounded t.here → t'.here = t.here
  file : ∃ f f', t.get? c = some (.file f) ∧ t'.get? c = some (.file f') ∧ SameButLent f f'
  kept : ∀ x, x ≠ c → x ≠ room → t'.get? x = t.get? x
  room : t'.get? room = t.get? room ∨ t.get? room = none ∧ t'.get? room = some .directory ∧
    ∀ rel, rel ≠ [] → t'.get? (room ++ rel) = none

/-- A file that gives way to another, and that to one which is the same as the first. -/
theorem Restored.of_put_put {f f'' : File} {room : Location} (hg : t.get? c = some (.file f)) (f' : File)
    (hsame : SameButLent f f'') (hroom : room ≠ c) :
    Restored t ((t.put c (.file f')).put c (.file f'')) c room := by
  have hne : c ≠ [] := by
    rintro rfl
    rw [get?_nil] at hg
    cases hg
  have hget : ∀ x, x ≠ c → ((t.put c (.file f')).put c (.file f'')).get? x = t.get? x := by
    intro x hx
    rw [get?_put _ _ _ _ hne, if_neg hx, get?_put _ _ _ _ hne, if_neg hx]
  exact ⟨fun _ => rfl, ⟨f, f'', hg, by rw [get?_put _ _ _ _ hne, if_pos rfl], hsame⟩, fun x hx _ => hget x hx,
    .inl (hget room hroom)⟩

/-! ## There and back -/

namespace Catalog

variable {f : File} {text changed : Text} {previous : Uuid} {record : Record}

/-- A catalog file that took a new UUID takes its own again. -/
theorem setUuid_back (hparse : Record.parse text = .ok record)
    (hspells : Spells text.lines record.uuid)
    (hreplace : replaceUuid text new = .ok (previous, changed)) (hplace : t.locate false p = .ok c)
    (hg : t.get? c = some (.file (rewritten f changed))) (hroom : t.RoomBeside p) :
    readRecord t p = .ok { record with uuid := new } ∧
      setUuid p record.uuid t = .ok new (t.put c (.file (rewritten (rewritten f changed) text))) := by
  have hstat := stat_of_place hplace hg fun _ => by simp
  have htext : t.readText p = .ok changed := readText_of_stat hstat rfl
  refine ⟨readRecord_eq_ok_iff.2 ⟨changed, htext, parse_replaceUuid hparse hreplace⟩, ?_⟩
  exact setUuid_of_text htext (replaceUuid_back hparse hspells hreplace) hstat hplace hroom

end Catalog

/-- A move of a store leaves the catalog file of the table alone. -/
theorem StoreMoved.get?_fileNames {relocated updated : Bool}
    (h : StoreMoved t t' [] layout table old new relocated updated) (hd : table.database ≠ [])
    (ht : table.table ≠ []) :
    t'.get? (layout.base t ++ fileNames table) = t.get? (layout.base t ++ fileNames table) := by
  have htop : layout.base t ++ [metadataName] <+: layout.base t ++ fileNames table := prefix_tops _ _ _
  refine h.get?_elsewhere (fun hstore => ?_) fun _ hlink => ?_
  · exact absurd (eq_of_prefix_tops htop hstore) (by decide)
  · exact absurd (eq_of_prefix_tops (hlink ▸ htop) (prefix_goalOf_dataLink t layout hd ht)) (by decide)

/-- A place that is neither the catalog file nor in a store, nor is it a link that is made anew. -/
structure Aside (t : FileTree) (layout : Layout) (table : TableName) (old new : Uuid) (updated : Bool)
    (x : Location) : Prop where
  file : x ≠ layout.base t ++ fileNames table
  source : ¬ t.goalOf (layout.storeDirectory old) <+: x
  target : ¬ t.goalOf (layout.storeDirectory new) <+: x
  link : updated = true → x ≠ t.goalOf (layout.dataLink table)

theorem Aside.turned {updated : Bool} (h : Aside t layout table old new updated x)
    (horigin : t'.origin layout.root = t.origin layout.root) (hd : table.database ≠ [])
    (ht : table.table ≠ []) : Aside t' layout table new old updated x where
  file := by rw [base_of_origin layout horigin]; exact h.file
  source := by rw [goalOf_storeDirectory_of_origin horigin]; exact h.target
  target := by rw [goalOf_storeDirectory_of_origin horigin]; exact h.source
  link hu := by rw [goalOf_dataLink_of_origin horigin hd ht]; exact h.link hu

theorem aside_room {updated : Bool} {u : Uuid} (hd : table.database ≠ []) (ht : table.table ≠ []) :
    Aside t layout table old new updated (layout.base t ++ [storeName, u.text.take 3]) where
  file hx := by simpa [fileNames] using congrArg List.length hx
  source := by rw [goalOf_storeDirectory]; exact not_prefix_room
  target := by rw [goalOf_storeDirectory]; exact not_prefix_room
  link _ hx := by simpa [goalOf_dataLink t layout hd ht, linkNames] using congrArg List.length hx

/-- Aside, only the directory of the new store may be made. -/
theorem StoreMoved.get?_aside {relocated updated : Bool}
    (h : StoreMoved t t' [layout.base t ++ fileNames table] layout table old new relocated updated)
    (hx : Aside t layout table old new updated x) :
    t'.get? x = t.get? x ∨ x = layout.base t ++ [storeName, new.text.take 3] ∧ t.get? x = none ∧
      t'.get? x = some .directory := by
  refine (h.kept x (by simpa using hx.file) (fun _ => ⟨hx.source, hx.target⟩) hx.link).imp_right ?_
  rintro ⟨-, rfl, hnone, hdir⟩
  exact ⟨by rw [goalOf_storeDirectory, dropLast_storeNames], hnone, hdir⟩

section Back

variable {updated : Bool}
  (h : StoreMoved t t' [layout.base t ++ fileNames table] layout table old new true updated)
  (h' : StoreMoved t' t'' [layout.base t ++ fileNames table] layout table new old true updated)
  (horigin : t'.origin layout.root = t.origin layout.root) (hd : table.database ≠ [])
  (ht : table.table ≠ [])
include h h' horigin

/-- A start directory that moved with the store moves back with it. -/
theorem StoreMoved.here_back (hhere : t.Grounded t.here) : t''.here = t.here := by
  have hgoal := goalOf_storeDirectory_of_origin horigin
  have hthere := h.here
  have hback := h'.here
  rw [hgoal, hgoal, if_pos rfl] at hback
  rw [if_pos rfl] at hthere
  rw [hback, hthere]
  by_cases hin : t.goalOf (layout.storeDirectory old) <+: t.here
  · obtain ⟨rel, hrel⟩ := hin
    rw [← hrel, afterMove_append, afterMove_append]
  · rw [afterMove_of_outside hin, afterMove_of_outside]
    rintro ⟨rel, hrel⟩
    -- nothing was at the new place, so no directory was below it
    cases hhere.self.symm.trans (hrel ▸ (h.store rfl).free rel)

variable (hroom' : t'.get? (layout.base t ++ [storeName, old.text.take 3]) = some .directory)
include hroom' hd ht

omit h in
/-- The way back makes no directory, as the one that the store goes back to is there. -/
theorem StoreMoved.get?_back_aside (hx : Aside t layout table old new updated x) :
    t''.get? x = t'.get? x := by
  rw [← base_of_origin layout horigin] at h' hroom'
  refine (h'.get?_aside (hx.turned horigin hd ht)).resolve_right ?_
  rintro ⟨rfl, hnone, -⟩
  cases hroom'.symm.trans hnone

variable
  (hlink : updated = true →
    t.get? (t.goalOf (layout.dataLink table)) = some (.link (layout.storeDirectory old)))
include hlink

theorem StoreMoved.get?_back (hc : x ≠ layout.base t ++ fileNames table)
    (hx : x ≠ layout.base t ++ [storeName, new.text.take 3]) : t''.get? x = t.get? x := by
  have hgoal := goalOf_storeDirectory_of_origin horigin
  have hthere := h.store rfl
  have hback := h'.store rfl
  rw [hgoal, hgoal] at hback
  by_cases hold : t.goalOf (layout.storeDirectory old) <+: x
  · obtain ⟨rel, rfl⟩ := hold
    rw [hback.moved, hthere.moved]
  by_cases hnew : t.goalOf (layout.storeDirectory new) <+: x
  · obtain ⟨rel, rfl⟩ := hnew
    rw [hback.left, hthere.free]
  by_cases hxl : updated = true ∧ x = t.goalOf (layout.dataLink table)
  · obtain ⟨hu, rfl⟩ := hxl
    have hlast := h'.link hu
    rw [goalOf_dataLink_of_origin horigin hd ht] at hlast
    rw [hlast, hlink hu]
  have haside : Aside t layout table old new updated x := ⟨hc, hold, hnew, fun hu hl => hxl ⟨hu, hl⟩⟩
  rw [StoreMoved.get?_back_aside h' horigin hd ht hroom' haside]
  exact (h.get?_aside haside).resolve_right fun hmade => hx hmade.1

/-- A store is moved there and back, with a link that is made anew both times or not at all. -/
theorem StoreMoved.back (hstanding : t.Standing)
    (hroom : t'.get? (layout.base t ++ [storeName, new.text.take 3]) = some .directory)
    (hfile : ∃ f f', t.get? (layout.base t ++ fileNames table) = some (.file f) ∧
      t''.get? (layout.base t ++ fileNames table) = some (.file f') ∧ SameButLent f f') :
    Restored t t'' (layout.base t ++ fileNames table) (layout.base t ++ [storeName, new.text.take 3]) := by
  have hsame : ∀ x, x ≠ layout.base t ++ fileNames table →
      x ≠ layout.base t ++ [storeName, new.text.take 3] → t''.get? x = t.get? x :=
    fun x hc hx => h.get?_back h' horigin hd ht hroom' hlink hc hx
  have haside : Aside t layout table old new updated (layout.base t ++ [storeName, new.text.take 3]) :=
    aside_room hd ht
  have hleft := (StoreMoved.get?_back_aside h' horigin hd ht hroom' haside).trans hroom
  refine ⟨h.here_back h' horigin, hfile, hsame, ?_⟩
  rcases h.get?_aside haside with hbefore | ⟨-, hnone, -⟩
  · exact .inl (by rw [hleft, ← hbefore, hroom])
  · refine .inr ⟨hnone, hleft, fun rel hrel => ?_⟩
    have hoff : layout.base t ++ [storeName, new.text.take 3] ++ rel ≠ layout.base t ++ fileNames table := by
      intro hsame
      rw [List.append_assoc, List.append_cancel_left_eq] at hsame
      exact absurd (List.cons.inj hsame).1 (by decide)
    rw [hsame _ hoff (by simpa using hrel), hstanding.get?_below hnone (List.prefix_append _ _)]

end Back

/-! ## A store in between -/

section Between

variable {updated : Bool} (hplain : Plain t layout) (hr : Rooted t layout) (hd : table.database ≠ [])
  (ht : table.table ≠ []) (hm : StoreRelocated t t' layout table old new updated)
  (hapart : RootApart t layout old)
include hplain hr hd ht hm hapart

/-- The way to the root is as it was before the store was moved. -/
theorem StoreRelocated.get?_way (hx : x ∈ way (t.origin layout.root) layout.root.parts) :
    t'.get? x = some .directory :=
  hm.moved.get?_of_some (hplain.directory_of_way hr hx) (by simp) hd ht (hplain.straightTo hd ht)
    List.not_mem_nil (avoids_iff_parts.1 hapart.way x hx)

/-- What does not lead to a store, nor to the link where that is made anew, names what it named before. -/
theorem StoreRelocated.stat_eq {follow : Bool} {names : List Text} (hp : layout.Names p names)
    (hne : names ≠ []) (hto : t.StraightTo p) (hend : follow = false ∨ ¬ t.IsLink (t.goalOf p))
    (hhead : names.head? ≠ some storeName) (hdata : updated = true → names.head? ≠ some dataName) :
    t'.locate follow p = t.locate follow p ∧ t'.stat follow p = t.stat follow p := by
  refine hplain.stat_congr hr hp hne hto hend hm.origin
    (fun x _ hx => hm.get?_way hplain hr hd ht hapart hx) fun front hfront hnil => ?_
  refine hm.moved.get?_elsewhere (fun hstore => hhead (head?_of_prefix_top hfront hnil hstore))
    fun hu hl => ?_
  have hlink := prefix_goalOf_dataLink t layout hd ht
  rw [← hl] at hlink
  exact hdata hu (head?_of_prefix_top hfront hnil hlink)

omit hd ht hapart in
/-- The root's path neither starts in a store that was moved to where nothing was, nor leads through it. -/
theorem StoreRelocated.apart_new : RootApart t' layout new := by
  refine RootApart.congr ⟨?_, avoids_iff_parts.2 fun x hx => ?_⟩ hm.origin
  · rintro ⟨rel, hrel⟩
    cases hr.start.self.symm.trans (hrel ▸ (hm.moved.store rfl).free rel)
  · rintro ⟨rel, rfl⟩
    cases (hplain.directory_of_way hr hx).symm.trans ((hm.moved.store rfl).free rel)

/-- What can be made beside the catalog file is the same when the store has moved. -/
theorem StoreRelocated.sameBeside : t'.SameBeside t (layout.tableFile table) := by
  refine hplain.sameBeside hr hd hm.origin hm.spare (fun x _ hx => hm.get?_way hplain hr hd ht hapart hx)
    fun front hfront hne => ?_
  have htop : layout.base t ++ [metadataName] <+: layout.base t ++ front := by
    match front, hne with
    | first :: rest, _ =>
      obtain ⟨rfl, -⟩ := List.cons_prefix_cons.1 hfront
      exact prefix_tops _ _ _
  refine hm.moved.get?_elsewhere (fun hstore => ?_) fun _ hlink => ?_
  · exact absurd (eq_of_prefix_tops htop hstore) (by decide)
  · exact absurd (eq_of_prefix_tops (hlink ▸ htop) (prefix_goalOf_dataLink t layout hd ht)) (by decide)

/-- After the move the link points to the new place if it was made anew, or if it did before. -/
theorem StoreRelocated.points_iff :
    t'.Points (layout.dataLink table) (layout.storeDirectory new) ↔
      updated = true ∨ t.Points (layout.dataLink table) (layout.storeDirectory new) := by
  have hto := hplain.straightTo hd ht
  cases updated with
  | false =>
    have hsame := (hm.stat_eq hplain hr hd ht hapart (layout.names_dataLink hd ht) (by simp [linkNames]) hto
      (.inl rfl) (by simp [linkNames]; decide) (by simp)).2
    simp only [Points, readLink, hsame, Bool.false_eq_true, false_or]
  | true =>
    refine iff_of_true ?_ (.inl rfl)
    exact ⟨_, readLink_of_get? (hm.moved.pointed.1 rfl).2.2 (hm.moved.link rfl), rfl⟩

/-- The link is made anew on the way back if it was on the way there. -/
theorem StoreRelocated.updated_back {updated' : Bool} (hfile : Rewritten t' t'' c)
    (hm' : StoreRelocated t'' t₁ layout table new old updated')
    (hother : t.Points (layout.dataLink table) (layout.storeDirectory new) →
      t.Points (layout.dataLink table) (layout.storeDirectory old)) : updated' = updated := by
  have hto := (hplain.relocated hd ht hm).straightTo hd ht
  have hapart'' := (hm.apart_new hplain hr).congr (origin_of_here hfile.here layout.root)
  rw [Bool.eq_iff_iff, hm'.updated_iff hd ht (hfile.straightTo hto) hapart'', hfile.points_iff hd ht hto,
    hm.points_iff hplain hr hd ht hapart, or_iff_left_iff_imp,
    hm.updated_iff hd ht (hplain.straightTo hd ht) hapart]
  exact hother

omit hr hapart in
/-- The directory that the store was in is still there. -/
theorem StoreRelocated.room_left {node : Node}
    (hnode : t.get? (layout.base t ++ storeNames old) = some node) :
    t'.get? (layout.base t ++ [storeName, old.text.take 3]) = some .directory := by
  have hroom : t.get? (layout.base t ++ [storeName, old.text.take 3]) = some .directory := by
    refine hplain.standing.directory_of_below ⟨[old.text], by simp [storeNames]⟩ ?_ hnode
    simp [storeNames]
  exact hm.moved.get?_of_some hroom (by simp) hd ht (hplain.straightTo hd ht)
    List.not_mem_nil (by rw [goalOf_storeDirectory]; exact not_prefix_room)

/-- The store is found at its new place, and is gone from its old one. -/
theorem StoreRelocated.isPresent_eq (hpresent : t.isPresent (layout.storeDirectory old) = .ok true)
    (habsent : t.isPresent (layout.storeDirectory new) = .ok false) :
    t'.isPresent (layout.storeDirectory new) = .ok true ∧
      t'.isPresent (layout.storeDirectory old) = .ok false := by
  have hplain' := hplain.relocated hd ht hm
  have hr' := hr.relocated hplain hd ht hm hapart
  have hbase := hm.base
  have hstore := hm.moved.store rfl
  obtain ⟨node, hstat⟩ := stat_of_isPresent hpresent
  obtain ⟨hl, hnode⟩ := (hplain.straight_storeDirectory old).of_stat hstat
  have hmoved := hstore.moved []
  have hleft := hstore.left []
  rw [List.append_nil, List.append_nil, goalOf_storeDirectory, hnode] at hmoved
  rw [List.append_nil, goalOf_storeDirectory] at hleft
  rw [goalOf_storeDirectory] at hnode
  constructor
  · have hwalk := walkable_of_stat (stat_of_not_isPresent habsent) (layout.text_storeDirectory_ne_nil new)
    rw [hplain'.isPresent_of_room hr' hwalk (by rw [hbase]; exact hm.room), hbase, hmoved]
    rfl
  · have hroom := hm.room_left hplain hd ht hnode
    rw [hplain'.isPresent_of_room hr' (leads_of_locate hl).1 (by rw [hbase]; exact hroom), hbase, hleft]
    rfl

/-- The store can be moved back, also after a change of the catalog file. -/
theorem StoreRelocated.exists_back
    (hpresent : t.isPresent (layout.storeDirectory old) = .ok true)
    (habsent : t.isPresent (layout.storeDirectory new) = .ok false)
    (hother : t.Points (layout.dataLink table) (layout.storeDirectory new) →
      t.Points (layout.dataLink table) (layout.storeDirectory old)) {f : File}
    (hg : t'.get? c = some (.file f)) (hc : layout.base t ++ [metadataName] <+: c) (f' : File) :
    ∃ t'', relocateStore (layout.dataLink table) (layout.storeDirectory new)
        (layout.storeDirectory old) (t'.put c (.file f')) = .ok (true, updated) t'' ∧
      StoreRelocated (t'.put c (.file f')) t'' layout table new old updated := by
  have hplain' := hplain.relocated hd ht hm
  have hr' := hr.relocated hplain hd ht hm hapart
  have hfile := Rewritten.of_put hg f'
  have hchanged := hplain'.put_file hg f'
  rw [← hm.base] at hc
  obtain ⟨hnow, hgone⟩ := hm.isPresent_eq hplain hr hd ht hapart hpresent habsent
  have hseen := hplain'.isPresent_rewritten hr' hfile hc
  rw [← hseen] at hnow hgone
  have hout := ((hm.apart_new hplain hr).congr (origin_of_here hfile.here layout.root)).start
  obtain ⟨updated', t'', hback, hm'⟩ := relocateStore_of_absent (hr'.rewritten hplain' hfile).start
    hchanged.standing (hchanged.straight_storeDirectory new) (hchanged.straight_storeDirectory old) hout hd ht
    (hchanged.straightTo hd ht) hnow hgone
  obtain rfl : updated' = updated := hm.updated_back hplain hr hd ht hapart hfile hm' hother
  exact ⟨t'', hback, hm'⟩

end Between

/-- Whatever a catalog file is changed to, the same can be made beside it. -/
theorem Plain.sameBeside_put (h : Plain t layout) (hr : Rooted t layout) (hd : table.database ≠ []) {f : File}
    (hg : t.get? (layout.base t ++ fileNames table) = some (.file f)) (f' : File) :
    (t.put (layout.base t ++ fileNames table) (.file f')).SameBeside t (layout.tableFile table) := by
  have hfile := Rewritten.of_put hg f'
  refine h.sameBeside hr hd rfl rfl (fun x hdir _ => (hfile.get?_eq (.inl hdir)).trans hdir)
    fun front hfront _ => hfile.kept _ fun hx => ?_
  rw [List.append_cancel_left_eq] at hx
  have hnames := hfront.eq_of_length (by rw [hx]; rfl)
  rw [hx] at hnames
  exact t.spareName_ne_catalogName table.table
    (List.cons.inj (List.cons.inj (List.cons.inj hnames).2).2).1.symm

/-- A store that was moved to where nothing was can be moved back, with a file in between that is changed
and then the same again. -/
theorem relocateStore_moved_back (h : Plain t layout) (hr : Rooted t layout) (hd : table.database ≠ [])
    (ht : table.table ≠ []) {f f' f'' : File} {updated : Bool}
    (hg : t.get? (layout.base t ++ fileNames table) = some (.file f)) (hsame : SameButLent f f'')
    (hapart : RootApart t layout old)
    (hown : t.Points (layout.dataLink table) (layout.storeDirectory old) →
      t.get? (t.goalOf (layout.dataLink table)) = some (.link (layout.storeDirectory old)))
    (hother : t.Points (layout.dataLink table) (layout.storeDirectory new) →
      t.Points (layout.dataLink table) (layout.storeDirectory old))
    (hmove : relocateStore (layout.dataLink table) (layout.storeDirectory old)
      (layout.storeDirectory new) (t.put (layout.base t ++ fileNames table) (.file f')) =
        .ok (true, updated) t') :
    t'.get? (layout.base t ++ fileNames table) = some (.file f') ∧
    t'.locate false (layout.tableFile table) =
      (t.put (layout.base t ++ fileNames table) (.file f')).locate false (layout.tableFile table) ∧
    t'.SameBeside t (layout.tableFile table) ∧
    ∃ t'', relocateStore (layout.dataLink table) (layout.storeDirectory new)
        (layout.storeDirectory old) (t'.put (layout.base t ++ fileNames table) (.file f'')) =
          .ok (true, updated) t'' ∧
      Restored t t'' (layout.base t ++ fileNames table)
        (layout.base t ++ [storeName, new.text.take 3]) := by
  have hfile := Rewritten.of_put hg f'
  have hplain₁ := h.put_file hg f'
  have hr₁ := hr.rewritten h hfile
  have hto := h.straightTo hd ht
  have hto₁ := hplain₁.straightTo hd ht
  have hne : layout.base t ++ fileNames table ≠ [] := by simp [fileNames]
  have htop : layout.base t ++ [metadataName] <+: layout.base t ++ fileNames table := prefix_tops _ _ _
  have hapart₁ : RootApart (t.put (layout.base t ++ fileNames table) (.file f')) layout old :=
    hapart.congr rfl
  rcases relocateStore_ok hmove with ⟨hanswer, -⟩ | ⟨_, _, _, -, hpresent, habsent, -⟩
  · cases hanswer
  obtain ⟨_, _, hrun, hm⟩ := relocateStore_of_absent hr₁.start hplain₁.standing
    (hplain₁.straight_storeDirectory old) (hplain₁.straight_storeDirectory new) hapart₁.start hd ht hto₁
    hpresent habsent
  cases hmove.symm.trans hrun
  -- the catalog file is still there, and the store can be moved back
  have hg' : t'.get? (layout.base t ++ fileNames table) = some (.file f') :=
    (hm.moved.get?_fileNames hd ht).trans ((get?_put t _ _ _ hne).trans (if_pos rfl))
  have hplain₂ := hplain₁.relocated hd ht hm
  obtain ⟨t'', hback, hm'⟩ := hm.exists_back hplain₁ hr₁ hd ht hapart₁ hpresent habsent (by
    rwa [hfile.points_iff hd ht hto, hfile.points_iff hd ht hto]) hg' htop f''
  have hstraight := (hplain₁.straight_tableFile hd).last (layout.tableFile_endsIn hd)
  have hlocate := (hm.stat_eq hplain₁ hr₁ hd ht hapart₁ (layout.names_tableFile hd) (by simp [fileNames])
    hstraight.1 (.inl (rfl : false = false)) (by simp [fileNames]; decide) fun _ => by
      simp [fileNames]; decide).1
  refine ⟨hg', hlocate, (hm.sameBeside hplain₁ hr₁ hd ht hapart₁).trans (h.sameBeside_put hr hd hg f'),
    t'', hback, ?_⟩
  -- both moves leave the catalog file alone, so they are moves from the trees before its changes
  have hoffFile : ∀ u, ¬ t.goalOf (layout.storeDirectory u) <+: layout.base t ++ fileNames table := fun u =>
    not_prefix_of_tops (by decide) htop (prefix_goalOf_storeDirectory t layout u)
  have hthere := hm.moved.of_rewritten hfile (h.straight_storeDirectory old) hd ht hto (hoffFile old)
  have hback := hm'.moved.of_rewritten (.of_put hg' f'') (hplain₂.straight_storeDirectory new) hd ht
    (hplain₂.straightTo hd ht) (by
      rw [goalOf_storeDirectory_of_origin hm.origin]
      exact hoffFile new)
  have hpoints := hm.updated_iff hd ht hto₁ hapart₁
  rw [hfile.points_iff hd ht hto] at hpoints
  refine hthere.back hback hm.origin hd ht ?_ (fun hu => hown (hpoints.1 hu)) h.standing hm.room ?_
  · obtain ⟨node, hstat⟩ := stat_of_isPresent hpresent
    have hnode := ((hplain₁.straight_storeDirectory old).of_stat hstat).2
    rw [goalOf_storeDirectory] at hnode
    have hleft := hm.room_left hplain₁ hd ht hnode
    exact hleft
  · have hkept := hm'.moved.get?_fileNames hd ht
    rw [show layout.base (t'.put _ _) = layout.base t from hm.base] at hkept
    exact ⟨f, f'', hg, by rw [hkept, get?_put _ _ _ _ hne, if_pos rfl], hsame⟩

/-- A move of a store is undone by a move back, also where there was no store to move. -/
theorem relocateStore_back {f f'' : File} {answer : Bool × Bool} (h : Plain t layout)
    (hr : Rooted t layout) (hd : table.database ≠ []) (ht : table.table ≠ [])
    (hplace : t.locate false (layout.tableFile table) = .ok (layout.base t ++ fileNames table))
    (hg : t.get? (layout.base t ++ fileNames table) = some (.file f)) (f' : File)
    (hsame : SameButLent f f'') (hapart : RootApart t layout old)
    (hfree : t.isPresent (layout.storeDirectory new) = .ok false)
    (hlink : ∀ current, t.readLink (layout.dataLink table) = .ok current →
      current = layout.storeDirectory old ∨
        current.components ≠ (layout.storeDirectory old).components ∧
          current.components ≠ (layout.storeDirectory new).components)
    (hmove : relocateStore (layout.dataLink table) (layout.storeDirectory old)
      (layout.storeDirectory new) (t.put (layout.base t ++ fileNames table) (.file f')) =
        .ok answer t') :
    t'.get? (layout.base t ++ fileNames table) = some (.file f') ∧
    t'.locate false (layout.tableFile table) = .ok (layout.base t ++ fileNames table) ∧
    t'.SameBeside t (layout.tableFile table) ∧
    ∃ answer' t'', relocateStore (layout.dataLink table) (layout.storeDirectory new)
        (layout.storeDirectory old) (t'.put (layout.base t ++ fileNames table) (.file f'')) =
          .ok answer' t'' ∧
      Restored t t'' (layout.base t ++ fileNames table)
        (layout.base t ++ [storeName, new.text.take 3]) := by
  have hfile := Rewritten.of_put hg f'
  have hends := layout.tableFile_endsIn hd
  have hplace' := ((h.straight_tableFile hd).last hends).1.locate_of_kept hends (origin_of_here hfile.here _)
    (fun x _ hdir => (hfile.get?_eq (.inl hdir)).trans hdir) hplace
  rcases relocateStore_ok hmove with ⟨-, rfl, -⟩ | ⟨updated, _, _, rfl, -⟩
  · -- nothing was moved, and nothing is where it would have been
    have hg' : (t.put (layout.base t ++ fileNames table) (.file f')).get?
        (layout.base t ++ fileNames table) = some (.file f') :=
      (get?_put _ _ _ _ (by simp [fileNames])).trans (if_pos rfl)
    have hmissing : ((t.put (layout.base t ++ fileNames table) (.file f')).put
        (layout.base t ++ fileNames table) (.file f'')).isPresent (layout.storeDirectory new) =
          .ok false := by
      have htop : layout.base t ++ [metadataName] <+: layout.base t ++ fileNames table :=
        prefix_tops _ _ _
      rw [(h.put_file hg f').isPresent_rewritten (hr.rewritten h hfile) (Rewritten.of_put hg' f'') htop,
        h.isPresent_rewritten hr hfile htop, hfree]
    exact ⟨hg', hplace', h.sameBeside_put hr hd hg f', _, _, relocateStore_of_missing _ _ hmissing,
      .of_put_put hg f' hsame (by simp [fileNames])⟩
  · have hown : t.Points (layout.dataLink table) (layout.storeDirectory old) →
        t.get? (t.goalOf (layout.dataLink table)) = some (.link (layout.storeDirectory old)) := by
      rintro ⟨current, hread, hpoints⟩
      obtain ⟨l, hl, hthere⟩ := exists_of_readLink hread
      rw [((h.straightTo hd ht).locate (layout.dataLink_endsIn hd ht) hl).1] at hthere
      rcases hlink current hread with rfl | ⟨hother, -⟩
      · exact hthere
      · exact absurd hpoints hother
    have hother : t.Points (layout.dataLink table) (layout.storeDirectory new) →
        t.Points (layout.dataLink table) (layout.storeDirectory old) := by
      rintro ⟨current, hread, hpoints⟩
      rcases hlink current hread with hcurrent | ⟨-, hother⟩
      · exact ⟨current, hread, hcurrent ▸ rfl⟩
      · exact absurd hpoints hother
    obtain ⟨hg', hlocate, hbeside, t'', hback, hrestored⟩ :=
      relocateStore_moved_back h hr hd ht hg hsame hapart hown hother hmove
    exact ⟨hg', hlocate.trans hplace', hbeside, _, t'', hback, hrestored⟩

/-! ## The whole change -/

/-- A table without replicas whose files are such that its UUID may be changed and changed back: the links
of tables are the only links, the catalog file spells its UUID as a change does, nothing is at the new
store directory, and the link of the table is exactly the path of its store, or of neither store. -/
structure Undoable (layout : Layout) (table : TableName) (newUuid : Uuid) (t : FileTree) (text : Text)
    (record : Catalog.Record) : Prop where
  standing : t.Standing
  start : t.Grounded (t.origin layout.root)
  links : ∀ x, t.IsLink x → ∃ database table, x = layout.base t ++ [dataName, database, table]
  read : t.readText (layout.tableFile table) = .ok text
  parse : Catalog.Record.parse text = .ok record
  plain : record.engine = .plain
  spells : Catalog.Spells text.lines record.uuid
  free : ∀ node, t.stat false (layout.storeDirectory newUuid) ≠ .ok node
  link : ∀ current, t.readLink (layout.dataLink table) = .ok current →
    current = layout.storeDirectory record.uuid ∨
      current.components ≠ (layout.storeDirectory record.uuid).components ∧
        current.components ≠ (layout.storeDirectory newUuid).components

/-- A change of the UUID of a detached table without replicas is undone by a change back, if the root's path
leads through no link, neither starts in the table's store nor leads through it, and nothing hinders a look
at the new store directory. -/
theorem changeUuid_undone (settings : Settings)
    (answers : List Sent → Sent → Except ClientError (List Row)) (remover : Remover)
    (table : TableName) (newUuid : Uuid) (w v : World) (report : UuidChangeReport) (text : Text)
    (record : Catalog.Record) (hd : table.database ≠ []) (ht : table.table ≠ []) :
    let site : Site := ⟨settings, .ofAnswers answers, remover⟩
    Detached answers site table → Undoable site.layout table newUuid w.tree text record →
    w.tree.Straight site.layout.root → RootApart w.tree site.layout record.uuid →
    w.tree.isPresent (site.layout.storeDirectory newUuid) = .ok false →
    changeUuid site table newUuid w = .ok report v →
    ∃ report' v', changeUuid site table record.uuid v = .ok report' v' ∧
      Restored w.tree v'.tree (site.layout.base w.tree ++ fileNames table)
        (site.layout.base w.tree ++ [storeName, newUuid.text.take 3]) := by
  intro site hdetached h hstraight hapart hfree hrun
  have hs : site.server = .ofAnswers answers := rfl
  rw [Straight, way_parts] at hstraight
  have hplain : Plain w.tree site.layout := ⟨h.standing, h.links, hstraight⟩
  have hread : Catalog.readRecord w.tree (site.layout.tableFile table) = .ok record :=
    Catalog.readRecord_eq_ok_iff.2 ⟨text, h.read, h.parse⟩
  obtain ⟨hne, tree, answer, hset, hmove⟩ := steps_of_changeUuid hs hdetached hread hrun
  obtain ⟨text', changed, f, place, htext, hreplace, hstat, hplace, htree⟩ := Catalog.setUuid_of_ok hset
  obtain rfl : text = text' := Except.ok.inj (h.read.symm.trans htext)
  obtain ⟨f', hstat', hcontent⟩ := Catalog.exists_of_readText htext
  obtain rfl : f' = f := by
    cases hstat'.symm.trans hstat
    rfl
  -- a new file could be made beside the catalog file, or that would not have been changed
  have hroom : w.tree.RoomBeside (site.layout.tableFile table) := by
    by_contra hno
    cases (Catalog.setUuid_of_no_room htext hreplace hstat hno).symm.trans hset
  subst htree
  -- the catalog file is below the root, so the root is there
  have hnames := site.layout.names_tableFile hd
  have hfile := hplain.straight_tableFile hd
  have hr := hplain.rooted h.start hnames (by simp [fileNames]) hplace
  have hg := (hfile.of_stat hstat).2
  obtain rfl := hfile.locate hplace
  rw [hnames.goalOf] at hg hplace hmove
  obtain ⟨hg', hplace', hbeside, answer', tree', hback, hrestored⟩ :=
    relocateStore_back hplain hr hd ht hplace hg _ (sameButLent_rewritten hcontent) hapart hfree h.link hmove
  obtain ⟨hread', hset'⟩ :=
    Catalog.setUuid_back h.parse h.spells hreplace hplace' hg' (hbeside.roomBeside_iff.2 hroom)
  obtain ⟨report', v', hrun', htree⟩ :=
    changeUuid_of_steps hs hdetached hread' h.plain hne.symm hset' hback
  exact ⟨report', v', hrun', htree ▸ hrestored⟩

/-! ## A change that is undone, and changes that are not -/

/-- The text of a catalog file. -/
def logText : Text := "ATTACH TABLE _ UUID '" ++ (Uuid.constant 0).text ++ "'\nENGINE = Log\n"

/-- What is read of it. -/
def logRecord : Catalog.Record := ⟨.table, Uuid.constant 0, "Log", .plain⟩

theorem spells_logText : Catalog.Spells logText.lines logRecord.uuid := by
  intro line hline
  have hlines : Catalog.uuidLines logText.lines =
      ["ATTACH TABLE _ UUID '" ++ (Uuid.constant 0).text ++ "'"] := by
    decide +kernel
  rw [hlines, List.mem_singleton] at hline
  subst hline
  have hheader : Catalog.header? ("ATTACH TABLE _ UUID '" ++ (Uuid.constant 0).text ++ "'") =
      some (.table, logRecord.uuid.text) := by
    decide +kernel
  exact (Catalog.header?_eq_some_iff.1 hheader).2.2

/-- The store moves there and back, and the link with it. -/
theorem changeUuid_undone_stored :
    ∃ report v report' v',
      changeUuid (siteAt "/srv") ⟨"db", "t"⟩ (Uuid.constant 1) { tree := linkedTree } = .ok report v ∧
      report.storeRelocated = true ∧ report.dataLinkUpdated = true ∧
      changeUuid (siteAt "/srv") ⟨"db", "t"⟩ (Uuid.constant 0) v = .ok report' v' ∧
      Restored linkedTree v'.tree ["srv", "metadata", "db", "t.sql"] ["srv", "store", "111"] := by
  have hrun : endsWith (fun report _ => report.storeRelocated && report.dataLinkUpdated)
      (changeUuid (siteAt "/srv") ⟨"db", "t"⟩ (Uuid.constant 1) { tree := linkedTree }) = true := by
    decide +kernel
  obtain ⟨report, v, h, hreport⟩ := exists_of_endsWith hrun
  obtain ⟨hrelocated, hupdated⟩ := (Bool.and_eq_true _ _).mp hreport
  have hwf : linkedTree.WellFormed := by decide +kernel
  have hlinks : ∀ e ∈ linkedTree.entries, linkedTree.IsLink e.1 →
      e.1 = (siteAt "/srv").layout.base linkedTree ++ [dataName, "db", "t"] := by
    decide +kernel
  have hundoable : Undoable (siteAt "/srv").layout ⟨"db", "t"⟩ (Uuid.constant 1) linkedTree logText
      logRecord := {
    standing := hwf.standing
    start := grounded_nil _
    links := fun x hx => by
      obtain ⟨e, he, rfl⟩ := hx.exists_entry
      exact ⟨_, _, hlinks e he hx⟩
    read := by decide +kernel
    parse := by decide +kernel
    plain := rfl
    spells := spells_logText
    free := fun node hnode => by
      have hstat : linkedTree.stat false ((siteAt "/srv").layout.storeDirectory (Uuid.constant 1)) =
          .error .notFound := by
        decide +kernel
      cases hstat.symm.trans hnode
    link := fun current hcurrent => by
      have hread : linkedTree.readLink ((siteAt "/srv").layout.dataLink ⟨"db", "t"⟩) =
          .ok ((siteAt "/srv").layout.storeDirectory logRecord.uuid) := by
        decide +kernel
      exact .inl (Except.ok.inj (hcurrent.symm.trans hread)) }
  obtain ⟨report', v', hback, hrestored⟩ :=
    changeUuid_undone _ _ _ ⟨"db", "t"⟩ _ { tree := linkedTree } v report logText logRecord (by decide)
      (by decide) (detached_siteAt _ _) hundoable (by decide +kernel) (by decide +kernel) (by decide +kernel) h
  exact ⟨report, v, report', v', h, hrelocated, hupdated, hback, hrestored⟩

/-- A tree with the catalog file of one table, and what is in the directory of all stores and elsewhere. -/
def loneTree (others : List (Location × Node)) : FileTree where
  entries :=
    (["srv"], .directory) :: (["srv", "metadata"], .directory) ::
      (["srv", "metadata", "db"], .directory) ::
      (["srv", "metadata", "db", "t.sql"], .file ⟨.text logText, 0o640, 7, 7⟩) ::
      (["srv", "store"], .directory) :: others

theorem undoable_of_entries {t : FileTree} {newUuid : Uuid} (e e' : IoError) (hwf : t.WellFormed)
    (hlinks : ∀ entry ∈ t.entries, t.IsLink entry.1 → entry.1 = layout.base t ++ [dataName, "db", "x"])
    (hread : t.readText (layout.tableFile table) = .ok logText)
    (hfree : t.stat false (layout.storeDirectory newUuid) = .error e)
    (hlink : t.readLink (layout.dataLink table) = .error e') :
    Undoable layout table newUuid t logText logRecord where
  standing := hwf.standing
  start := hwf.grounded_origin layout.root
  links x hx := by
    obtain ⟨entry, hentry, rfl⟩ := hx.exists_entry
    exact ⟨_, _, hlinks entry hentry hx⟩
  read := hread
  parse := by decide +kernel
  plain := rfl
  spells := spells_logText
  free := by simp [hfree]
  link := by simp [hlink]

/-- Whether a change of the table's UUID ends well, and the change back fails in such a way. -/
def failsBack (site : Site) (p : TableError → Bool) (t : FileTree) : Bool :=
  endsWith (fun _ v => failsWith (fun e _ => p e) (changeUuid site ⟨"db", "t"⟩ (Uuid.constant 0) v))
    (changeUuid site ⟨"db", "t"⟩ (Uuid.constant 1) { tree := t })

theorem exists_of_failsBack {site : Site} {p : TableError → Bool} {t : FileTree}
    (h : failsBack site p t = true) :
    ∃ report v e v', changeUuid site ⟨"db", "t"⟩ (Uuid.constant 1) { tree := t } = .ok report v ∧
      changeUuid site ⟨"db", "t"⟩ (Uuid.constant 0) v = .error e v' ∧ p e = true := by
  obtain ⟨report, v, hrun, hback⟩ := exists_of_endsWith h
  obtain ⟨e, v', hback, hp⟩ := exists_of_failsWith hback
  exact ⟨report, v, e, v', hrun, hback, hp⟩

/-- A change is not undone where the root's path leads through the store, or through a link to it, or starts
in the store and goes on beside it; nor where a file stands in place of the directory of the new store. -/
theorem changeUuid_not_undone :
    let table : TableName := ⟨"db", "t"⟩
    let store : Path := ⟨"/srv/store/000/" ++ (Uuid.constant 0).text⟩
    let stored := loneTree
      [(["srv", "store", "000"], .directory), (["srv", "store", "000", (Uuid.constant 0).text], .directory),
        (["srv", "store", "000", "x"], .directory), (["srv", "data"], .directory),
        (["srv", "data", "db"], .directory), (["srv", "data", "db", "x"], .link store)]
    let started := { stored with here := ["srv", "store", "000", (Uuid.constant 0).text] }
    let blocked := loneTree [(["srv", "store", "111"], .file ⟨.text "a", 0o640, 7, 7⟩)]
    (∀ site tree, site = siteAt ⟨store.text ++ "/../../.."⟩ ∧ tree = stored ∨
        site = siteAt "/srv/data/db/x/../../.." ∧ tree = stored ∨
        site = siteAt "../x/../../.." ∧ tree = started →
      Undoable site.layout table (Uuid.constant 1) tree logText logRecord ∧
      ∃ report v e v', changeUuid site table (Uuid.constant 1) { tree := tree } = .ok report v ∧
        changeUuid site table (Uuid.constant 0) v = .error e v') ∧
    Undoable (siteAt "/srv").layout table (Uuid.constant 1) blocked logText logRecord ∧
      ∃ report v e v', changeUuid (siteAt "/srv") table (Uuid.constant 1) { tree := blocked } = .ok report v ∧
        changeUuid (siteAt "/srv") table (Uuid.constant 0) v = .error e v' ∧ e.kind = .inconsistentState := by
  intro table store stored started blocked
  refine ⟨fun site tree hsite => ⟨?_, ?_⟩, ?_, ?_⟩
  · rcases hsite with ⟨rfl, rfl⟩ | ⟨rfl, rfl⟩ | ⟨rfl, rfl⟩ <;>
      exact undoable_of_entries .notFound .notFound (by decide +kernel) (by decide +kernel)
        (by decide +kernel) (by decide +kernel) (by decide +kernel)
  · have hruns : failsBack site (fun _ => true) tree = true := by
      rcases hsite with ⟨rfl, rfl⟩ | ⟨rfl, rfl⟩ | ⟨rfl, rfl⟩ <;> decide +kernel
    obtain ⟨report, v, e, v', hrun, hback, -⟩ := exists_of_failsBack hruns
    exact ⟨report, v, e, v', hrun, hback⟩
  · exact undoable_of_entries .notADirectory .notFound (by decide +kernel) (by decide +kernel)
      (by decide +kernel) (by decide +kernel) (by decide +kernel)
  · have hruns : failsBack (siteAt "/srv") (fun e => e.kind = .inconsistentState) blocked = true := by
      decide +kernel
    obtain ⟨report, v, e, v', hrun, hback, hkind⟩ := exists_of_failsBack hruns
    exact ⟨report, v, e, v', hrun, hback, of_decide_eq_true hkind⟩

end CatalogAdmin
