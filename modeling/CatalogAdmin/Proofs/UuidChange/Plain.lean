import CatalogAdmin.Proofs.FileTree.Views
import CatalogAdmin.Proofs.UuidChange.Effect
import CatalogAdmin.Proofs.UuidChange.FreeMove

/-!
# Plain trees

A tree is plain where everything stands in a directory and the links of the tables are the only links, none
of them on the way to the root. Then every path of the layout is straight, but for the link that a table's
own link path ends at (`Plain.straight`, `Plain.straightTo`). A change of a catalog file leaves a tree plain,
and so does a move of a store (`Plain.put_file`, `Plain.relocated`).

The root's path may lead through a store, by a `..` behind it, or start in one. Where it does neither, it
leads to the root also after that store is moved (`Rooted.relocated`).
-/

namespace CatalogAdmin

open Session FileTree

variable {t t' : FileTree} {layout : Layout} {table : TableName} {old new u : Uuid} {p : Path}
  {names : List Text} {c l x : Location}

/-- The links of the tables are the only links, none is on the way to the root, and everything stands in
a directory. -/
structure Plain (t : FileTree) (layout : Layout) : Prop where
  standing : t.Standing
  links : ∀ x, t.IsLink x → ∃ database table, x = layout.base t ++ [dataName, database, table]
  root : ∀ x ∈ way (t.origin layout.root) layout.root.parts, ¬ t.IsLink x

/-- The root's path leads from a directory to a directory, through no link. -/
structure Rooted (t : FileTree) (layout : Layout) : Prop where
  start : t.Grounded (t.origin layout.root)
  leads : t.Leads true (t.origin layout.root) layout.root.parts
    (way (t.origin layout.root) layout.root.parts) 0 (layout.base t)
  grounded : t.Grounded (layout.base t)

/-- A link stands in the tree. -/
theorem FileTree.IsLink.exists_entry (h : t.IsLink x) : ∃ e ∈ t.entries, e.1 = x := by
  obtain ⟨target, hg⟩ := h
  refine mem_of_get? ?_ hg
  rintro rfl
  rw [get?_nil] at hg
  cases hg

/-! ## Beside a catalog file -/

theorem FileTree.slash_not_mem_spareName (t : FileTree) : '/' ∉ t.spareName := by
  unfold spareName
  intro hmem
  rcases List.mem_append.1 hmem with hmem | hmem
  · exact absurd hmem (by decide)
  · exact absurd (t.spare.2.2 _ hmem) (by decide)

theorem FileTree.length_spareName (t : FileTree) : t.spareName.length = 10 := by
  unfold spareName
  rw [List.length_append, t.spare.2.1]
  rfl

theorem FileTree.spareName_not_dots (t : FileTree) : t.spareName ≠ "." ∧ t.spareName ≠ ".." :=
  not_dots_of_length (by rw [t.length_spareName]; decide)

/-- A new file that is to take the place of another is no catalog file. -/
theorem FileTree.spareName_ne_catalogName (t : FileTree) (name : Text) : t.spareName ≠ catalogName name := by
  unfold spareName catalogName
  intro h
  -- a catalog file whose name begins with a dot has a `s` behind it
  cases hname : escapeName name with
  | nil =>
    rw [hname] at h
    exact absurd (List.cons.inj (List.cons.inj h).2).1 (by decide)
  | cons c rest =>
    rw [hname] at h
    exact dot_not_mem_escapeName name (hname ▸ (List.cons.inj h).1 ▸ List.mem_cons_self ..)

/-- The names from the root to a new file beside the catalog file of a table. -/
def FileTree.spareNames (t : FileTree) (table : TableName) : List Text :=
  [metadataName, escapeName table.database, t.spareName]

/-- A new file beside a catalog file is in the same directory, whose path is written without what means
nothing in the root's path. -/
theorem exists_steps_beside (t : FileTree) (layout : Layout) (hd : table.database ≠ []) :
    ∃ front, steps (t.beside (layout.tableFile table)) = front ++ [t.spareName] ∧
      Path.solid front = Path.solid (layout.root.parts ++ [metadataName, escapeName table.database]) ∧
      t.origin (t.beside (layout.tableFile table)) = t.origin layout.root := by
  have hescaped := (escapeName_not_dots table.database).1
  have habove : Path.solid (layout.root.parts ++ [metadataName, escapeName table.database]) =
      Path.solid layout.root.parts ++ [metadataName] ++ [escapeName table.database] := by
    rw [Path.solid_append, Path.solid_cons (by decide), Path.solid_cons hescaped, List.append_assoc]
    rfl
  have hsolid : Path.solid (layout.tableFile table).parts =
      Path.solid (layout.root.parts ++ [metadataName, escapeName table.database]) ++
        [catalogName table.table] := by
    rw [← Path.solid_steps, (layout.tableFile_endsIn hd).steps, Path.solid_append,
      Path.solid_cons (catalogName_not_dots _).1]
    rfl
  obtain ⟨parent, dots, hparent, habsolute, -, hdots, hsteps⟩ :=
    Path.exists_parent hsolid (by rw [habove]; simp)
  have htext : parent.text ≠ [] := by
    intro hnil
    obtain rfl : parent = ⟨[]⟩ := by cases parent; cases hnil; rfl
    have hnone : steps ⟨[]⟩ = [] := rfl
    rw [hnone, habove] at hsteps
    simp at hsteps
  have hparts : parent.parts = dots ++ Path.solid (layout.root.parts ++
      [metadataName, escapeName table.database]) := by
    rw [← hsteps, steps]
    split
    · next hslash =>
      -- a slash at the end would be a dot behind the name of the database
      rw [steps, if_pos hslash, habove, ← List.append_assoc] at hsteps
      exact absurd (List.append_inj' hsteps rfl).2 (by simpa using Ne.symm hescaped)
    · rfl
  have hbeside : t.beside (layout.tableFile table) = parent.join ⟨t.spareName⟩ := by
    rw [beside, directoryOf, hparent]
    simp only [htext, if_false]
  have hname : t.spareName ≠ [] := fun hnil => by simpa [hnil] using t.length_spareName
  refine ⟨parent.parts, ?_, ?_, ?_⟩
  · rw [hbeside, Path.steps_join_name _ t.slash_not_mem_spareName hname]
  · have hnone : Path.solid dots = [] := List.filter_eq_nil_iff.2 fun d hd => by simp [hdots d hd]
    rw [hparts, Path.solid_append, hnone, Path.solid_solid, List.nil_append]
  · rw [hbeside, ← origin_tableFile t layout table]
    exact t.origin_congr ((Path.isAbsolute_join_of_relative _
      (Path.isAbsolute_of_not_mem t.slash_not_mem_spareName)).trans habsolute)

/-- What is on the way of a new file is on the way to the root, or below it. -/
theorem mem_way_beside (hd : table.database ≠ [])
    (hx : x ∈ way (t.origin (t.beside (layout.tableFile table)))
      (steps (t.beside (layout.tableFile table)))) :
    x ∈ way (t.origin layout.root) layout.root.parts ∨
      ∃ front, x = layout.base t ++ front ∧ front <+: t.spareNames table ∧ front ≠ [] := by
  obtain ⟨front, hsteps, hsolid, horigin⟩ := exists_steps_beside t layout hd
  have hnames : ∀ name ∈ t.spareNames table, name ≠ "." ∧ name ≠ ".." := by
    simp only [spareNames, List.mem_cons, List.not_mem_nil, or_false]
    rintro name (rfl | rfl | rfl)
    · decide
    · exact escapeName_not_dots _
    · exact t.spareName_not_dots
  have hparts : Path.solid (front ++ [t.spareName]) =
      Path.solid (layout.root.parts ++ t.spareNames table) := by
    have hsplit : t.spareNames table = [metadataName, escapeName table.database] ++ [t.spareName] := rfl
    rw [hsplit, ← List.append_assoc, Path.solid_append, Path.solid_append, hsolid]
  rw [horigin, hsteps, ← way_solid, hparts, way_solid, way_append, List.mem_append] at hx
  refine hx.imp_right fun hx => ?_
  obtain ⟨hfront, ⟨names, rfl⟩, hne⟩ := mem_way_names hnames hx
  exact ⟨names, rfl, (List.prefix_append_right_inj _).1 hfront, fun hnil => hne (by simp [hnil])⟩

namespace Plain

/-- Below the root there is no link but where those of the tables are. -/
theorem not_isLink (h : Plain t layout) (hlen : names.length < 3 ∨ names.head? ≠ some dataName) :
    ¬ t.IsLink (layout.base t ++ names) := by
  intro hlink
  obtain ⟨_, _, hx⟩ := h.links _ hlink
  rw [List.append_cancel_left_eq] at hx
  rw [hx] at hlen
  rcases hlen with hlen | hhead
  · exact absurd hlen (by simp)
  · exact hhead rfl

theorem straight (h : Plain t layout) (hp : layout.Names p names) (hhead : names.head? ≠ some dataName) :
    t.Straight p := by
  intro x hx
  rcases hp.mem_way hx with hx | ⟨front, rfl, ⟨more, rfl⟩, hne⟩
  · exact h.root x hx
  · refine h.not_isLink (.inr ?_)
    rwa [List.head?_append_of_ne_nil _ hne] at hhead

theorem straightTo (h : Plain t layout) (hd : table.database ≠ []) (ht : table.table ≠ []) :
    t.StraightTo (layout.dataLink table) := by
  have hends := layout.dataLink_endsIn hd ht
  intro x hx
  rw [hends.steps, List.dropLast_concat, way_append, List.mem_append, origin_dataLink] at hx
  rcases hx with hx | hx
  · exact h.root x hx
  · obtain ⟨hfront, ⟨front, rfl⟩, -⟩ := mem_way_names (fun name hname =>
      (layout.names_dataLink hd ht).down name (List.mem_of_mem_take (i := 2) hname)) hx
    have hlen := hfront.length_le
    have htwo : ((linkNames table).take 2).length = 2 := rfl
    rw [List.length_append, List.length_append] at hlen
    exact h.not_isLink (.inl (by omega))

theorem straight_storeDirectory (h : Plain t layout) (u : Uuid) : t.Straight (layout.storeDirectory u) :=
  h.straight (layout.names_storeDirectory u) (by simp [storeNames]; decide)

theorem straight_tableFile (h : Plain t layout) (hd : table.database ≠ []) :
    t.Straight (layout.tableFile table) :=
  h.straight (layout.names_tableFile hd) (by simp [fileNames]; decide)

/-- A path below the root that leads somewhere leads there by way of the root. -/
theorem rooted (h : Plain t layout) (hstart : t.Grounded (t.origin layout.root)) (hp : layout.Names p names)
    (hne : names ≠ []) {follow : Bool} (hl : t.locate follow p = .ok l) : Rooted t layout := by
  obtain ⟨-, _, _, -, hroute⟩ := leads_of_locate hl
  rw [hp.origin, hp.steps] at hroute
  obtain ⟨_, _, _, _, _, hmid, -, -, -, hgr⟩ := hroute.split hne hstart
  obtain ⟨rfl, rfl, hseen⟩ := hmid.straight h.root
  exact ⟨hstart, hseen rfl ▸ hmid, hgr⟩

theorem directory_of_way (h : Plain t layout) (hr : Rooted t layout)
    (hx : x ∈ way (t.origin layout.root) layout.root.parts) : t.get? x = some .directory :=
  (hr.leads.passed (.inr hr.grounded.self) hx).resolve_right (h.root x hx)

/-- The way of a path below the root is the same where it is the same below the root. -/
theorem same_way (h : Plain t layout) (hr : Rooted t layout) (hp : layout.Names p names)
    (hroot : ∀ x, t.get? x = some .directory → x ∈ way (t.origin layout.root) layout.root.parts →
      t'.get? x = some .directory)
    (hsame : ∀ front, front <+: names → front ≠ [] →
      t'.get? (layout.base t ++ front) = t.get? (layout.base t ++ front)) :
    ∀ x ∈ way (t.origin p) (steps p), t'.get? x = t.get? x := by
  intro x hx
  rcases hp.mem_way hx with hx | ⟨front, rfl, hfront, hne⟩
  · have hdir := h.directory_of_way hr hx
    rw [hroot x hdir hx, hdir]
  · exact hsame front hfront hne

/-- What a path below the root names depends on what is below the root on its way. -/
theorem stat_congr {follow : Bool} (h : Plain t layout) (hr : Rooted t layout)
    (hp : layout.Names p names) (hne : names ≠ []) (hto : t.StraightTo p)
    (hend : follow = false ∨ ¬ t.IsLink (t.goalOf p))
    (horigin : t'.origin layout.root = t.origin layout.root)
    (hroot : ∀ x, t.get? x = some .directory → x ∈ way (t.origin layout.root) layout.root.parts →
      t'.get? x = some .directory)
    (hsame : ∀ front, front <+: names → front ≠ [] →
      t'.get? (layout.base t ++ front) = t.get? (layout.base t ++ front)) :
    t'.locate follow p = t.locate follow p ∧ t'.stat follow p = t.stat follow p := by
  obtain ⟨_, _, hends⟩ := hp.exists_endsIn hne
  exact hto.congr hends (by rw [hp.origin, hp.origin, horigin]) hend (h.same_way hr hp hroot hsame)

/-- What can be made beside a catalog file depends on what is below the root on the way there. -/
theorem sameBeside (h : Plain t layout) (hr : Rooted t layout) (hd : table.database ≠ [])
    (horigin : t'.origin layout.root = t.origin layout.root) (hspare : t'.spare = t.spare)
    (hroot : ∀ x, t.get? x = some .directory → x ∈ way (t.origin layout.root) layout.root.parts →
      t'.get? x = some .directory)
    (hsame : ∀ front, front <+: t.spareNames table → front ≠ [] →
      t'.get? (layout.base t ++ front) = t.get? (layout.base t ++ front)) :
    t'.SameBeside t (layout.tableFile table) := by
  obtain ⟨front, hsteps, -, hstart⟩ := exists_steps_beside t layout hd
  have hends : EndsIn (t.beside (layout.tableFile table)) front t.spareName :=
    ⟨hsteps, t.spareName_not_dots.1, t.spareName_not_dots.2⟩
  have hstraight : t.Straight (t.beside (layout.tableFile table)) := by
    intro x hx
    rcases mem_way_beside hd hx with hx | ⟨names, rfl, hnames, hne⟩
    · exact h.root x hx
    · refine h.not_isLink (.inr ?_)
      obtain ⟨rest, hrest⟩ := hnames
      have hhead : (names ++ rest).head? = some metadataName := by rw [hrest]; rfl
      rw [List.head?_append_of_ne_nil _ hne] at hhead
      rw [hhead]
      decide
  have hway : ∀ x ∈ way (t.origin (t.beside (layout.tableFile table)))
      (steps (t.beside (layout.tableFile table))), t'.get? x = t.get? x := by
    intro x hx
    rcases mem_way_beside hd hx with hx | ⟨names, rfl, hnames, hne⟩
    · have hdir := h.directory_of_way hr hx
      rw [hroot x hdir hx, hdir]
    · exact hsame names hnames hne
  have hpath : t'.beside (layout.tableFile table) = t.beside (layout.tableFile table) := by
    unfold beside spareName
    rw [hspare]
  have hsamestart : t'.origin (t.beside (layout.tableFile table)) =
      t.origin (t.beside (layout.tableFile table)) := by
    obtain ⟨_, _, -, hstart'⟩ := exists_steps_beside t' layout hd
    rw [hstart, ← hpath, hstart', horigin]
  have hlocate := ((hstraight.last hends).1.congr hends hsamestart (.inl (rfl : false = false)) hway).1
  refine ⟨hpath ▸ hlocate, fun l hl => ?_⟩
  have hgoal := hstraight.locate (hlocate.symm.trans (hpath ▸ hl))
  rw [hway l (by rw [hgoal, way_steps hends]; exact List.mem_append_right _ (List.mem_singleton_self _))]

/-! ## Stores in plain trees -/

/-- Where the directory of all stores is there, the root's path leads on to it. -/
theorem leads_stores (hr : Rooted t layout)
    (hstores : t.get? (layout.base t ++ [storeName]) = some .directory) :
    ∃ seen, t.Leads true (t.origin layout.root) layout.storeParts seen 0 (layout.base t ++ [storeName]) :=
  ⟨_, hr.leads.comp hr.grounded.self
    (.enter (isName_of_managed _ (by decide)) (.inr rfl) hstores .done) (.inr rfl)⟩

/-- Where the directory of a store is there, the store is present if something is in its place. -/
theorem isPresent_of_room (h : Plain t layout) (hr : Rooted t layout)
    (hw : Walkable (layout.storeDirectory u))
    (hroom : t.get? (layout.base t ++ [storeName, u.text.take 3]) = some .directory) :
    t.isPresent (layout.storeDirectory u) = .ok (t.get? (layout.base t ++ storeNames u)).isSome := by
  have hstores : t.get? (layout.base t ++ [storeName]) = some .directory :=
    h.standing.grounded hroom _ ⟨[u.text.take 3], by simp⟩
  obtain ⟨seen, hlead⟩ := leads_stores hr hstores
  have hl := locate_storeDirectory hw hlead hstores hroom
  have hlink : ¬ t.IsLink (layout.base t ++ storeNames u) :=
    h.not_isLink (.inr (by simp [storeNames]; decide))
  cases hg : t.get? (layout.base t ++ storeNames u) with
  | none =>
    have hstat := stat_of_none (locate_follow hl fun _ => by rw [hg]; simp) hg
    rw [isPresent, hstat]
    rfl
  | some node =>
    have hstat := stat_of_place hl hg fun target htarget => hlink ⟨target, htarget ▸ hg⟩
    rw [isPresent, hstat]
    rfl

/-- Where only the directory of a store is missing, the store is missing. -/
theorem isPresent_of_no_room (hr : Rooted t layout) (hw : Walkable (layout.storeDirectory u))
    (hstores : t.get? (layout.base t ++ [storeName]) = some .directory)
    (hroom : t.get? (layout.base t ++ [storeName, u.text.take 3]) = none) :
    t.isPresent (layout.storeDirectory u) = .ok false := by
  obtain ⟨seen, hlead⟩ := leads_stores hr hstores
  have hwalk : t.locate true (layout.storeDirectory u) = .error .notFound := by
    rw [locate_eq_walk t true hw, origin_storeDirectory, layout.steps_storeDirectory, List.append_assoc,
      hlead.walk_append hstores, List.singleton_append, walk_name _ _ _ _ u.isName_start.1,
      List.append_assoc, List.singleton_append, hroom]
    rfl
  rw [isPresent, stat_of_error hwalk]

/-! ## Changes of plain trees -/

/-- A file that takes the place of a file leaves a tree plain. -/
theorem put_file (h : Plain t layout) {f : File} (hg : t.get? c = some (.file f)) (f' : File) :
    Plain (t.put c (.file f')) layout := by
  have hrewritten := Rewritten.of_put hg f'
  have hne : c ≠ [] := by
    rintro rfl
    rw [get?_nil] at hg
    cases hg
  exact {
    standing := h.standing.put hne (h.standing.above hne hg) (by rw [hg]; simp) _
    links := fun x hx => h.links x (hrewritten.isLink hx)
    root := fun x hx hlink => h.root x hx (hrewritten.isLink hlink) }

/-- A change of a catalog file is not seen on the way to anything that is no catalog file. -/
theorem stat_rewritten {follow : Bool} (h : Plain t layout) (hr : Rooted t layout)
    (hfile : Rewritten t t' c) (hc : layout.base t ++ [metadataName] <+: c) (hp : layout.Names p names)
    (hne : names ≠ []) (hto : t.StraightTo p) (hend : follow = false ∨ ¬ t.IsLink (t.goalOf p))
    (hhead : names.head? ≠ some metadataName) :
    t'.locate follow p = t.locate follow p ∧ t'.stat follow p = t.stat follow p := by
  refine h.stat_congr hr hp hne hto hend (origin_of_here hfile.here _)
    (fun x hdir _ => (hfile.get?_eq (.inl hdir)).trans hdir) fun front hfront hnil => hfile.kept _ ?_
  rintro rfl
  exact hhead (head?_of_prefix_top hfront hnil hc)

/-- A store is present if it was before a catalog file changed. -/
theorem isPresent_rewritten (h : Plain t layout) (hr : Rooted t layout)
    (hfile : Rewritten t t' c) (hc : layout.base t ++ [metadataName] <+: c) (u : Uuid) :
    t'.isPresent (layout.storeDirectory u) = t.isPresent (layout.storeDirectory u) := by
  have hlast := (h.straight_storeDirectory u).last (layout.storeDirectory_endsIn u)
  exact isPresent_of_stat (h.stat_rewritten hr hfile hc (layout.names_storeDirectory u)
    (by simp [storeNames]) hlast.1 (.inr hlast.2) (by simp [storeNames]; decide)).2

/-- A move of a store makes no link where none was. -/
theorem isLink_of_relocated (h : Plain t layout) (hd : table.database ≠ []) (ht : table.table ≠ [])
    {updated : Bool} (hm : StoreRelocated t t' layout table old new updated) (hx : t'.IsLink x) :
    t.IsLink x := by
  obtain ⟨target, hg⟩ := hx
  have hstore := hm.moved.store rfl
  have hold : ¬ t.goalOf (layout.storeDirectory old) <+: x := by
    rintro ⟨rel, rfl⟩
    rw [hstore.left] at hg
    cases hg
  have hnew : ¬ t.goalOf (layout.storeDirectory new) <+: x := by
    rintro ⟨rel, rfl⟩
    rw [hstore.moved, goalOf_storeDirectory, List.append_assoc] at hg
    exact h.not_isLink (.inr (by simp [storeNames]; decide)) ⟨target, hg⟩
  by_cases hlink : updated = true ∧ x = t.goalOf (layout.dataLink table)
  · obtain ⟨hu, rfl⟩ := hlink
    obtain ⟨-, ⟨_, hread, -⟩, -⟩ := hm.moved.pointed.1 hu
    obtain ⟨l, hl, hthere⟩ := exists_of_readLink hread
    rw [((h.straightTo hd ht).locate (layout.dataLink_endsIn hd ht) hl).1] at hthere
    exact ⟨_, hthere⟩
  · rcases hm.moved.kept x List.not_mem_nil (fun _ => ⟨hold, hnew⟩) (fun hu hl => hlink ⟨hu, hl⟩) with
      hsame | ⟨-, -, -, hdir⟩
    · exact ⟨target, hsame.symm.trans hg⟩
    · cases hdir.symm.trans hg

theorem relocated (h : Plain t layout) (hd : table.database ≠ []) (ht : table.table ≠ []) {updated : Bool}
    (hm : StoreRelocated t t' layout table old new updated) : Plain t' layout where
  standing := hm.standing
  links x hx := by
    rw [hm.base]
    exact h.links x (h.isLink_of_relocated hd ht hm hx)
  root x hx hlink := by
    rw [hm.origin] at hx
    exact h.root x hx (h.isLink_of_relocated hd ht hm hlink)

end Plain

namespace Rooted

/-- The root's path leads to the root where the directories on its way are. -/
theorem of_kept (h : Plain t layout) (hr : Rooted t layout)
    (horigin : t'.origin layout.root = t.origin layout.root)
    (hkept : ∀ x, x <+: t.origin layout.root ∨ x ∈ way (t.origin layout.root) layout.root.parts ∨
      x <+: layout.base t → t.get? x = some .directory → t'.get? x = some .directory) :
    Rooted t' layout := by
  have hbase := base_of_origin layout horigin
  constructor
  · rw [horigin]
    exact fun x hx => hkept x (.inl hx) (hr.start x hx)
  · rw [hbase, horigin]
    refine hr.leads.congr fun x hx => ?_
    have hdir := h.directory_of_way hr hx
    rw [hkept x (.inr (.inl hx)) hdir, hdir]
  · rw [hbase]
    exact fun x hx => hkept x (.inr (.inr hx)) (hr.grounded x hx)

theorem rewritten (h : Plain t layout) (hr : Rooted t layout) (hfile : Rewritten t t' c) :
    Rooted t' layout :=
  of_kept h hr (origin_of_here hfile.here _) fun _ _ hdir => (hfile.get?_eq (.inl hdir)).trans hdir

theorem relocated (h : Plain t layout) (hr : Rooted t layout) (hd : table.database ≠ [])
    (ht : table.table ≠ []) {updated : Bool} (hm : StoreRelocated t t' layout table old new updated)
    (hapart : RootApart t layout old) : Rooted t' layout := by
  refine of_kept h hr hm.origin fun x hx hdir => ?_
  refine hm.moved.get?_of_some hdir (by simp) hd ht (h.straightTo hd ht) List.not_mem_nil ?_
  rcases hx with hx | hx | hx
  · exact fun hp => hapart.start (hp.trans hx)
  · exact avoids_iff_parts.1 hapart.way x hx
  · intro hp
    have hlen := (hp.trans hx).length_le
    have hthree : (storeNames old).length = 3 := rfl
    rw [goalOf_storeDirectory, List.length_append] at hlen
    omega

end Rooted

end CatalogAdmin
