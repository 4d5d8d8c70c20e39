import CatalogAdmin.Proofs.FileTree.Losses
import CatalogAdmin.Proofs.FileTree.Moves
import CatalogAdmin.Proofs.FileTree.Straight
import CatalogAdmin.Proofs.Layout.Names
import CatalogAdmin.Proofs.Layout.Store
import Mathlib.Data.List.Infix

/-!
# Regular trees

A tree is regular where `metadata`, `data` and `store` are directories under the root, the links of the
tables are the only links in them, and the way to the root does not lead through them. Then every path
of the layout leads to the place of its names (`Regular.place`), and a change inside of these
directories that makes no other links leaves the tree regular (`Regular.of_changes`).
-/

namespace CatalogAdmin

open FileTree
open CatalogAdmin.Path (solid)

/-! ## Paths below the root -/

/-- The names of the directories under the root. -/
def managedNames : List Text := [metadataName, dataName, storeName]

/-- A place in one of the directories under the root, or one of these. -/
def Managed (base x : Location) : Prop := ∃ top ∈ managedNames, base ++ [top] <+: x

instance (base x : Location) : Decidable (Managed base x) :=
  inferInstanceAs (Decidable (∃ top ∈ managedNames, base ++ [top] <+: x))

theorem isName_of_managed : ∀ top ∈ managedNames, IsName top := by
  have hall : ∀ top ∈ managedNames, top ≠ "." ∧ top ≠ ".." ∧ top.byteLength ≤ nameLimit := by decide
  exact hall

theorem Managed.below {base x y : Location} (h : Managed base x) (hy : x <+: y) :
    Managed base y := by
  obtain ⟨top, htop, hx⟩ := h
  exact ⟨top, htop, hx.trans hy⟩

theorem Managed.length_lt {base x : Location} (h : Managed base x) : base.length < x.length := by
  obtain ⟨_, _, hx⟩ := h
  have hlen := hx.length_le
  rw [List.length_append, List.length_singleton] at hlen
  omega

theorem prefix_tops (base : Location) (top : Text) (names : List Text) :
    base ++ [top] <+: base ++ top :: names :=
  ⟨names, by simp⟩

/-- A place is in one of the directories under the root only. -/
theorem eq_of_prefix_tops {base x : Location} {top other : Text} (h : base ++ [top] <+: x)
    (h' : base ++ [other] <+: x) : top = other := by
  obtain ⟨rest, rfl⟩ := h
  rw [List.append_assoc, List.prefix_append_right_inj, List.singleton_append,
    List.cons_prefix_cons] at h'
  exact h'.1.symm

theorem not_prefix_of_tops {base x l : Location} {top other : Text} (hne : top ≠ other)
    (h : base ++ [top] <+: x) (hl : base ++ [other] <+: l) : ¬ l <+: x :=
  fun hp => hne (eq_of_prefix_tops h (hl.trans hp))

/-- The first names below a place start where all of them do. -/
theorem head?_of_prefix_top {base : Location} {top : Text} {front names : List Text}
    (hfront : front <+: names) (hne : front ≠ []) (h : base ++ [top] <+: base ++ front) :
    names.head? = some top := by
  obtain ⟨name, more, rfl⟩ := List.exists_cons_of_ne_nil hne
  obtain ⟨rest, rfl⟩ := hfront
  exact congrArg some (eq_of_prefix_tops (prefix_tops base name more) h)

theorem not_mem_tops {base : Location} {top : Text} {names : List Text} (hne : names ≠ []) :
    base ++ top :: names ∉ managedNames.map (base ++ [·]) := by
  intro hmem
  obtain ⟨_, -, hsame⟩ := List.mem_map.1 hmem
  rw [List.append_cancel_left_eq] at hsame
  exact hne (List.cons.inj hsame).2.symm

/-- A path into one of the directories under the root, by one or two parts, none of which leads up. -/
structure Layout.Below (l : Layout) (p : Path) (top : Text) (rest : List Text) : Prop where
  managed : top ∈ managedNames
  steps : FileTree.steps p = l.root.parts ++ top :: rest
  origin : ∀ t : FileTree, t.origin p = t.origin l.root
  nonempty : rest ≠ []
  short : rest.length ≤ 2
  down : (".." : Text) ∉ rest

theorem length_nameParts (name : Text) : (nameParts name).length ≤ 1 := by
  unfold nameParts
  split <;> simp

/-- The name of a database does not lead up, and what stands behind it may not either. -/
theorem up_not_mem_nameParts (database : Text) {last : Text} (h : last ≠ "..") :
    (".." : Text) ∉ nameParts database ++ [last] := by
  unfold nameParts
  split
  · rw [List.nil_append, List.mem_singleton]
    exact h.symm
  · rw [List.mem_append, List.mem_singleton, List.mem_singleton]
    rintro (hup | hup)
    · exact (escapeName_not_dots database).2 hup.symm
    · exact h hup.symm

/-- Names are no dots. -/
theorem solid_nameParts (database : Text) {last : Text} (h : last ≠ ".") :
    solid (nameParts database ++ [last]) = nameParts database ++ [last] := by
  have hlast : solid [last] = [last] := Path.solid_cons h []
  rw [Path.solid_append, hlast]
  unfold nameParts
  split
  · rfl
  · exact congrArg (· ++ [last]) (Path.solid_cons (escapeName_not_dots database).1 [])

namespace Layout

variable (l : Layout) (table : TableName) (u : Uuid)

theorem below_tableFile : l.Below (l.tableFile table) metadataName
    (nameParts table.database ++ [catalogName table.table]) where
  managed := by decide
  steps := by simp [steps_tableFile, metadataParts]
  origin t := origin_tableFile t l table
  nonempty := by simp
  short := by simpa using length_nameParts table.database
  down := up_not_mem_nameParts _ (catalogName_not_dots table.table).2

theorem below_detachedFlag : l.Below (l.detachedFlag table) metadataName
    (nameParts table.database ++ [flagName table.table]) where
  managed := by decide
  steps := by simp [steps_detachedFlag, metadataParts]
  origin t := origin_detachedFlag t l table
  nonempty := by simp
  short := by simpa using length_nameParts table.database
  down := up_not_mem_nameParts _ (flagName_not_dots table.table).2

theorem below_databaseFile (database : Text) :
    l.Below (l.databaseFile database) metadataName [catalogName database] where
  managed := by decide
  steps := by simp [steps_databaseFile]
  origin t := origin_databaseFile t l database
  nonempty := by simp
  short := by simp
  down := up_not_mem_nameParts [] (catalogName_not_dots database).2

theorem below_dataLink : l.Below (l.dataLink table) dataName
    (nameParts table.database ++
      if table.table = [] then [("." : Text)] else [escapeName table.table]) where
  managed := by decide
  steps := by simp [steps_dataLink, dataParts]
  origin t := origin_dataLink t l table
  nonempty := by split <;> simp
  short := by
    have hlen := length_nameParts table.database
    split <;> simpa using hlen
  down := by
    split
    · exact up_not_mem_nameParts _ (by decide)
    · exact up_not_mem_nameParts _ (escapeName_not_dots table.table).2

theorem below_storeDirectory :
    l.Below (l.storeDirectory u) storeName [u.text.take 3, u.text] where
  managed := by decide
  steps := by simp [steps_storeDirectory, storeParts]
  origin t := origin_storeDirectory t l u
  nonempty := by simp
  short := by simp
  down := by
    intro hup
    simp only [List.mem_cons, List.not_mem_nil, or_false] at hup
    rcases hup with hup | hup
    · exact u.isName_start.1.2.1 hup.symm
    · exact u.isName_text.1.2.1 hup.symm

end Layout

/-! ## Regular trees -/

/-- In `t` the directory of the layout's root is `base`, and the directories under it are regular. -/
structure Regular (t : FileTree) (root : Path) (base : Location) : Prop where
  start : t.Grounded (t.origin root)
  outside : ¬ Managed base (t.origin root)
  route : ∃ seen n, n ≤ linkLimit ∧ t.Leads true (t.origin root) root.parts seen n base ∧
    ∀ x ∈ seen, ¬ Managed base x
  grounded : t.Grounded base
  directories : ∀ top ∈ managedNames, t.get? (base ++ [top]) = some .directory
  links : ∀ x, t.IsLink x → Managed base x →
    ∃ database table, x = base ++ [dataName, database, table]

variable {t t' : FileTree} {layout : Layout} {root p : Path} {base l x : Location} {top : Text}
  {rest : List Text} {seen : List Location}

namespace Regular

/-- A tree is regular where the root's path is one of names that are all directories, and every entry
that is a link is where the link of a table may be. -/
theorem of_entries (root : Path) (hroot : root.isAbsolute = true) (hnames : ∀ part ∈ root.parts, IsName part)
    (habove : ∀ x ∈ root.parts.inits, t.get? x = some .directory)
    (hdirs : ∀ top ∈ managedNames, t.get? (root.parts ++ [top]) = some .directory)
    (hlinks : ∀ e ∈ t.entries, t.IsLink e.1 → Managed root.parts e.1 →
      ∃ database table, e.1 = root.parts ++ [dataName, database, table]) :
    Regular t root root.parts := by
  have hgrounded : t.Grounded root.parts := fun x hx => habove x ((List.mem_inits x _).2 hx)
  have horigin := origin_of_isAbsolute t hroot
  have hdots : ∀ part ∈ root.parts, part ≠ "." ∧ part ≠ ".." := fun part hpart =>
    ⟨(hnames part hpart).1, (hnames part hpart).2.1⟩
  have hway : ∀ x ∈ way [] root.parts, x <+: root.parts := fun x hx => (mem_way_names hdots hx).1
  refine ⟨grounded_origin t hroot, ?_,
    ⟨way [] root.parts, 0, Nat.zero_le _, ?_, fun x hx hm => ?_⟩, hgrounded, hdirs, fun x hx hm => ?_⟩
  · rw [horigin]
    exact fun hm => absurd hm.length_lt (Nat.not_lt_zero _)
  · have hroute : t.Leads true [] root.parts _ 0 (goal [] root.parts) :=
      leads_of_directories (fun part hpart _ _ => hnames part hpart) fun x hx =>
        hgrounded x (hway x hx)
    rw [goal_names [] hdots] at hroute
    rw [horigin]
    exact hroute
  · exact absurd hm.length_lt (Nat.not_lt.2 (hway x hx).length_le)
  · obtain ⟨target, hg⟩ := hx
    have hne : x ≠ [] := by
      rintro rfl
      rw [get?_nil] at hg
      cases hg
    obtain ⟨e, he, rfl⟩ := mem_of_get? hne hg
    exact hlinks e he ⟨target, hg⟩ hm

/-- A path of the layout leads to the place of its names. -/
theorem place (h : Regular t layout.root base) (hp : layout.Below p top rest)
    (hl : t.locate false p = .ok l) :
    l = base ++ [top] ++ solid rest ∧ ∃ seen, t.Leads false (base ++ [top]) rest seen 0 l ∧
      ∀ x ∈ seen, base ++ [top] <+: x ∧ x.length < (base ++ [top]).length + rest.length := by
  obtain ⟨-, _, _, -, hroute⟩ := leads_of_locate hl
  rw [hp.steps, hp.origin] at hroute
  obtain ⟨mid, _, s, _, n, hmid, hlast, -⟩ := hroute.split (by simp) h.start
  obtain ⟨_, _, -, hbase, -⟩ := h.route
  obtain rfl := hmid.unique hbase
  have hdir := h.directories top hp.managed
  rcases hlast.name_cases (isName_of_managed top hp.managed) with
    ⟨hnil, _⟩ | ⟨_, s', _, ⟨_, hrest⟩ | ⟨_, _, hg, _⟩ | ⟨hg, _⟩⟩
  · exact absurd hnil hp.nonempty
  · -- the links of the tables are too deep to be on the way
    have hnear : ∀ x, mid ++ [top] <+: x → x.length < (mid ++ [top]).length + rest.length →
        ¬ t.IsLink x := by
      intro x hx hlen hlink
      obtain ⟨_, _, rfl⟩ := h.links x hlink ⟨top, hp.managed, hx⟩
      have hshort := hp.short
      simp only [List.length_append, List.length_cons, List.length_nil] at hlen
      omega
    obtain ⟨hl, rfl, hseen⟩ := hrest.down hp.down hnear
    exact ⟨hl, s', hrest, hseen⟩
  · rw [hdir] at hg; cases hg
  · rcases hg with hg | ⟨_, hg⟩ <;> rw [hdir] at hg <;> cases hg

/-- The route of a path of the layout. -/
theorem leads (h : Regular t layout.root base) (hp : layout.Below p top rest)
    (hroute : t.Leads false (base ++ [top]) rest seen 0 l) :
    ∃ passed n, n ≤ linkLimit ∧ t.Leads false (t.origin p) (steps p) passed n l ∧
      ∀ x ∈ passed, ¬ Managed base x ∨ x = base ++ [top] ∨ x ∈ seen := by
  obtain ⟨before, n, hn, hbase, hbefore⟩ := h.route
  have henter : t.Leads false base (top :: rest) ((base ++ [top]) :: seen) 0 l :=
    .enter (isName_of_managed top hp.managed) (.inl hp.nonempty) (h.directories top hp.managed) hroute
  have hwhole := hbase.comp h.grounded.self henter (.inl (by simp))
  rw [← hp.steps, ← hp.origin t] at hwhole
  refine ⟨_, n, hn, hwhole, fun x hx => ?_⟩
  rcases List.mem_append.1 hx with hx | hx
  · exact .inl (hbefore x hx)
  · exact .inr (List.mem_cons.1 hx)

/-- A path that can be walked leads to the end of a route from the directory under the root. -/
theorem locate_eq (h : Regular t layout.root base) (hp : layout.Below p top rest) (hw : Walkable p)
    (hroute : t.Leads false (base ++ [top]) rest seen 0 l) : t.locate false p = .ok l := by
  obtain ⟨_, _, hn, hwhole, -⟩ := h.leads hp hroute
  exact locate_eq_of_leads hw hwhole hn

theorem not_isLink_metadata (h : Regular t root base) (hx : base ++ [metadataName] <+: x) :
    ¬ t.IsLink x := by
  intro hlink
  obtain ⟨_, _, rfl⟩ := h.links x hlink ⟨metadataName, by decide, hx⟩
  exact absurd (eq_of_prefix_tops hx (prefix_tops base dataName _)) (by decide)

/-- A file that a path under `metadata` names stands at the place of the names. -/
theorem file_place (h : Regular t layout.root base) (hp : layout.Below p metadataName rest) {f : File}
    (hf : t.stat true p = .ok (.file f)) :
    Walkable p ∧ t.get? (base ++ [metadataName] ++ solid rest) = some (.file f) ∧
      ∃ seen, t.Leads false (base ++ [metadataName]) rest seen 0
          (base ++ [metadataName] ++ solid rest) ∧
        ∀ x ∈ seen, base ++ [metadataName] <+: x ∧
          x.length < (base ++ [metadataName]).length + rest.length := by
  obtain ⟨l, hl, hg⟩ := exists_of_stat hf
  obtain ⟨place, hplace⟩ := exists_place hl
  obtain ⟨rfl, seen, hroute, hseen⟩ := h.place hp hplace
  have hfollow := locate_follow hplace fun target hlink =>
    h.not_isLink_metadata (List.prefix_append _ _) ⟨target, hlink⟩
  cases hfollow.symm.trans hl
  exact ⟨(leads_of_locate hl).1, hg, seen, hroute, hseen⟩

/-- Where a path under `metadata` named a file, it leads to the same place in any regular tree in which
no directory of `metadata` is missing. -/
theorem locate_kept (h : Regular t layout.root base) (h' : Regular t' layout.root base)
    (hp : layout.Below p metadataName rest) {f : File} (hf : t.stat true p = .ok (.file f))
    (hkept : ∀ name, t.get? (base ++ [metadataName, name]) = some .directory →
      t'.get? (base ++ [metadataName, name]) = some .directory) :
    t'.locate false p = .ok (base ++ [metadataName] ++ solid rest) := by
  obtain ⟨hw, -, seen, hroute, hseen⟩ := h.file_place hp hf
  refine h'.locate_eq hp hw (hroute.congr fun x hx => ?_)
  obtain ⟨hbelow, hlen⟩ := hseen x hx
  have hdir : t.get? x = some .directory := by
    rcases hroute.passed (.inl rfl) hx with hg | hlink
    · exact hg
    · exact absurd hlink (h.not_isLink_metadata hbelow)
  rw [hdir]
  -- the route is so short that it passes no more than the directory of a database
  obtain ⟨more, rfl⟩ := hbelow
  rcases more with _ | ⟨name, _ | ⟨_, _⟩⟩
  · rw [List.append_nil]
    exact h'.directories metadataName (by decide)
  · rw [List.append_assoc, List.singleton_append] at hdir ⊢
    exact hkept name hdir
  · have hshort := hp.short
    simp only [List.length_append, List.length_cons, List.length_nil] at hlen
    omega

theorem not_managed_base (base : Location) : ¬ Managed base base := fun hm =>
  Nat.lt_irrefl _ hm.length_lt

/-- A change inside of the directories under the root leaves the tree regular, if these are still there
and there are no links but those of tables. -/
theorem of_changes (h : Regular t root base) (horigin : t'.origin root = t.origin root)
    (hout : ∀ x, ¬ Managed base x → t'.get? x = t.get? x)
    (hdirs : ∀ top ∈ managedNames, t'.get? (base ++ [top]) = some .directory)
    (hlinks : ∀ x, t'.IsLink x → Managed base x →
      t.IsLink x ∨ ∃ database table, x = base ++ [dataName, database, table]) :
    Regular t' root base := by
  obtain ⟨seen, n, hn, hroute, hseen⟩ := h.route
  refine ⟨?_, ?_, ⟨seen, n, hn, ?_, hseen⟩, ?_, hdirs, fun x hx hm => ?_⟩
  · rw [horigin]
    intro x hx
    rw [hout x fun hm => h.outside (hm.below hx), h.start x hx]
  · rw [horigin]
    exact h.outside
  · rw [horigin]
    exact hroute.congr fun x hx => hout x (hseen x hx)
  · intro x hx
    rw [hout x fun hm => not_managed_base base (hm.below hx), h.grounded x hx]
  · rcases hlinks x hx hm with hlink | hplace
    · exact h.links x hlink hm
    · exact hplace

/-- Places above the directories under the root are not in them. -/
theorem not_prefix_top (hl : Managed base l) (hne : l ∉ managedNames.map (base ++ [·]))
    (htop : top ∈ managedNames) : ¬ l <+: base ++ [top] := by
  intro hp
  have hlen := hp.length_le
  have hlonger := hl.length_lt
  rw [List.length_append, List.length_singleton] at hlen
  have hsame : l = base ++ [top] :=
    hp.eq_of_length (by rw [List.length_append, List.length_singleton]; omega)
  exact hne (List.mem_map.2 ⟨top, htop, hsame.symm⟩)

/-- What is removed below the directories under the root leaves the tree regular. -/
theorem swept {paths : List Path} (h : Regular t root base) (hswept : Swept t t' paths)
    (hl : ∀ p ∈ paths, ∀ l, t.locate false p = .ok l →
      Managed base l ∧ l ∉ managedNames.map (base ++ [·])) : Regular t' root base := by
  refine h.of_changes (origin_of_here hswept.within.here root) (fun x hx => hswept.kept x ?_) (fun top htop => ?_)
    fun x hx _ => .inl ?_
  · exact fun p hp l hplace hbelow => hx ((hl p hp l hplace).1.below hbelow)
  · rw [hswept.kept _ fun p hp l hplace =>
      not_prefix_top (hl p hp l hplace).1 (hl p hp l hplace).2 htop, h.directories top htop]
  · obtain ⟨target, hg⟩ := hx
    exact ⟨target, hswept.within.kept x _ hg⟩

/-- What is put below the directories under the root leaves the tree regular, if it is no link or where
the link of a table may be. -/
theorem put (h : Regular t root base) {node : Node} (hl : Managed base l)
    (hne : l ∉ managedNames.map (base ++ [·]))
    (hnode : (∀ target, node ≠ .link target) ∨
      ∃ database table, l = base ++ [dataName, database, table]) :
    Regular (t.put l node) root base := by
  have hnil : l ≠ [] := by
    rintro rfl
    exact absurd hl.length_lt (Nat.not_lt_zero _)
  have hget := fun x => get?_put t l x node hnil
  refine h.of_changes rfl (fun x hx => ?_) (fun top htop => ?_) fun x hx _ => ?_
  · rw [hget, if_neg]
    rintro rfl
    exact hx hl
  · rw [hget, if_neg, h.directories top htop]
    rintro rfl
    exact hne (List.mem_map.2 ⟨top, htop, rfl⟩)
  · obtain ⟨target, hg⟩ := hx
    rw [hget] at hg
    split at hg
    · next hsame =>
      cases hg
      rcases hnode with hnode | hplace
      · exact absurd rfl (hnode target)
      · exact .inr (hsame ▸ hplace)
    · exact .inl ⟨target, hg⟩

/-- A file put in the place of a file, wherever that is, leaves the tree regular. -/
theorem put_file (h : Regular t root base) {f : File} (f' : File) (ho : t.Grounded (t.origin p))
    (hf : t.stat true p = .ok (.file f)) (hplace : t.locate false p = .ok l) :
    Regular (t.put l (.file f')) root base := by
  have hnil := place_ne_nil hf hplace
  have hget := fun x => get?_put t l x (.file f') hnil
  have hkept : ∀ x, t.get? x = some .directory → (t.put l (.file f')).get? x = some .directory := by
    intro x hx
    rw [hget, if_neg, hx]
    rintro rfl
    exact (get?_place hf hplace).2 hx
  obtain ⟨seen, n, hn, hroute, hseen⟩ := h.route
  refine ⟨fun x hx => hkept x (h.start x hx), h.outside, ⟨seen, n, hn, ?_, hseen⟩,
    fun x hx => hkept x (h.grounded x hx), fun top htop => hkept _ (h.directories top htop), ?_⟩
  · exact hroute.put_place ho hf hplace h.start (.inr h.grounded.self)
  · rintro x ⟨target, hg⟩ hm
    rw [hget] at hg
    split at hg
    · cases hg
    · exact h.links x ⟨target, hg⟩ hm

end Regular

end CatalogAdmin
