import CatalogAdmin.Proofs.Disk.Removal
import CatalogAdmin.Rehearsal

/-!
# The disks a server lists

The disks a server lists are taken up in its order, those that are excluded left out, until one has the
role of a disk before it (`FirstClash`). There is such a disk if and only if one of the roles is that of
more than one disk (`classify_cases`), which is a matter of numbers alone: neither the order nor the
excluded disks make a difference to `OnePerRole`.

* `Session.listDisks_reported`: when a server's disks are listed, which ones these are, and which two of
  them are to blame otherwise.
-/

namespace CatalogAdmin

/-! ## Inventories -/

/-- A disk and its type, from a row. -/
def diskOf? (row : Row) : Option (Text × Text) := do
  return (← row.text? "name", ← row.text? "type")

/-- The role of a disk in an inventory. -/
def roleOf (d : Text × Text) : DiskRole := .ofType d.2

/-- A disk in an inventory. -/
def diskFrom (d : Text × Text) : Disk := ⟨d.1, d.2, roleOf d⟩

/-- The part of an inventory that is not excluded. -/
def included (site : Site) (inventory : List (Text × Text)) : List (Text × Text) :=
  inventory.filter fun d => !site.settings.disks.excluded.contains d.1

/-- The disks of an inventory that are not excluded, in its order. -/
def includedDisks (site : Site) (inventory : List (Text × Text)) : List Disk :=
  (inventory.filter fun d => !site.settings.disks.excluded.contains d.1).map fun d =>
    ⟨d.1, d.2, .ofType d.2⟩

/-- At most one disk is of an object storage type, and at most one of any other type. -/
def OnePerRole (inventory : List (Text × Text)) : Prop :=
  inventory.countP (objectStorageTypes.contains ·.2) ≤ 1 ∧
    inventory.countP (!objectStorageTypes.contains ·.2) ≤ 1

instance (inventory : List (Text × Text)) : Decidable (OnePerRole inventory) :=
  inferInstanceAs (Decidable (_ ∧ _))

/-- The first disk that has the role of a disk before it, and that disk. -/
inductive FirstClash : List (Text × Text) → RoleClash → Prop
  | mk {before between after : List (Text × Text)} {first second : Text × Text} :
      OnePerRole (before ++ first :: between) → roleOf first = roleOf second →
      FirstClash (before ++ first :: between ++ second :: after) ⟨roleOf first, first.1, second.1⟩

variable {inventory other : List (Text × Text)}

theorem roleOf_cases (d : Text × Text) :
    d.2 ∈ objectStorageTypes ∧ roleOf d = .objectStorage ∨
    d.2 ∉ objectStorageTypes ∧ roleOf d = .local := by
  unfold roleOf DiskRole.ofType
  split
  · next h => exact .inl ⟨h, rfl⟩
  · next h => exact .inr ⟨h, rfl⟩

theorem count_roles {role : DiskRole} {p : Text × Text → Bool}
    (h : ∀ d, roleOf d = role ↔ p d = true) : (inventory.map roleOf).count role = inventory.countP p := by
  rw [List.count, List.countP_map]
  refine List.countP_congr fun d _ => ?_
  rw [Function.comp, beq_iff_eq, h d]

/-- No role is that of two disks. -/
theorem onePerRole_iff : OnePerRole inventory ↔ (inventory.map roleOf).Nodup := by
  have hobject : ∀ d, roleOf d = .objectStorage ↔ objectStorageTypes.contains d.2 = true := by
    intro d
    rcases roleOf_cases d with ⟨htype, hrole⟩ | ⟨htype, hrole⟩ <;> simp [htype, hrole]
  have hlocal : ∀ d, roleOf d = .local ↔ (!objectStorageTypes.contains d.2) = true := by
    intro d
    rcases roleOf_cases d with ⟨htype, hrole⟩ | ⟨htype, hrole⟩ <;> simp [htype, hrole]
  rw [OnePerRole, ← count_roles hobject, ← count_roles hlocal, List.nodup_iff_count]
  refine ⟨?_, fun h => ⟨h _, h _⟩⟩
  rintro ⟨h, h'⟩ (_ | _)
  · exact h'
  · exact h

theorem OnePerRole.perm (h : inventory.Perm other) : OnePerRole inventory ↔ OnePerRole other := by
  rw [OnePerRole, OnePerRole, h.countP_eq, h.countP_eq]

/-- A disk may be added whose role no disk has. -/
theorem onePerRole_concat {d : Text × Text} (h : OnePerRole inventory)
    (hd : ∀ e ∈ inventory, roleOf e ≠ roleOf d) : OnePerRole (inventory ++ [d]) := by
  rw [onePerRole_iff] at h ⊢
  rw [List.map_append, List.nodup_append]
  refine ⟨h, by simp, ?_⟩
  rintro role hrole _ hlast rfl
  obtain ⟨e, he, rfl⟩ := List.mem_map.1 hrole
  exact hd e he (List.mem_singleton.1 hlast)

theorem FirstClash.not_onePerRole {clash : RoleClash} (h : FirstClash inventory clash) :
    ¬ OnePerRole inventory := by
  obtain ⟨-, hsame⟩ := h
  rw [onePerRole_iff, List.map_append, List.map_append, List.nodup_append]
  rintro ⟨-, -, hapart⟩
  exact hapart _ (by simp) _ (by simp) hsame

/-! ## Taking up disks -/

/-- One more disk is taken up unless its role is taken. -/
theorem classifyAfter_cases {done : List (Text × Text)} (hdone : OnePerRole done)
    (rows : List (Text × Text)) :
    (OnePerRole (done ++ rows) ∧
      classifyAfter (done.map diskFrom) rows = .ok ((done ++ rows).map diskFrom)) ∨
    ∃ clash, FirstClash (done ++ rows) clash ∧
      classifyAfter (done.map diskFrom) rows = .error clash := by
  induction rows generalizing done with
  | nil => exact .inl ⟨by rwa [List.append_nil], by rw [List.append_nil, classifyAfter]⟩
  | cons row more ih =>
    have hfind : (done.map diskFrom).find? (·.role = DiskRole.ofType row.2) =
        (done.find? (roleOf · = roleOf row)).map diskFrom := List.find?_map
    rw [classifyAfter, hfind]
    cases htaken : done.find? (roleOf · = roleOf row) with
    | none =>
      have hfree : ∀ d ∈ done, roleOf d ≠ roleOf row := fun d hd =>
        of_decide_eq_false (by simpa using List.find?_eq_none.1 htaken d hd)
      have hmore := ih (onePerRole_concat hdone hfree)
      simp only [List.append_assoc, List.singleton_append, List.map_append, List.map_cons,
        List.map_nil] at hmore ⊢
      exact hmore
    | some first =>
      obtain ⟨hrole, before, between, rfl, -⟩ := List.find?_eq_some_iff_append.1 htaken
      refine .inr ⟨⟨roleOf first, first.1, row.1⟩, .mk hdone (of_decide_eq_true hrole), ?_⟩
      rw [of_decide_eq_true hrole]
      rfl

/-- Disks are taken up, each with the role of its type, until two would have the same. -/
theorem classify_cases (rows : List (Text × Text)) :
    (OnePerRole rows ∧ classify rows = .ok (rows.map diskFrom)) ∨
    ∃ clash, FirstClash rows clash ∧ classify rows = .error clash := by
  have hnone : OnePerRole [] := by decide
  exact classifyAfter_cases hnone rows

theorem classify_of_ok {rows : List (Text × Text)} {disks : List Disk} (h : classify rows = .ok disks) :
    disks = rows.map diskFrom := by
  rcases classify_cases rows with ⟨-, hok⟩ | ⟨clash, -, herror⟩
  · rw [hok] at h
    cases h
    rfl
  · rw [herror] at h
    cases h

/-! ## Listing disks -/

/-- Asked for its disks in some world, the server gives an inventory. -/
def Reports (site : Site) (w : World) (inventory : List (Text × Text)) : Prop :=
  ∃ rows tree, site.server.answer w.sent (inventoryQuery site) w.tree = (.ok rows, tree) ∧
    rows.mapM diskOf? = some inventory

/-- A disk as the server writes it. -/
def inventoryRow (d : Text × Text) : Row := [("name", .string d.1), ("type", .string d.2)]

/-- A site whose server gives an inventory, some disks of which are excluded. -/
def listingSite (excluded : List Text) (inventory : List (Text × Text)) : Site :=
  ⟨{ disks := { excluded } }, .ofAnswers fun _ _ => .ok (inventory.map inventoryRow),
    Rehearsal.remover [] []⟩

/-- Any inventory may be given. -/
theorem reports_listingSite (excluded : List Text) (inventory : List (Text × Text)) (w : World) :
    Reports (listingSite excluded inventory) w inventory := by
  refine ⟨_, w.tree, rfl, ?_⟩
  induction inventory with
  | nil => rfl
  | cons d more ih =>
    have hrow : diskOf? (inventoryRow d) = some d := rfl
    rw [List.map_cons, List.mapM_cons, hrow, ih]
    rfl

namespace Session

variable {site : Site} {w : World}

/-- The listing of disks takes up those that are not excluded. -/
theorem listDisks_cases (h : Reports site w inventory) :
    (OnePerRole (included site inventory) ∧
      ∃ w', listDisks site w = .ok (includedDisks site inventory) w') ∨
    ∃ clash w', FirstClash (included site inventory) clash ∧
      listDisks site w = .error (.diskLayout clash) w' := by
  obtain ⟨rows, tree, hanswer, hrows⟩ := h
  let w' : World := { w with tree, sent := w.sent ++ [inventoryQuery site] }
  have hfetch : fetch site.server (inventoryQuery site).query w = .ok rows w' := by
    show send site.server (inventoryQuery site) w = _
    rw [send, hanswer]
  have hread : fetchAs site.server diskOf? (inventoryQuery site).query w = .ok inventory w' := by
    rw [fetchAs, bind_of_ok hfetch, readRows, hrows]
    rfl
  have htask := adaptExcept_of_ok (g := TableError.ofClient .listingDisks) hread
  rcases classify_cases (included site inventory) with ⟨hone, hok⟩ | ⟨clash, hclash, herror⟩
  · refine .inl ⟨hone, w', (bind_of_ok htask).trans ?_⟩
    unfold included at hok
    rw [hok]
    rfl
  · refine .inr ⟨clash, w', hclash, (bind_of_ok htask).trans ?_⟩
    unfold included at herror
    rw [herror]
    rfl

theorem listDisks_ok_iff (h : Reports site w inventory) :
    (∃ disks w', listDisks site w = .ok disks w') ↔ OnePerRole (included site inventory) := by
  rcases listDisks_cases h with ⟨hone, w', hok⟩ | ⟨clash, w', hclash, herror⟩
  · exact iff_of_true ⟨_, w', hok⟩ hone
  · refine iff_of_false ?_ hclash.not_onePerRole
    rintro ⟨disks, v, hok⟩
    rw [herror] at hok
    cases hok

/-- Where a server gives an inventory, its disks are listed if and only if at most one that is not excluded
is object storage and at most one is not. The list is that of these disks, each with the role of its type;
otherwise the first one of them is blamed that has the role of a disk before it, with that disk. An
inventory in another order or with other excluded disks is listed likewise. -/
theorem listDisks_reported (h : Reports site w inventory) :
    ((∃ disks w', listDisks site w = .ok disks w') ↔ OnePerRole (included site inventory)) ∧
    (∀ disks w', listDisks site w = .ok disks w' → disks = includedDisks site inventory) ∧
    (∀ e w', listDisks site w = .error e w' →
      ∃ clash, e = .diskLayout clash ∧ FirstClash (included site inventory) clash) ∧
    ∀ (site' : Site) (v : World) (other : List (Text × Text)), Reports site' v other →
      (included site' other).Perm (included site inventory) →
      ((∃ disks v', listDisks site' v = .ok disks v') ↔ ∃ disks w', listDisks site w = .ok disks w') := by
  have hiff := listDisks_ok_iff h
  refine ⟨hiff, ?_, ?_, fun site' v other hother hperm => ?_⟩
  · intro disks w' hok
    rcases listDisks_cases h with ⟨-, v, hrun⟩ | ⟨clash, v, -, hrun⟩
    · rw [hrun] at hok
      cases hok
      rfl
    · rw [hrun] at hok
      cases hok
  · intro e w' herror
    rcases listDisks_cases h with ⟨-, v, hrun⟩ | ⟨clash, v, hclash, hrun⟩
    · rw [hrun] at herror
      cases herror
    · rw [hrun] at herror
      cases herror
      exact ⟨clash, rfl, hclash⟩
  · rw [hiff, listDisks_ok_iff hother, OnePerRole.perm hperm]

/-- Two disks of one role are no harm if one of them is excluded, and only then. -/
theorem listDisks_reported_excluded :
    let inventory : List (Text × Text) :=
      [("default", "Local"), ("cache", "s3"), ("hdd", "Local"), ("s3_cold", "s3")]
    let w : World := { tree := { entries := [] } }
    (∃ w', listDisks (listingSite ["cache", "hdd"] inventory) w =
      .ok [⟨"default", "Local", .local⟩, ⟨"s3_cold", "s3", .objectStorage⟩] w') ∧
    ¬ ∃ disks w', listDisks (listingSite ["cache"] inventory) w = .ok disks w' := by
  intro inventory w
  obtain ⟨hiff, hok, -⟩ := listDisks_reported (reports_listingSite ["cache", "hdd"] inventory w)
  obtain ⟨disks, w', hrun⟩ := hiff.2 (by decide)
  have hdisks := hok disks w' hrun
  subst hdisks
  obtain ⟨hiff', -⟩ := listDisks_reported (reports_listingSite ["cache"] inventory w)
  exact ⟨⟨w', hrun⟩, mt hiff'.1 (by decide)⟩

end Session

end CatalogAdmin
