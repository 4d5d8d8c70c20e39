import CatalogAdmin.Proofs.Layout.Regular
import CatalogAdmin.Proofs.UuidChange.Relocation

/-!
# Moving stores in regular trees

However the move of a store ends, a regular tree stays regular, and nothing under `metadata` changes
(`upkeep_relocateStore`). Both places of the move are in `store`, where no links are, and the link that
is made anew is the link of a table.
-/

namespace CatalogAdmin

open Session FileTree
open CatalogAdmin.Path (solid)

variable {t t' t'' : FileTree} {layout : Layout} {base a b l x : Location} {table : TableName}

/-- Where the tree was regular it still is, and all under `metadata` is as it was. -/
def Upkeep (layout : Layout) (base : Location) (t t' : FileTree) : Prop :=
  Regular t layout.root base → Regular t' layout.root base ∧
    ∀ x, base ++ [metadataName] <+: x → t'.get? x = t.get? x

namespace Upkeep

theorem refl (t : FileTree) : Upkeep layout base t t := fun h => ⟨h, fun _ _ => rfl⟩

theorem trans (h : Upkeep layout base t t') (h' : Upkeep layout base t' t'') :
    Upkeep layout base t t'' := by
  intro hregular
  obtain ⟨hregular', hkept⟩ := h hregular
  obtain ⟨hregular'', hkept'⟩ := h' hregular'
  exact ⟨hregular'', fun x hx => (hkept' x hx).trans (hkept x hx)⟩

end Upkeep

/-! ## The steps of a move -/

theorem place_storeDirectory (h : Regular t layout.root base) {u : Uuid}
    (hl : t.locate false (layout.storeDirectory u) = .ok l) :
    l = base ++ [storeName, u.text.take 3, u.text] := by
  have hsolid : solid [u.text.take 3, u.text] = [u.text.take 3, u.text] := by
    rw [Path.solid_cons u.isName_start.1.1, Path.solid_cons u.isName_text.1.1]
    rfl
  rw [(h.place (layout.below_storeDirectory u) hl).1, hsolid, List.append_assoc]
  rfl

theorem place_dataLink (h : Regular t layout.root base) (hd : table.database ≠ [])
    (ht : table.table ≠ []) (hl : t.locate false (layout.dataLink table) = .ok l) :
    l = base ++ [dataName, escapeName table.database, escapeName table.table] := by
  have hplace := (h.place (layout.below_dataLink table) hl).1
  rw [if_neg ht, solid_nameParts _ (escapeName_not_dots _).1, nameParts_of_ne_nil hd] at hplace
  simpa using hplace

/-- Making the directory above a store. -/
theorem upkeep_openParent (layout : Layout) (base : Location) (new : Uuid) :
    Keeps (Upkeep layout base) (openParent (layout.storeDirectory new)) := by
  intro t hregular
  obtain ⟨seen, n, -, hbase, -⟩ := hregular.route
  have hdir := hregular.directories storeName (by decide)
  have hroute := hbase.comp hregular.grounded.self
    (.enter (isName_of_managed storeName (by decide)) (.inr rfl) hdir .done) (.inr rfl)
  rcases openParent_of_route new hroute hdir with ⟨_, -, -, -, hrun⟩ | hrun | ⟨e, hrun⟩
  · rw [after_of_ok hrun]
    have hplace : base ++ [storeName] ++ [new.text.take 3] = base ++ [storeName, new.text.take 3] := by
      simp
    rw [hplace]
    have hstore := prefix_tops base storeName [new.text.take 3]
    refine ⟨hregular.put ⟨storeName, by decide, hstore⟩ (not_mem_tops (by simp))
      (.inl fun _ => by simp), fun x hx => ?_⟩
    rw [get?_put _ _ _ _ (by simp), if_neg]
    rintro rfl
    exact absurd (eq_of_prefix_tops hx hstore) (by decide)
  · rw [after_of_ok hrun]
    exact Upkeep.refl t hregular
  · rw [after_of_error hrun]
    exact Upkeep.refl t hregular

/-- A move within `store`. -/
theorem FileTree.Renamed.upkeep (h : Renamed t a b t') (ha : base ++ [storeName] <+: a)
    (hb : base ++ [storeName] <+: b) (hane : a ≠ base ++ [storeName]) (hbne : b ≠ base ++ [storeName]) :
    Upkeep layout base t t' := by
  have hanil : a ≠ [] := by
    rintro rfl
    simp at ha
  have hbnil : b ≠ [] := by
    rintro rfl
    simp at hb
  intro hregular
  -- what is neither at one place nor at the other is as it was
  have hkept : ∀ x, ¬ a <+: x → ¬ b <+: x → t'.get? x = t.get? x := by
    intro x hxa hxb
    cases h with
    | same => rfl
    | free => rw [get?_move t hanil hxb, if_neg hxa]
    | replaced => rw [get?_move _ hanil hxb, if_neg hxa, get?_erase t b x hbnil, if_neg hxb]
  have hlinks : ∀ x, t'.IsLink x → t.IsLink x ∨ ∃ rel, t.IsLink (a ++ rel) := by
    rintro x ⟨target, hg⟩
    cases h with
    | same => exact .inl ⟨target, hg⟩
    | free =>
      rcases move_cases hanil hg with ⟨rel, -, hfrom⟩ | hstays
      · exact .inr ⟨rel, target, hfrom⟩
      · exact .inl ⟨target, hstays⟩
    | replaced =>
      rcases move_cases hanil hg with ⟨rel, -, hfrom⟩ | hstays
      · exact .inr ⟨rel, isLink_of_erase hbnil ⟨target, hfrom⟩⟩
      · exact .inl (isLink_of_erase hbnil ⟨target, hstays⟩)
  have hmanaged : ∀ {l}, base ++ [storeName] <+: l → Managed base l := fun hl =>
    ⟨storeName, by decide, hl⟩
  have htop : ∀ {l : Location}, base ++ [storeName] <+: l → l ≠ base ++ [storeName] →
      ∀ top ∈ managedNames, ¬ l <+: base ++ [top] := by
    intro l hl hne top _ hp
    have hlen := hp.length_le
    have hlen' := hl.length_le
    simp only [List.length_append, List.length_singleton] at hlen hlen'
    exact hne (hl.eq_of_length (by simp only [List.length_append, List.length_singleton]; omega)).symm
  refine ⟨hregular.of_changes ?_ (fun x hx => hkept x ?_ ?_) (fun top hmem => ?_) fun x hx _ => ?_,
    fun x hx => hkept x (not_prefix_of_tops (by decide) hx ha) (not_prefix_of_tops (by decide) hx hb)⟩
  · exact h.origin_eq fun hp => hregular.outside ((hmanaged ha).below hp)
  · exact fun hp => hx ((hmanaged ha).below hp)
  · exact fun hp => hx ((hmanaged hb).below hp)
  · rw [hkept _ (htop ha hane top hmem) (htop hb hbne top hmem), hregular.directories top hmem]
  · rcases hlinks x hx with hlink | ⟨rel, hlink⟩
    · exact .inl hlink
    · -- no link is in `store`
      have hstore := ha.trans (List.prefix_append a rel)
      obtain ⟨_, _, hplace⟩ := hregular.links _ hlink (hmanaged hstore)
      rw [hplace] at hstore
      exact absurd (eq_of_prefix_tops hstore (prefix_tops base dataName _)) (by decide)

theorem upkeep_rename (layout : Layout) (base : Location) (old new : Uuid) :
    Keeps (Upkeep layout base)
      (rename (layout.storeDirectory old) (layout.storeDirectory new)) := by
  intro t hregular
  rcases renamed_cases (layout.storeDirectory old) (layout.storeDirectory new) t with
    ⟨e, hrun⟩ | ⟨a, b, t', ha, hb, hrun, hrenamed⟩
  · rw [after_of_error hrun]
    exact Upkeep.refl t hregular
  · rw [after_of_ok hrun]
    have hplace : ∀ {u : Uuid} {l : Location}, l = base ++ [storeName, u.text.take 3, u.text] →
        base ++ [storeName] <+: l ∧ l ≠ base ++ [storeName] := by
      rintro u l rfl
      exact ⟨prefix_tops base storeName _, by simp⟩
    obtain ⟨ha, hane⟩ := hplace (place_storeDirectory hregular ha)
    obtain ⟨hb, hbne⟩ := hplace (place_storeDirectory hregular hb)
    exact hrenamed.upkeep ha hb hane hbne hregular

/-- Making a link anew. -/
theorem upkeep_redirect (hd : table.database ≠ []) (ht : table.table ≠ []) (source target : Path) :
    Keeps (Upkeep layout base) (redirect (layout.dataLink table) source target) := by
  have hplace : ∀ {t l}, Regular t layout.root base →
      t.locate false (layout.dataLink table) = .ok l →
      l = base ++ [dataName, escapeName table.database, escapeName table.table] :=
    fun hregular hl => place_dataLink hregular hd ht hl
  have hdata := prefix_tops base dataName [escapeName table.database, escapeName table.table]
  have hremove : Keeps (Upkeep layout base) (removeFile (layout.dataLink table)) := by
    intro t hregular
    rcases removeFile_cases (layout.dataLink table) t with ⟨e, hrun⟩ | ⟨l, _, hl, _, _, hrun⟩
    · rw [after_of_error hrun]
      exact Upkeep.refl t hregular
    · rw [after_of_ok hrun]
      obtain rfl := hplace hregular hl
      refine ⟨hregular.swept (.of_pruned (.erase hl) (List.mem_singleton_self _)) ?_, fun x hx => ?_⟩
      · intro p hp l hl
        obtain rfl := List.mem_singleton.1 hp
        obtain rfl := hplace hregular hl
        exact ⟨⟨dataName, by decide, hdata⟩, not_mem_tops (by simp)⟩
      · rw [get?_erase _ _ _ (by simp), if_neg (not_prefix_of_tops (by decide) hx hdata)]
  have hmake : Keeps (Upkeep layout base) (makeLink target (layout.dataLink table)) := by
    intro t hregular
    rcases makeLink_cases target (layout.dataLink table) t with ⟨e, hrun⟩ | ⟨l, hl, -, hrun⟩
    · rw [after_of_error hrun]
      exact Upkeep.refl t hregular
    · rw [after_of_ok hrun]
      obtain rfl := hplace hregular hl
      refine ⟨hregular.put ⟨dataName, by decide, hdata⟩ (not_mem_tops (by simp))
        (.inr ⟨_, _, rfl⟩), fun x hx => ?_⟩
      rw [get?_put _ _ _ _ (by simp), if_neg]
      rintro rfl
      exact absurd (eq_of_prefix_tops hx hdata) (by decide)
  have hgive : ∀ answer, Keeps (Upkeep layout base)
      (pure answer : EStateM IoError FileTree (Bool × Bool)) := Keeps.pure Upkeep.refl
  unfold redirect
  refine Keeps.bind Upkeep.trans (fun t => .refl t) fun t => ?_
  split
  · split
    · exact hremove.bind Upkeep.trans fun _ => hmake.bind Upkeep.trans fun _ => hgive _
    · exact hgive _
  · exact hgive _

/-- However the move of a store ends, a regular tree stays regular, and nothing under `metadata`
changes. -/
theorem upkeep_relocateStore (layout : Layout) (base : Location) (hd : table.database ≠ [])
    (ht : table.table ≠ []) (old new : Uuid) :
    Keeps (Upkeep layout base) (relocateStore (layout.dataLink table) (layout.storeDirectory old)
      (layout.storeDirectory new)) := by
  have hlook : ∀ (f : FileTree → Except IoError Bool),
      Keeps (Upkeep layout base) (FileTree.look f) := by
    intro f t
    cases h : f t with
    | ok answer => rw [after_of_ok (look_of_ok h)]; exact .refl t
    | error e => rw [after_of_error (look_of_error h)]; exact .refl t
  rw [relocateStore_eq]
  refine (hlook _).bind Upkeep.trans fun present => ?_
  split
  · exact Keeps.pure Upkeep.refl _
  refine (hlook _).bind Upkeep.trans fun occupied => ?_
  split
  · exact Keeps.throw Upkeep.refl _
  · exact (upkeep_openParent layout base new).bind Upkeep.trans fun _ =>
      (upkeep_rename layout base old new).bind Upkeep.trans fun _ => upkeep_redirect hd ht _ _

end CatalogAdmin
