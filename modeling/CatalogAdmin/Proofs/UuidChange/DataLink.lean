import CatalogAdmin.Proofs.UuidChange.Effect
import CatalogAdmin.Proofs.UuidChange.FreeMove

/-!
# The link to a store that moves

A change of UUID that moves the store of a table also makes the table's link anew, if that points to the
store. Whether it does is told by its text alone: it must go through the components of the store's path
(`Points`). What this means for a link that led to the store is said by `changeUuid_dataLink`:

1. By any other text it leads nowhere when the store has moved (`Moving.link_left`). A text may be
   relative, hold a `..` or go through another link, and lead to the store nevertheless.
2. With this text it is made anew (`Moving.link_again`), unless the way to it is through the store itself.
   If the root is absolute it leads to the store at its new place then (`Moving.link_follows`), unless the
   way to the directory of the new place is through the store.

The text of a link does not start from where the program does, so with a relative root nothing can be said
of where a link that is made anew leads.
-/

namespace CatalogAdmin

open Session FileTree
open CatalogAdmin.Path (solid)

namespace FileTree

variable {t t' t₂ t₃ : FileTree} {layout : Layout} {old new : Uuid} {follow : Bool}
  {a b dir l place : Location} {parts : List Text} {seen : List Location} {n : Nat}
  {link stored p : Path} {answer : Bool × Bool} {f f' : File}

/-! ## Ways past a place -/

/-- A way that is there without what is at a place leads past that. -/
theorem Leads.of_erase (ha : a ≠ []) (h : (t.erase a).Leads follow dir parts seen n l)
    (hend : follow = false ∨ (t.erase a).get? l ≠ none) :
    t.Leads follow dir parts seen n l ∧ ∀ x ∈ seen, ¬ a <+: x := by
  have hpast : ∀ x ∈ seen, ¬ a <+: x := by
    intro x hx hp
    refine h.get?_ne_none hend hx ?_
    rw [get?_erase t a x ha, if_pos hp]
  refine ⟨h.congr fun x hx => ?_, hpast⟩
  rw [get?_erase t a x ha, if_neg (hpast x hx)]

/-- A directory outside of a place that is found without what is there is found past it. -/
theorem exists_way_past (hp : p.isAbsolute = true) (ha : a ≠ []) (hl : t.locate true p = .ok l)
    (hdir : t.get? l = some .directory) (hoff : ¬ a <+: l)
    (hfound : (t.erase a).locate true p = t.locate true p) :
    ∃ seen n, n ≤ linkLimit ∧ t.Leads true [] (steps p) seen n l ∧ ∀ x ∈ seen, ¬ a <+: x := by
  rw [hl] at hfound
  obtain ⟨-, seen, n, hn, hr⟩ := leads_of_locate_absolute hp hfound
  have hthere : (t.erase a).get? l ≠ none := by
    rw [get?_erase t a l ha, if_neg hoff, hdir]
    simp
  obtain ⟨hr, hpast⟩ := hr.of_erase ha (.inr hthere)
  exact ⟨seen, n, hn, hr, hpast⟩

/-- A place for something new that is found without what is at some other place is found past that. -/
theorem exists_way_past_to_nothing (hp : p.isAbsolute = true) (ha : a ≠ [])
    (hl : t.locate false p = .ok l) (hnothing : t.get? l = none)
    (hfound : (t.erase a).locate true p = t.locate true p) :
    ∃ seen n, n ≤ linkLimit ∧ t.Leads false [] (steps p) seen n l ∧ ∀ x ∈ seen, ¬ a <+: x := by
  rw [locate_follow hl (by rw [hnothing]; simp)] at hfound
  obtain ⟨named, hnamed⟩ := exists_place hfound
  obtain ⟨-, seen, n, hn, hr⟩ := leads_of_locate_absolute hp hnamed
  obtain ⟨hr, hpast⟩ := hr.of_erase ha (.inl rfl)
  obtain ⟨-, _, _, -, hr'⟩ := leads_of_locate_absolute hp hl
  exact ⟨seen, n, hn, hr.unique hr' ▸ hr, hpast⟩

/-! ## A link with another text -/

namespace Moving

variable (h : Moving t t₂ t₃ layout old new a b)

include h

/-- A link that led to the store by another text is not made anew, and leads nowhere. -/
theorem link_left (hstart : t.Grounded (t.origin link)) (hout : ¬ a <+: t.origin link)
    (hdir : t.get? a = some .directory)
    (hread : t.readLink link = .ok stored) (hto : t.locate true link = .ok a)
    (hother : stored.components ≠ (layout.storeDirectory old).components)
    (hredirect : redirect link (layout.storeDirectory old) (layout.storeDirectory new) t₃ =
      .ok answer t') :
    answer = (true, false) ∧ ∀ node, t'.stat true link ≠ .ok node := by
  obtain ⟨l, hl, hg⟩ := exists_of_readLink hread
  obtain ⟨-, _, _, -, hr⟩ := leads_of_locate hl
  obtain ⟨-, _, _, -, hwhole⟩ := leads_of_locate hto
  have horigin := h.origin_eq hout
  rcases redirect_of_ok hredirect with ⟨rfl, rfl, -⟩ | ⟨-, ⟨current, hnow, hsame⟩, -⟩
  · -- the link leads where it led before, and there is nothing any more
    refine ⟨rfl, fun node hstat => ?_⟩
    obtain ⟨l', hl', hnode⟩ := exists_of_stat hstat
    obtain ⟨-, _, _, -, hr'⟩ := leads_of_locate hl'
    rw [horigin] at hr'
    obtain rfl := h.eq_of_leads hstart hwhole (.inr hdir) hr' (.inr (by simp [hnode]))
    cases h.get?_source.symm.trans hnode
  · -- a link that was made anew was found with the text that it had before
    obtain ⟨l', hl', hg'⟩ := exists_of_readLink hnow
    obtain ⟨-, _, _, -, hr'⟩ := leads_of_locate hl'
    rw [horigin] at hr'
    obtain rfl := h.eq_of_leads hstart hr (.inl rfl) hr' (.inl rfl)
    rw [h.get?_passed hstart hwhole (.inr hdir) (hr.mem_of_link hstart hg hwhole)] at hg'
    split at hg'
    · cases hg'
    · cases hg.symm.trans hg'
      exact absurd hsame hother

/-! ## A link with the text of the path -/

/-- A way to a directory that leads past the store is there after the move. -/
theorem leads_past (hd : t.Grounded dir) (hr : t.Leads follow dir parts seen n l)
    (hend : follow = false ∨ t.get? l = some .directory) (hpast : ∀ x ∈ seen, ¬ a <+: x) :
    t₃.Leads follow dir parts seen n l :=
  hr.congr fun x hx => by rw [h.get?_passed hd hr hend hx, if_neg (hpast x hx)]

theorem get?_target (hdir : t.get? a = some .directory) : t₃.get? b = some .directory := by
  rw [h.renamed.get?_target, h.opened.get?_of_some hdir]

/-- The store is moved into a directory that the path above its own leads to. -/
theorem exists_parent_room (hroot : layout.root.isAbsolute = true) : ∃ parent room seen n,
    (layout.storeDirectory new).parent? = some parent ∧ parent.isAbsolute = true ∧
    Walkable parent ∧ n ≤ linkLimit ∧
    solid (steps parent) = solid (layout.storeParts ++ [new.text.take 3]) ∧
    t₂.Leads true [] (steps parent) seen n room ∧ t₂.Grounded room ∧ b = room ++ [new.text] := by
  obtain ⟨parent, front, hparent, habs, -, hsteps, hfront⟩ := layout.exists_parent_storeDirectory new
  replace habs := habs.trans hroot
  have hsolid : solid (steps parent) = solid (layout.storeParts ++ [new.text.take 3]) := by
    rw [hsteps, Path.solid_append, Path.solid_append, hfront]
  obtain ⟨hw, -⟩ := leads_of_locate h.target
  obtain ⟨room, seen, n, hn, hroom, hgr, hb⟩ := exists_room (h.opened.start h.start) h.target
  rw [origin_of_isAbsolute t₂ hroot] at hroom
  exact ⟨parent, room, seen, n, hparent, habs,
    layout.walkable_parent hparent (text_ne_nil_of_isAbsolute habs) hw, hn, hsolid,
    hroom.of_solid_eq hgr.self hsolid, hgr, hb⟩

omit h in
/-- The link with the text of the old path is made anew. -/
theorem link_again (hread : t₃.readLink link = .ok stored)
    (hsame : stored.components = (layout.storeDirectory old).components)
    (hredirect : redirect link (layout.storeDirectory old) (layout.storeDirectory new) t₃ =
      .ok answer t') :
    answer = (true, true) ∧ t'.readLink link = .ok (layout.storeDirectory new) := by
  rcases redirect_of_ok hredirect with ⟨-, -, hpoints⟩ | ⟨rfl, -, l, hl, hagain, rfl⟩
  · exact absurd ⟨stored, hread, hsame⟩ hpoints
  obtain ⟨found, hfound, hg⟩ := exists_of_readLink hread
  obtain rfl : l = found := Except.ok.inj (hl.symm.trans hfound)
  have hne : l ≠ [] := by
    rintro rfl
    rw [get?_nil] at hg
    cases hg
  have hfree : (t₃.erase l).get? l = none := by
    rw [get?_erase _ _ _ hne, if_pos (List.prefix_refl l)]
  exact ⟨rfl, readLink_of_get? (locate_put_free hfree _ hagain) (by rw [get?_put _ _ _ _ hne, if_pos rfl])⟩

/-- Where the new path leads to the store, the link with the text of the old path leads there as well when
it is made anew. -/
theorem link_follows (hroot : layout.root.isAbsolute = true) (habs : link.isAbsolute = true)
    (hdir : t.get? a = some .directory) (hread : t₃.readLink link = .ok stored)
    (hsame : stored.components = (layout.storeDirectory old).components) (hn : n ≤ linkLimit)
    (hnew : t₃.Leads true [] (steps (layout.storeDirectory new)) seen n b) (hb : b ∈ seen)
    (hredirect : redirect link (layout.storeDirectory old) (layout.storeDirectory new) t₃ =
      .ok answer t') :
    t'.locate true (layout.storeDirectory new) = .ok b ∧ t'.get? b = some .directory ∧
      (t'.locate true link = .ok b ∨ t'.locate true link = .error .tooManyLinks) := by
  have hsource := layout.isAbsolute_storeDirectory old hroot
  have htarget := layout.isAbsolute_storeDirectory new hroot
  obtain ⟨hw, -⟩ := leads_of_locate h.target
  rcases redirect_of_ok hredirect with ⟨-, -, hpoints⟩ | ⟨-, -, found, hfound, -, rfl⟩
  · exact absurd ⟨stored, hread, hsame⟩ hpoints
  obtain ⟨l, hl, hg⟩ := exists_of_readLink hread
  have hne : l ≠ [] := by
    rintro rfl
    rw [get?_nil] at hg
    cases hg
  obtain rfl : l = found := Except.ok.inj (hl.symm.trans hfound)
  have hgone := fun {seen n m} (hr : t₃.Leads true [] (steps (layout.storeDirectory old)) seen n m) =>
    h.not_leads_to_source (h.outside hroot) ((origin_of_isAbsolute t hroot).symm ▸ hr)
  -- no way to a directory is through the link, and so none changes when it is made anew
  have off := fun {follow parts seen n m}
      (hr : t₃.Leads follow [] parts seen n m) (hend : follow = false ∨ t₃.get? m = some .directory)
      {x} (hx : x ∈ seen) =>
    link_off_route hsource hgone hg hsame hr hend hx
  have kept := fun {x} (hx : ¬ l <+: x) => get?_relink t₃ (layout.storeDirectory new) hne hx
  have hgb := h.get?_target hdir
  have hnew' := hnew.congr fun x hx => kept (off hnew (.inr hgb) hx)
  obtain ⟨hwlink, _, _, hm, hlink⟩ := leads_of_locate_absolute habs hl
  have hlink' := hlink.congr fun x hx => kept (off hlink (.inl rfl) hx)
  have hgl : ((t₃.erase l).put l (.link (layout.storeDirectory new))).get? l =
      some (.link (layout.storeDirectory new)) := by
    rw [get?_put _ _ _ _ hne, if_pos rfl]
  refine ⟨locate_eq_of_leads_absolute htarget hw hnew' hn, ?_, ?_⟩
  · rw [kept (off hnew (.inr hgb) hb), hgb]
  · obtain ⟨_, m, hthrough⟩ := hlink'.follow_link (grounded_nil _) hgl (by
      rw [linkBase, if_pos htarget]
      exact hnew')
    rw [locate_of_leads_absolute habs hwlink hthrough]
    split
    · exact .inl rfl
    · exact .inr rfl

end Moving

/-! ## The catalog file

The catalog file of the table, at `p`, changes before the store moves. It is on no way to a directory. -/

section CatalogFile

variable (ho : t.Grounded (t.origin p)) (hf : t.stat true p = .ok (.file f))
  (hplace : t.locate false p = .ok place)

include ho hf hplace

theorem readLink_put_place {node : Node} (hstart : t.Grounded (t.origin link))
    (hdir : t.get? l = some .directory) (hread : t.readLink link = .ok stored)
    (hto : t.locate true link = .ok l) :
    (t.put place node).readLink link = .ok stored ∧ (t.put place node).locate true link = .ok l := by
  obtain ⟨named, hl, hg⟩ := exists_of_readLink hread
  obtain ⟨-, _, _, -, hr⟩ := leads_of_locate hl
  obtain ⟨hw, _, _, hn, hwhole⟩ := leads_of_locate hto
  have hthrough := hr.mem_of_link hstart hg hwhole
  have hg' : (t.put place node).get? named = some (.link stored) :=
    (hwhole.get?_put_place ho hf hplace hstart (.inr hdir) hthrough).trans hg
  refine ⟨readLink_of_get? (locate_put_place ho hf hplace hstart hl) hg', ?_⟩
  have hwhole' : (t.put place node).Leads true (t.origin link) (steps link) _ _ l :=
    hwhole.put_place ho hf hplace hstart (.inr hdir)
  exact locate_eq_of_leads hw hwhole' hn

namespace Moving

variable (h : Moving (t.put place (.file f')) t₂ t₃ layout old new a b)

include h

theorem source_eq {found : Location}
    (ha : t.locate false (layout.storeDirectory old) = .ok found) : found = a := by
  have hstart : t.Grounded (t.origin (layout.storeDirectory old)) := by
    rw [origin_storeDirectory]
    exact fun x hx => get?_of_put_file (place_ne_nil hf hplace) (h.start x hx) (by simp)
  have ha' : (t.put place (.file f')).locate false (layout.storeDirectory old) = .ok found :=
    locate_put_place ho hf hplace hstart ha
  exact Except.ok.inj ((h.opened.locate ha').symm.trans h.source)

/-- A link to the store that can be read without the store is read the same when the store has moved. -/
theorem readLink_past (hstart : t.Grounded (t.origin link)) (hout : ¬ a <+: t.origin link)
    (hdir : t.get? a = some .directory) (hto : t.locate true link = .ok a)
    (hread : (t.erase a).readLink link = .ok stored) : t₃.readLink link = .ok stored := by
  obtain ⟨l, hl, hg⟩ := exists_of_readLink hread
  obtain ⟨hw, _, _, hn, hr⟩ := leads_of_locate hl
  replace hr : (t.erase a).Leads false (t.origin link) (steps link) _ _ l := hr
  obtain ⟨hr, hpast⟩ := Leads.of_erase h.source_ne_nil hr (.inl rfl)
  have hr' : (t.put place (.file f')).Leads false (t.origin link) (steps link) _ _ l :=
    hr.put_place ho hf hplace hstart (.inl rfl)
  have hstart' := hstart.put_place hf hplace (.file f')
  have hr₃ := h.leads_past hstart' hr' (.inl rfl) hpast
  have horigin : t₃.origin link = t.origin link := h.origin_eq hout
  rw [← horigin] at hr₃
  refine readLink_of_get? (locate_eq_of_leads hw hr₃ hn) ?_
  -- the link is on the way to the store, and not in the store
  rw [get?_erase t a l h.source_ne_nil] at hg
  split at hg
  · cases hg
  next hoff =>
  obtain ⟨-, _, _, -, hwhole⟩ := leads_of_locate hto
  have hthrough := hr.mem_of_link hstart hg hwhole
  have hwhole' : (t.put place (.file f')).Leads true (t.origin link) (steps link) _ _ a :=
    hwhole.put_place ho hf hplace hstart (.inr hdir)
  have hdir' : (t.put place (.file f')).get? a = some .directory :=
    get?_put_of_directory (place_ne_nil hf hplace) (get?_place hf hplace).2 _ hdir
  rw [h.get?_passed hstart' hwhole' (.inr hdir') hthrough, if_neg hoff, ← hg]
  exact hwhole.get?_put_place ho hf hplace hstart (.inr hdir) hthrough

/-- The new path leads to the store if the directory of the new place is found without the store. -/
theorem leads_to_target (hroot : layout.root.isAbsolute = true) (hdir : t₃.get? b = some .directory)
    (hfound : ∀ parent, (layout.storeDirectory new).parent? = some parent →
      (t.erase a).locate true parent = t.locate true parent) :
    ∃ seen n, n ≤ linkLimit ∧ t₃.Leads true [] (steps (layout.storeDirectory new)) seen n b ∧
      b ∈ seen := by
  have hne := place_ne_nil hf hplace
  obtain ⟨parent, room, _, _, hparent, habs, hw, hn, hsolid, hroom, hgr, rfl⟩ := h.exists_parent_room hroot
  replace hfound := hfound parent hparent
  have hoff : ¬ a <+: room := fun hin => h.target_not_below (hin.trans (List.prefix_append _ _))
  have hroomdir : t₃.get? room = some .directory := by
    rw [h.moved.2 room, if_neg hoff, hgr.self]
    intro hin
    have hlen := hin.length_le
    rw [List.length_append, List.length_singleton] at hlen
    omega
  suffices hway : ∃ seen n, n ≤ linkLimit ∧ t₃.Leads true [] (steps parent) seen n room by
    obtain ⟨seen, n, hn, hr⟩ := hway
    refine ⟨seen ++ [room ++ [new.text]], n + 0, hn, ?_, by simp⟩
    rw [layout.steps_storeDirectory]
    exact (hr.of_solid_eq hroomdir hsolid.symm).comp hroomdir
      (.enter new.isName_text.1 (.inr rfl) hdir .done) (.inr rfl)
  have hopened := h.opened
  cases hopened with
  | same =>
    -- the directory was there before
    have hbefore := get?_of_put_file hne hgr.self (by simp)
    have hthere := hroom.of_put_file hne (.inr hgr.self)
    obtain ⟨seen, n, hn, hr, hpast⟩ := exists_way_past habs h.source_ne_nil
      (locate_eq_of_leads_absolute habs hw hthere hn) hbefore hoff hfound
    have hr' : (t.put place (.file f')).Leads true [] (steps parent) seen n room :=
      hr.put_place ho hf hplace (grounded_nil t) (.inr hbefore)
    exact ⟨seen, n, hn, h.leads_past (grounded_nil _) hr' (.inr hgr.self) hpast⟩
  | @made above _ _ made _ _ hmade hl hfree =>
    -- the directory is new, and stands where nothing was
    obtain rfl : made = parent := Option.some.inj (hmade.symm.trans hparent)
    obtain rfl : above ++ [new.text.take 3] = room := by
      obtain ⟨-, _, _, -, hr⟩ := leads_of_locate_absolute habs (h.opened.locate hl)
      obtain ⟨_, hr⟩ := hr.follow_end fun _ => by
        rw [get?_put _ _ _ _ (by simp), if_pos rfl]
        simp
      exact hr.unique hroom
    have hnothing := get?_of_put_file hne hfree (by simp)
    obtain ⟨seen, n, hn, hr, hpast⟩ := exists_way_past_to_nothing habs h.source_ne_nil
      (locate_of_put_file f' hne hl) hnothing hfound
    have hr' : (t.put place (.file f')).Leads false [] (steps made) seen n _ :=
      hr.put_place ho hf hplace (grounded_nil t) (.inl rfl)
    obtain ⟨seen, hr₃⟩ := (h.leads_past (grounded_nil _) hr' (.inl rfl) hpast).follow_end fun _ => by
      rw [hroomdir]
      simp
    exact ⟨seen, n, hn, hr₃⟩

end Moving

end CatalogFile

end FileTree

/-! ## The link after a change of UUID -/

/-- Where a change of UUID moved the store, the catalog file changed before that, and the link was
redirected afterwards. -/
theorem exists_moving {site : Site} {answers : List Sent → Sent → Except ClientError (List Row)}
    {table : TableName} {newUuid : Uuid} {w w' : World} {report : UuidChangeReport}
    (hserver : site.server = .ofAnswers answers)
    (hstart : w.tree.Grounded (w.tree.origin site.layout.root))
    (hrun : changeUuid site table newUuid w = .ok report w') (hrelocated : report.storeRelocated = true) :
    ∃ p f f' place t₂ t₃ a b, w.tree.Grounded (w.tree.origin p) ∧ w.tree.stat true p = .ok (.file f) ∧
      w.tree.locate false p = .ok place ∧
      Moving (w.tree.put place (.file f')) t₂ t₃ site.layout report.oldUuid newUuid a b ∧
      redirect (site.layout.dataLink table) (site.layout.storeDirectory report.oldUuid)
        (site.layout.storeDirectory newUuid) t₃ = .ok (true, report.dataLinkUpdated) w'.tree := by
  obtain ⟨v₁, hattempt, rfl⟩ := exists_of_changeUuid_ok hrun
  obtain ⟨info, record, v, oldUuid, tree, relocated, updated, tree', hprepared, hset, hmove, rfl, rfl⟩ :=
    changed_of_ok hattempt
  obtain rfl : relocated = true := hrelocated
  obtain ⟨-, asked, -, rfl⟩ := Prepared.world hserver hprepared
  obtain ⟨text, changed, old, place, -, -, hstat, hplace, rfl⟩ := Catalog.setUuid_of_ok hset
  obtain ⟨t₂, t₃, a, b, hmoving, hredirect⟩ := moving_of_ok (hstart.put_place hstat hplace _) hmove
  exact ⟨_, old, FileTree.rewritten old changed, place, t₂, t₃, a, b,
    grounded_catalogFileOf hstart table info, hstat, hplace, hmoving, hredirect⟩

/-- A table's link that leads to the store, where a change of UUID ends well and moves the store. By any
other text than the path of the store, but for what means nothing in a path, it leads nowhere
afterwards. With this text it is made anew with the new path, as far as it is found without the store. If
the root is absolute it leads to the store at its new place then, as far as the directory of the new place
is found without the store. -/
theorem changeUuid_dataLink (settings : Settings)
    (answers : List Sent → Sent → Except ClientError (List Row)) (remover : Remover)
    (table : TableName) (newUuid : Uuid) (w w' : World) (report : UuidChangeReport) (stored : Path)
    (a : Location) (hstart : w.tree.Grounded (w.tree.origin settings.paths.root))
    (hout : settings.paths.root.isAbsolute = false → ¬ a <+: w.tree.here) :
    let site : Site := ⟨settings, .ofAnswers answers, remover⟩
    let link := site.layout.dataLink table
    let source := site.layout.storeDirectory report.oldUuid
    let target := site.layout.storeDirectory newUuid
    changeUuid site table newUuid w = .ok report w' → report.storeRelocated = true →
    w.tree.locate false source = .ok a → w.tree.get? a = some .directory →
    w.tree.readLink link = .ok stored → w.tree.locate true link = .ok a →
    (stored.components ≠ source.components →
      report.dataLinkUpdated = false ∧ ∀ node, w'.tree.stat true link ≠ .ok node) ∧
    (stored.components = source.components → (w.tree.erase a).readLink link = .ok stored →
      report.dataLinkUpdated = true ∧ w'.tree.readLink link = .ok target ∧
      (settings.paths.root.isAbsolute = true →
        (∀ parent, target.parent? = some parent →
          (w.tree.erase a).locate true parent = w.tree.locate true parent) →
        ∃ b, w'.tree.locate true target = .ok b ∧ w'.tree.get? b = some .directory ∧
          (w'.tree.locate true link = .ok b ∨ w'.tree.locate true link = .error .tooManyLinks))) := by
  intro site link source target hrun hrelocated ha hdir hread hto
  replace hstart : w.tree.Grounded (w.tree.origin site.layout.root) := hstart
  obtain ⟨p, f, f', place, t₂, t₃, a', b, ho, hf, hplace, hmoving, hredirect⟩ :=
    exists_moving (show site.server = _ from rfl) hstart hrun hrelocated
  obtain rfl := hmoving.source_eq ho hf hplace ha
  have horigin : w.tree.origin link = w.tree.origin site.layout.root := origin_dataLink _ _ _
  have hstartLink : w.tree.Grounded (w.tree.origin link) := horigin ▸ hstart
  have houtLink : ¬ a <+: w.tree.origin link := by
    rw [horigin]
    cases habs : site.layout.root.isAbsolute with
    | true => exact hmoving.outside habs
    | false =>
      rw [origin, habs, if_neg Bool.false_ne_true]
      exact hout habs
  have hdir' : (w.tree.put place (.file f')).get? a = some .directory :=
    get?_put_of_directory (place_ne_nil hf hplace) (get?_place hf hplace).2 _ hdir
  refine ⟨fun hother => ?_, fun hsame hpast => ?_⟩
  · obtain ⟨hread', hto'⟩ := readLink_put_place ho hf hplace hstartLink hdir hread hto
    obtain ⟨hanswer, hnowhere⟩ := hmoving.link_left (hstartLink.put_place hf hplace _) houtLink hdir'
      hread' hto' hother hredirect
    exact ⟨(Prod.mk.inj hanswer).2, hnowhere⟩
  · have hread' := hmoving.readLink_past ho hf hplace hstartLink houtLink hdir hto hpast
    obtain ⟨hanswer, hlink⟩ := Moving.link_again hread' hsame hredirect
    refine ⟨(Prod.mk.inj hanswer).2, hlink, fun hroot hroom => ?_⟩
    replace hroot : site.layout.root.isAbsolute = true := hroot
    obtain ⟨_, _, hn, hnew, hb⟩ :=
      hmoving.leads_to_target ho hf hplace hroot (hmoving.get?_target hdir') hroom
    obtain ⟨htarget, hstore, hends⟩ := hmoving.link_follows hroot
      (site.layout.isAbsolute_dataLink hroot table) hdir' hread' hsame hn hnew hb hredirect
    exact ⟨b, htarget, hstore, hends⟩

/-- A link with the path of the store leads to the store at its new place. -/
theorem changeUuid_dataLink_linked :
    let link := linkedSite.layout.dataLink ⟨"db", "t"⟩
    let target := linkedSite.layout.storeDirectory (Uuid.constant 1)
    ∃ report w', changeUuid linkedSite ⟨"db", "t"⟩ (Uuid.constant 1) { tree := linkedTree } =
        .ok report w' ∧
      report.dataLinkUpdated = true ∧ w'.tree.readLink link = .ok target ∧
      ∃ b, w'.tree.locate true target = .ok b ∧ w'.tree.get? b = some .directory ∧
        (w'.tree.locate true link = .ok b ∨ w'.tree.locate true link = .error .tooManyLinks) := by
  intro link target
  have hrun : endsWith (fun report _ => report.oldUuid = Uuid.constant 0 ∧ report.storeRelocated = true)
      (changeUuid linkedSite ⟨"db", "t"⟩ (Uuid.constant 1) { tree := linkedTree }) = true := by
    decide +kernel
  obtain ⟨report, w', h, hends⟩ := exists_of_endsWith hrun
  obtain ⟨hold, hrelocated⟩ := of_decide_eq_true hends
  have hlink := changeUuid_dataLink _ _ _ _ _ _ _ _
    (linkedSite.layout.storeDirectory (Uuid.constant 0))
    ["srv", "store", "000", (Uuid.constant 0).text] (grounded_nil _) (fun hrelative => by cases hrelative)
    h hrelocated (by rw [hold]; decide +kernel) (by decide +kernel) (by decide +kernel) (by decide +kernel)
  obtain ⟨hupdated, hread, hleads⟩ := hlink.2 (by rw [hold]; decide +kernel) (by decide +kernel)
  refine ⟨report, w', h, hupdated, hread, hleads rfl ?_⟩
  intro parent hparent
  cases hparent
  decide +kernel

/-- The table with a link to the same store that is relative to the directory it is in. -/
def relativeTree : FileTree :=
  linkedTree.put ["srv", "data", "db", "t"] (.link ⟨"../../store/000/" ++ (Uuid.constant 0).text⟩)

/-- This link leads to the store before a change of UUID, and nowhere when the store has moved. -/
theorem changeUuid_loses_link :
    let link := linkedSite.layout.dataLink ⟨"db", "t"⟩
    let place := relativeTree.locate false (linkedSite.layout.storeDirectory (Uuid.constant 0))
    relativeTree.locate true link = place ∧ relativeTree.stat true link = .ok .directory ∧
    ∃ report w', changeUuid linkedSite ⟨"db", "t"⟩ (Uuid.constant 1) { tree := relativeTree } =
        .ok report w' ∧
      report.oldUuid = Uuid.constant 0 ∧ report.storeRelocated = true ∧
      w'.tree.isPresent (linkedSite.layout.storeDirectory (Uuid.constant 1)) = .ok true ∧
      w'.tree.stat true link = .error .notFound := by
  intro link place
  have hrun : endsWith (fun report w => decide (report.oldUuid = Uuid.constant 0 ∧
        report.storeRelocated = true ∧
        w.tree.isPresent (linkedSite.layout.storeDirectory (Uuid.constant 1)) = .ok true ∧
        w.tree.stat true link = .error .notFound))
      (changeUuid linkedSite ⟨"db", "t"⟩ (Uuid.constant 1) { tree := relativeTree }) = true := by
    decide +kernel
  obtain ⟨report, w', h, hends⟩ := exists_of_endsWith hrun
  exact ⟨by decide +kernel, by decide +kernel, report, w', h, of_decide_eq_true hends⟩

end CatalogAdmin
