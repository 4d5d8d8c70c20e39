import CatalogAdmin.FileTree.Resolution

/-!
# Parts and components of paths

A path's parts are the texts between its slashes, its components what it goes through. `solid` is
the part list without the parts that mean nothing, and stands between the two: paths with the same
components have the same solid parts (`solid_eq_of_components_eq`), and components are written so
that they are read back (`components_ofComponents`).
-/

namespace CatalogAdmin

namespace Text

theorem fields_ne_nil (separator : Char) (t : Text) : fields separator t ≠ [] := by
  cases t with
  | nil => simp [fields]
  | cons c rest =>
    unfold fields
    split
    · simp
    · split <;> simp

/-- A separator cuts the fields before it from those behind it. -/
theorem fields_append (separator : Char) (a b : Text) :
    fields separator (a ++ separator :: b) = fields separator a ++ fields separator b := by
  induction a with
  | nil => simp [fields]
  | cons c rest ih =>
    by_cases hc : c = separator
    · simp [fields, hc, ih]
    · cases hr : fields separator rest with
      | nil => exact absurd hr (fields_ne_nil separator rest)
      | cons field more => simp [fields, hc, ih, hr]

theorem fields_of_not_mem {separator : Char} {t : Text} (h : separator ∉ t) :
    fields separator t = [t] := by
  induction t with
  | nil => rfl
  | cons c rest ih =>
    have hc : ¬ c = separator := fun e => h (e ▸ List.mem_cons_self ..)
    have hr : separator ∉ rest := fun e => h (List.mem_cons_of_mem _ e)
    simp [fields, hc, ih hr]

/-- No field holds the separator. -/
theorem not_mem_of_mem_fields {separator : Char} {t field : Text}
    (h : field ∈ fields separator t) : separator ∉ field := by
  induction t generalizing field with
  | nil =>
    obtain rfl : field = [] := by simpa [fields] using h
    simp
  | cons c rest ih =>
    by_cases hc : c = separator
    · simp only [fields, hc, if_true, List.mem_cons] at h
      rcases h with rfl | h
      · simp
      · exact ih h
    · cases hr : fields separator rest with
      | nil => exact absurd hr (fields_ne_nil separator rest)
      | cons first more =>
        simp only [fields, hc, if_false, hr, List.mem_cons] at h
        rcases h with rfl | h
        · have := ih (hr ▸ List.mem_cons_self ..)
          simp [Ne.symm hc, this]
        · exact ih (hr ▸ List.mem_cons_of_mem _ h)

/-- Fields between separators are read back. -/
theorem fields_join {separator : Char} (ts : List Text) (hne : ts ≠ [])
    (h : ∀ t ∈ ts, separator ∉ t) : fields separator (join [separator] ts) = ts := by
  induction ts with
  | nil => exact absurd rfl hne
  | cons t more ih =>
    have ht := h t (List.mem_cons_self ..)
    cases more with
    | nil => exact fields_of_not_mem ht
    | cons u rest =>
      have := ih (by simp) fun x hx => h x (List.mem_cons_of_mem _ hx)
      simp only [join, List.append_assoc, List.singleton_append, fields_append,
        fields_of_not_mem ht, this]

/-- Fields with the separators between them are the text they were read from. -/
theorem join_fields (separator : Char) (t : Text) : join [separator] (fields separator t) = t := by
  induction t with
  | nil => rfl
  | cons c rest ih =>
    cases hr : fields separator rest with
    | nil => exact absurd hr (fields_ne_nil separator rest)
    | cons field more =>
      rw [hr] at ih
      by_cases hc : c = separator
      · rw [fields, if_pos hc, hr, hc]
        exact congrArg (separator :: ·) ih
      · rw [fields, if_neg hc, hr]
        cases more with
        | nil => exact congrArg (c :: ·) ih
        | cons => exact congrArg (c :: ·) ih

theorem byteLength_le_of_sublist {t u : Text} (h : t.Sublist u) : t.byteLength ≤ u.byteLength := by
  induction h with
  | slnil => exact Nat.le_refl _
  | cons c _ ih => exact Nat.le_trans ih (Nat.le_add_left _ _)
  | cons_cons c _ ih => exact Nat.add_le_add_left ih _

/-- Where some of the texts are left out, nothing is added. -/
theorem join_sublist (separator : Text) {ts us : List Text} (h : ts.Sublist us) :
    (join separator ts).Sublist (join separator us) := by
  -- behind a text that is kept, the separator is needed only if something follows
  have behind : ∀ (u : Text) {ts us : List Text}, ts.Sublist us →
      (join separator ts).Sublist (join separator us) →
      (join separator (u :: ts)).Sublist (join separator (u :: us)) := by
    intro u ts us hsub hjoin
    cases ts with
    | nil =>
      cases us with
      | nil => exact .refl _
      | cons => exact (List.sublist_append_left _ _).trans (List.sublist_append_left _ _)
    | cons t rest =>
      cases us with
      | nil => cases hsub
      | cons => exact .append (.refl _) hjoin
  induction h with
  | slnil => exact .refl _
  | @cons _ us u _ ih =>
    cases us with
    | nil => exact ih.trans (List.nil_sublist _)
    | cons => exact ih.trans (List.sublist_append_right _ _)
  | cons_cons u hsub ih => exact behind u hsub ih

end Text

namespace Path

/-! ## Parts -/

/-- The parts of a path without those that mean nothing. -/
def solid (parts : List Text) : List Text := parts.filter (· ≠ ".")

theorem solid_append (a b : List Text) : solid (a ++ b) = solid a ++ solid b :=
  List.filter_append ..

theorem solid_cons {part : Text} (h : part ≠ ".") (rest : List Text) :
    solid (part :: rest) = part :: solid rest :=
  List.filter_cons_of_pos (decide_eq_true h)

theorem solid_solid (parts : List Text) : solid (solid parts) = solid parts := by
  unfold solid
  rw [List.filter_filter]
  simp

theorem solid_steps (p : Path) : solid (FileTree.steps p) = solid p.parts := by
  unfold FileTree.steps
  split
  · simp [solid]
  · rfl

theorem ne_nil_of_mem_parts {p : Path} {part : Text} (h : part ∈ p.parts) : part ≠ [] := by
  simpa using (List.mem_filter.1 h).2

theorem not_mem_of_mem_parts {p : Path} {part : Text} (h : part ∈ p.parts) : '/' ∉ part :=
  Text.not_mem_of_mem_fields (List.mem_filter.1 h).1

/-- The parts of a path below another are those of the two. -/
theorem parts_join {base p : Path} (h : p.isAbsolute = false) :
    (base.join p).parts = base.parts ++ p.parts := by
  unfold join
  simp only [h, Bool.false_eq_true, if_false]
  split
  · next hs =>
    rcases Bool.or_eq_true_iff.1 hs with hs | hs
    · have : base.text = [] := by simpa using hs
      simp [parts, this, Text.fields]
    · have hlast : base.text.getLast? = some '/' := by simpa [endsInSlash] using hs
      obtain ⟨start, hstart⟩ := List.getLast?_eq_some_iff.1 hlast
      simp [parts, hstart, Text.fields_append, Text.fields]
  · simp [parts, Text.fields_append]

theorem isAbsolute_join {base : Path} (h : base.isAbsolute = true) (p : Path) :
    (base.join p).isAbsolute = true := by
  have hbase : base.text.head? = some '/' := of_decide_eq_true h
  obtain ⟨rest, hrest⟩ := List.head?_eq_some_iff.1 hbase
  unfold join
  split
  · assumption
  split
  · rw [isAbsolute, hrest]; rfl
  · rw [isAbsolute, hrest]; rfl

/-- A path below another starts from where the other does. -/
theorem isAbsolute_join_of_relative (base : Path) {p : Path} (h : p.isAbsolute = false) :
    (base.join p).isAbsolute = base.isAbsolute := by
  cases hb : base.isAbsolute with
  | true => exact isAbsolute_join hb p
  | false =>
    unfold join
    simp only [h, Bool.false_eq_true, if_false]
    cases htext : base.text with
    | nil => simpa [htext] using h
    | cons c rest =>
      have hc : c ≠ '/' := by simpa [isAbsolute, htext] using hb
      split <;> simpa [isAbsolute] using hc

/-! ## Components -/

/-- A component as it stands in a path. -/
def Component.text : Component → Text
  | .root => []
  | .current => "."
  | .parent => ".."
  | .name n => n

/-- A component that a part stands for. -/
def Component.IsInner (c : Component) : Prop :=
  Component.ofPart? c.text = some c ∧ c.text ≠ [] ∧ '/' ∉ c.text

theorem ofPart?_text {part : Text} {c : Component} (h : Component.ofPart? part = some c) :
    c.text = part ∧ part ≠ "." := by
  unfold Component.ofPart? at h
  split at h
  · cases h
  · next hc =>
    split at h
    · next hu => cases h; exact ⟨hu.symm, hc⟩
    · cases h; exact ⟨rfl, hc⟩

/-- Components that parts stand for, written out, are the parts that mean something. -/
theorem map_text_filterMap (parts : List Text) :
    (parts.filterMap Component.ofPart?).map Component.text = solid parts := by
  induction parts with
  | nil => rfl
  | cons part rest ih =>
    cases hc : Component.ofPart? part with
    | none =>
      have hdot : part = "." := by
        unfold Component.ofPart? at hc
        split at hc
        · assumption
        · split at hc <;> cases hc
      have hs : solid (part :: rest) = solid rest := by simp [solid, hdot]
      rw [List.filterMap_cons_none hc, ih, hs]
    | some c =>
      obtain ⟨ht, hne⟩ := ofPart?_text hc
      rw [List.filterMap_cons_some hc, List.map_cons, ih, solid_cons hne, ht]

theorem isInner_of_mem {p : Path} {c : Component}
    (h : c ∈ p.parts.filterMap Component.ofPart?) : c.IsInner := by
  obtain ⟨part, hpart, hc⟩ := List.mem_filterMap.1 h
  obtain ⟨ht, -⟩ := ofPart?_text hc
  refine ⟨?_, ?_, ?_⟩
  · rw [ht, hc]
  · rw [ht]; exact ne_nil_of_mem_parts hpart
  · rw [ht]; exact not_mem_of_mem_parts hpart

theorem components_of_isAbsolute {p : Path} (h : p.isAbsolute = true) :
    p.components = .root :: p.parts.filterMap Component.ofPart? := by
  simp [components, h]

/-- The first field of a path stays the first where something is put below the path. -/
theorem head?_fields_join {base p : Path} (h : p.isAbsolute = false) (hne : base.text ≠ []) :
    (Text.fields '/' (base.join p).text).head? = (Text.fields '/' base.text).head? := by
  have hbefore : ∀ start rest : Text,
      (Text.fields '/' (start ++ '/' :: rest)).head? = (Text.fields '/' start).head? := by
    intro start rest
    obtain ⟨first, more, hstart⟩ := List.exists_cons_of_ne_nil (Text.fields_ne_nil '/' start)
    rw [Text.fields_append, hstart]
    rfl
  unfold join
  simp only [h, Bool.false_eq_true, if_false]
  split
  · next hs =>
    have hnot : base.text.isEmpty = false := by simpa using hne
    have hlast : base.text.getLast? = some '/' := by simpa [endsInSlash, hnot] using hs
    obtain ⟨start, hstart⟩ := List.getLast?_eq_some_iff.1 hlast
    rw [hstart, List.append_assoc, List.singleton_append, hbefore, hbefore]
  · exact hbefore _ _

/-- A path below another goes on from where the other ends. -/
theorem components_join (base : Path) {p : Path} (h : p.isAbsolute = false)
    (hp : (Text.fields '/' p.text).head? ≠ some ("." : Text)) :
    (base.join p).components = base.components ++ p.parts.filterMap Component.ofPart? := by
  unfold components
  rw [isAbsolute_join_of_relative base h, parts_join h, List.filterMap_append]
  by_cases hempty : base.text = []
  · -- below nothing the path stands for itself
    have htext : (base.join p).text = p.text := by simp [join, h, hempty]
    have hrelative : base.isAbsolute = false := by simp [isAbsolute, hempty]
    have hparts : base.parts = [] := by simp [parts, hempty, Text.fields]
    have hfirst : (Text.fields '/' []).head? ≠ some ("." : Text) := by decide
    rw [htext, hempty, hrelative, hparts]
    simp only [Bool.false_eq_true, if_false]
    rw [if_neg hp, if_neg hfirst]
  · rw [head?_fields_join h hempty]
    split
    · rfl
    · split <;> rfl

theorem isAbsolute_of_components {p : Path} {cs : List Component}
    (h : p.components = .root :: cs) : p.isAbsolute = true := by
  cases ha : p.isAbsolute with
  | true => rfl
  | false =>
    have root_not_inner : ∀ c ∈ p.parts.filterMap Component.ofPart?, c ≠ .root := by
      intro c hc e
      exact (isInner_of_mem hc).2.1 (by rw [e]; rfl)
    unfold components at h
    simp only [ha, Bool.false_eq_true, if_false] at h
    split at h
    · cases h
    · exact absurd rfl (root_not_inner _ (h ▸ List.mem_cons_self ..))

/-- An absolute path with the components of another goes through the same solid parts. -/
theorem solid_eq_of_components_eq {p q : Path} (hq : q.isAbsolute = true)
    (h : p.components = q.components) : p.isAbsolute = true ∧ solid p.parts = solid q.parts := by
  have hroot := h.trans (components_of_isAbsolute hq)
  have hp := isAbsolute_of_components hroot
  refine ⟨hp, ?_⟩
  rw [components_of_isAbsolute hp] at hroot
  rw [← map_text_filterMap, ← map_text_filterMap, (List.cons.inj hroot).2]

/-! ## Paths of components -/

/-- What the components of a path begin with: the root, a `.`, or nothing. -/
inductive IsStem : List Component → Prop
  | root : IsStem [.root]
  | current : IsStem [.current]
  | none : IsStem []

/-- The components of a path behind what they begin with. -/
def inner (p : Path) : List Component := p.parts.filterMap Component.ofPart?

theorem exists_stem (p : Path) :
    ∃ stem, IsStem stem ∧ p.components = stem ++ p.inner ∧
      (stem = [.root] ↔ p.isAbsolute = true) := by
  unfold components
  split
  · next ha => exact ⟨[.root], .root, rfl, by simp [ha]⟩
  next ha =>
  split
  · exact ⟨[.current], .current, rfl, by simp [ha]⟩
  · exact ⟨[], .none, rfl, by simp [ha]⟩

section

variable {stem cs : List Component}

theorem slash_not_mem_text (hs : IsStem stem) (h : ∀ c ∈ cs, c.IsInner) :
    ∀ t ∈ (stem ++ cs).map Component.text, '/' ∉ t := by
  intro t ht
  obtain ⟨c, hc, rfl⟩ := List.mem_map.1 ht
  rcases List.mem_append.1 hc with hc | hc
  · cases hs with
    | root => rw [List.mem_singleton.1 hc]; exact List.not_mem_nil
    | current => rw [List.mem_singleton.1 hc]; decide
    | none => cases hc
  · exact (h c hc).2.2

theorem body_eq (cs : List Component) :
    ofComponents.body cs = Text.join ['/'] (cs.map Component.text) := by
  unfold ofComponents.body
  congr 1

theorem text_ofComponents (hs : IsStem stem) (hne : cs ≠ []) (h : ∀ c ∈ cs, c.IsInner) :
    (ofComponents (stem ++ cs)).text = Text.join ['/'] ((stem ++ cs).map Component.text) := by
  obtain ⟨c, more, rfl⟩ := List.exists_cons_of_ne_nil hne
  cases hs with
  | root =>
    show '/' :: ofComponents.body (c :: more) = _
    rw [body_eq]
    rfl
  | current => exact body_eq _
  | none =>
    have hc : c ≠ .root := by
      rintro rfl
      exact (h .root (List.mem_cons_self ..)).2.1 rfl
    rw [List.nil_append]
    cases c with
    | root => exact absurd rfl hc
    | current | parent | name => exact body_eq _

theorem fields_ofComponents (hs : IsStem stem) (hne : cs ≠ []) (h : ∀ c ∈ cs, c.IsInner) :
    Text.fields '/' (ofComponents (stem ++ cs)).text = (stem ++ cs).map Component.text := by
  rw [text_ofComponents hs hne h, Text.fields_join _ (by simp [hne]) (slash_not_mem_text hs h)]

theorem fields_head_of_isAbsolute {p : Path} :
    p.isAbsolute = true ↔ ∃ more, Text.fields '/' p.text = [] :: more ∧ more ≠ [] := by
  unfold isAbsolute
  cases htext : p.text with
  | nil => simp [Text.fields]
  | cons c rest =>
    by_cases hc : c = '/'
    · subst hc
      simp [Text.fields, Text.fields_ne_nil]
    · simp only [List.head?_cons, Option.some.injEq, hc, decide_false, Text.fields, if_false]
      cases Text.fields '/' rest <;> simp

theorem isAbsolute_ofComponents (hs : IsStem stem) (hne : cs ≠ []) (h : ∀ c ∈ cs, c.IsInner) :
    (ofComponents (stem ++ cs)).isAbsolute = true ↔ stem = [.root] := by
  rw [fields_head_of_isAbsolute, fields_ofComponents hs hne h]
  obtain ⟨c, more, rfl⟩ := List.exists_cons_of_ne_nil hne
  have hc := (h c (List.mem_cons_self ..)).2.1
  cases hs with
  | root => simp [Component.text]
  | current => simp [Component.text]
  | none => simp [hc]

/-- Paths of components have the parts that the components stand for, and maybe a `.` before them. -/
theorem parts_ofComponents (hs : IsStem stem) (hne : cs ≠ []) (h : ∀ c ∈ cs, c.IsInner) :
    ∃ dots : List Text, (∀ d ∈ dots, d = ".") ∧
      (ofComponents (stem ++ cs)).parts = dots ++ cs.map Component.text := by
  have hkept : (cs.map Component.text).filter (· ≠ []) = cs.map Component.text := by
    rw [List.filter_eq_self]
    intro t ht
    obtain ⟨c, hc, rfl⟩ := List.mem_map.1 ht
    simpa using (h c hc).2.1
  rw [parts, fields_ofComponents hs hne h, List.map_append, List.filter_append, hkept]
  cases hs with
  | root => exact ⟨[], by simp, rfl⟩
  | current => exact ⟨[("." : Text)], by simp, rfl⟩
  | none => exact ⟨[], by simp, rfl⟩

/-- No slash stands at the end of a path of components. -/
theorem endsInSlash_ofComponents (hs : IsStem stem) (hne : cs ≠ []) (h : ∀ c ∈ cs, c.IsInner) :
    (ofComponents (stem ++ cs)).endsInSlash = false := by
  have hfields := fields_ofComponents hs hne h
  rw [endsInSlash, decide_eq_false_iff_not]
  intro hlast
  obtain ⟨start, hstart⟩ := List.getLast?_eq_some_iff.1 hlast
  -- a slash at the end would leave an empty field behind it
  rw [hstart, Text.fields_append] at hfields
  have hend : ((stem ++ cs).map Component.text).getLast? = some [] := by
    rw [← hfields]
    exact List.getLast?_concat
  obtain ⟨front, c, rfl⟩ := (List.eq_nil_or_concat cs).resolve_left hne
  have hnil : c.text = [] := by simpa [← List.append_assoc] using hend
  exact (h c (by simp)).2.1 hnil

/-- Parts that components stand for stand for them. -/
theorem filterMap_text {cs : List Component} (h : ∀ c ∈ cs, c.IsInner) :
    (cs.map Component.text).filterMap Component.ofPart? = cs := by
  induction cs with
  | nil => rfl
  | cons c rest ih =>
    obtain ⟨hc, hrest⟩ := List.forall_mem_cons.1 h
    rw [List.map_cons, List.filterMap_cons_some hc.1, ih hrest]

/-- Components are written so that they are read back. -/
theorem components_ofComponents (hs : IsStem stem) (hne : cs ≠ []) (h : ∀ c ∈ cs, c.IsInner) :
    (ofComponents (stem ++ cs)).components = stem ++ cs := by
  have hinner : (ofComponents (stem ++ cs)).inner = cs := by
    obtain ⟨dots, hdots, hparts⟩ := parts_ofComponents hs hne h
    have hnone : dots.filterMap Component.ofPart? = [] := by
      rw [List.filterMap_eq_nil_iff]
      intro d hd
      rw [hdots d hd]
      rfl
    rw [inner, hparts, List.filterMap_append, hnone, List.nil_append]
    exact filterMap_text h
  have habs := isAbsolute_ofComponents hs hne h
  have hhead : (Text.fields '/' (ofComponents (stem ++ cs)).text).head? =
      ((stem ++ cs).map Component.text).head? := by rw [fields_ofComponents hs hne h]
  unfold inner at hinner
  unfold components
  rw [hinner, hhead]
  obtain ⟨c, more, rfl⟩ := List.exists_cons_of_ne_nil hne
  have hdot : c.text ≠ "." := (ofPart?_text (h c (List.mem_cons_self ..)).1).2
  cases hs with
  | root =>
    rw [if_pos (habs.2 rfl)]
    rfl
  | current =>
    have hrelative : ¬ (ofComponents ([.current] ++ c :: more)).isAbsolute = true :=
      mt habs.1 (by simp)
    have hcurrent : ((.current :: c :: more).map Component.text).head? = some ("." : Text) := rfl
    rw [if_neg hrelative]
    exact if_pos hcurrent
  | none =>
    have hrelative : ¬ (ofComponents ([] ++ c :: more)).isAbsolute = true := mt habs.1 (by simp)
    rw [if_neg hrelative, if_neg]
    · rfl
    · simpa using hdot

end

/-- The directory above a path: its parts are the path's solid parts without the last, with maybe a
`.` before them. -/
theorem exists_parent {p : Path} {above : List Text} {last : Text}
    (h : solid p.parts = above ++ [last]) (habove : above ≠ []) :
    ∃ parent, ∃ dots : List Text, p.parent? = some parent ∧ parent.isAbsolute = p.isAbsolute ∧
      ofComponents parent.components = parent ∧ (∀ d ∈ dots, d = ".") ∧
      FileTree.steps parent = dots ++ above := by
  have hmap : p.inner.map Component.text = above ++ [last] := by
    rw [inner, map_text_filterMap, h]
  obtain ⟨cs, cs', hcs, habove', hlast⟩ := List.map_eq_append_iff.1 hmap
  obtain ⟨c, rfl, hc⟩ := List.map_eq_singleton_iff.1 hlast
  have hinner : ∀ x ∈ p.inner, x.IsInner := fun x hx => isInner_of_mem hx
  rw [hcs] at hinner
  have hcsInner : ∀ x ∈ cs, x.IsInner := fun x hx => hinner x (List.mem_append_left _ hx)
  have hne : cs ≠ [] := by
    rintro rfl
    exact habove habove'.symm
  obtain ⟨stem, hs, hcomponents, hroot⟩ := p.exists_stem
  obtain ⟨dots, hdots, hparts⟩ := parts_ofComponents hs hne hcsInner
  refine ⟨ofComponents (stem ++ cs), dots, ?_, ?_, ?_, hdots, ?_⟩
  · -- a root is no part, so there is a directory above
    have hlastInner : c.IsInner := hinner c (by simp)
    rw [parent?, hcomponents, hcs, ← List.append_assoc, List.getLast?_concat, List.dropLast_concat]
    cases c with
    | root => exact absurd rfl hlastInner.2.1
    | current | parent | name n => rfl
  · rw [Bool.eq_iff_iff, isAbsolute_ofComponents hs hne hcsInner, hroot]
  · rw [components_ofComponents hs hne hcsInner]
  · rw [FileTree.steps, endsInSlash_ofComponents hs hne hcsInner, hparts, habove']
    rfl

/-! ## Lengths -/

theorem components_sublist (p : Path) :
    (p.components.map Component.text).Sublist (Text.fields '/' p.text) := by
  have hinner : ∀ front, Text.fields '/' p.text = front →
      (p.parts.filterMap Component.ofPart?).map Component.text =
        solid (front.filter (· ≠ [])) := by
    rintro _ rfl
    exact map_text_filterMap p.parts
  unfold components
  split
  · next habs =>
    obtain ⟨more, hfields, -⟩ := fields_head_of_isAbsolute.1 habs
    have hrest : solid (([] :: more).filter (· ≠ [])) = solid (more.filter (· ≠ [])) := by simp
    rw [List.map_cons, hinner _ hfields, hfields, hrest]
    exact .cons_cons _ (List.filter_sublist.trans List.filter_sublist)
  split
  · next hcurrent =>
    obtain ⟨more, hfields⟩ := List.head?_eq_some_iff.1 hcurrent
    have hrest : solid ((("." : Text) :: more).filter (· ≠ [])) = solid (more.filter (· ≠ [])) := rfl
    rw [List.map_cons, hinner _ hfields, hfields, hrest]
    exact .cons_cons _ (List.filter_sublist.trans List.filter_sublist)
  · rw [hinner _ rfl]
    exact List.filter_sublist.trans List.filter_sublist

/-- The path of the directory above is written with less. -/
theorem parent_sublist {p parent : Path} {above : List Text} {last : Text}
    (h : solid p.parts = above ++ [last]) (habove : above ≠ []) (hparent : p.parent? = some parent) :
    parent.text.Sublist p.text := by
  obtain ⟨stem, hs, hcomponents, -⟩ := p.exists_stem
  have hmap : p.inner.map Component.text = above ++ [last] := by
    rw [inner, map_text_filterMap, h]
  obtain ⟨cs, cs', hcs, habove', hlast⟩ := List.map_eq_append_iff.1 hmap
  obtain ⟨c, rfl, -⟩ := List.map_eq_singleton_iff.1 hlast
  have hinner : ∀ x ∈ p.inner, x.IsInner := fun x hx => isInner_of_mem hx
  rw [hcs] at hinner
  have hne : cs ≠ [] := by
    rintro rfl
    exact habove habove'.symm
  have hsub := p.components_sublist
  rw [parent?, hcomponents, hcs, ← List.append_assoc, List.getLast?_concat,
    List.dropLast_concat] at hparent
  rw [hcomponents, hcs, ← List.append_assoc, List.map_append] at hsub
  obtain rfl : ofComponents (stem ++ cs) = parent := by
    cases c with
    | root => exact absurd rfl (hinner .root (by simp)).2.1
    | current | parent | name n => exact Option.some.inj hparent
  rw [text_ofComponents hs hne fun x hx => hinner x (List.mem_append_left _ hx),
    ← Text.join_fields '/' p.text]
  exact Text.join_sublist _ ((List.sublist_append_left _ _).trans hsub)

end Path

end CatalogAdmin
