import CatalogAdmin.Coordination
import CatalogAdmin.Proofs.Session.Runs
import CatalogAdmin.Proofs.Text.Pieces

/-!
# What is looked up about replicas

Templates are expanded with values that the server gives, and the UUID that replicas share is read
from a node. Against a server that only answers both only select. `expandFor_of_ok` and
`sharedId_of_ok` say where an answer of theirs comes from: from which rows the server gave, and to
which query.
-/

namespace CatalogAdmin

open Session

/-! ## Queries -/

/-- The query for the values of placeholders. -/
def placeholderQuery (site : Site) : Sent :=
  ⟨.fetch, { sql := "SELECT macro, substitution FROM system.macros",
             timeout := some site.settings.server.timeouts.query }⟩

/-- A placeholder and its value, from a row. -/
def placeholderOf? (row : Row) : Option (Text × Text) := do
  return (← row.text? "macro", ← row.text? "substitution")

/-- The query for the identifier that the replicas at a node share. -/
def sharedIdQuery (site : Site) (path : Text) : Sent :=
  ⟨.fetch, { sql := "SELECT value FROM system.zookeeper WHERE path = \x7bpath:String\x7d AND name = "
               ++ "\x7bname:String\x7d",
             parameters := [("path", path), ("name", sharedIdNode)],
             timeout := some site.settings.server.timeouts.query }⟩

theorem placeholderQuery_select (site : Site) :
    (placeholderQuery site).query.sql.startsWith "SELECT" = true := by
  rw [Text.startsWith_iff]
  exact ⟨_, rfl⟩

theorem sharedIdQuery_select (site : Site) (path : Text) :
    (sharedIdQuery site path).query.sql.startsWith "SELECT" = true := by
  rw [Text.startsWith_iff]
  exact ⟨_, rfl⟩

variable {answers : List Sent → Sent → Except ClientError (List Row)} {site : Site}
  {table : TableName} {w w' : World}

/-! ## Lookups -/

namespace Session

/-- Expanding a template asks for the values of placeholders if there are any, and does nothing
else. -/
theorem after_expandFor (hs : site.server = .ofAnswers answers) (template : Text)
    (table : TableName) (uuid : Uuid) (w : World) :
    after (expandFor site template table uuid) w =
      if '{' ∈ template then w.asking (placeholderQuery site) else w := by
  unfold expandFor
  split
  · rw [Keeps.after_bind, placeholderValues, after_asTask_fetchAs answers hs]
    · rfl
    · intro values v
      split <;> rfl
  · rfl

theorem selects_expandFor (hs : site.server = .ofAnswers answers) (template : Text)
    (table : TableName) (uuid : Uuid) :
    Keeps World.OnlySelected (expandFor site template table uuid) := by
  intro w
  rw [after_expandFor hs]
  split
  · exact .asking w (placeholderQuery_select site)
  · exact .refl w

theorem selects_sharedId (hs : site.server = .ofAnswers answers) (path : Text) :
    Keeps World.OnlySelected (sharedId site path) := by
  refine (selects_asTask_fetchAs answers hs _ _ (sharedIdQuery_select site _)).bind .trans
    fun values => ?_
  split
  · exact Keeps.throw .refl _
  · split
    · exact Keeps.pure .refl _
    · exact Keeps.throw .refl _

end Session

/-- A literal text is taken over. -/
theorem expandFrom_literal (lookup : Text → Option Text) {literal : Text} (h : '{' ∉ literal)
    (rest : Text) :
    expandFrom lookup none (literal ++ rest) = (expandFrom lookup none rest).map (literal ++ ·) := by
  induction literal with
  | nil =>
    cases hrest : expandFrom lookup none rest <;> simp [hrest, Except.map]
  | cons c literal ih =>
    obtain ⟨hc, hliteral⟩ := not_or.1 (mt List.mem_cons.2 h)
    rw [List.cons_append, expandFrom.eq_4 _ _ _ (Ne.symm hc), ih hliteral]
    cases expandFrom lookup none rest <;> rfl

theorem expandFrom_of_not_mem (lookup : Text → Option Text) {template : Text}
    (h : '{' ∉ template) : expandFrom lookup none template = .ok template := by
  have hend := expandFrom_literal lookup h []
  rwa [List.append_nil, expandFrom, Except.map, List.append_nil] at hend

/-- A template without placeholders expands to itself. -/
theorem expand_of_not_mem (lookup : Text → Option Text) {template : Text} (h : '{' ∉ template) :
    expand lookup template = .ok template := by
  rw [expand, expandFrom_of_not_mem lookup h]

/-- On the way from `w` to `w'` a template for a table was expanded. The server was asked for values
if the template has any placeholder. -/
def Expanded (answers : List Sent → Sent → Except ClientError (List Row)) (site : Site)
    (table : TableName) (uuid : Uuid) (w w' : World) (template path : Text) : Prop :=
  ∃ values, expand (placeholderValue values table uuid) template = .ok path ∧
    ('{' ∈ template → ∃ rows, World.Got answers w w' (placeholderQuery site) rows ∧
      rows.mapM placeholderOf? = some values)

/-- On the way from `w` to `w'` the server gave `uuid` as the identifier that the replicas at a path
share. -/
def Shared (answers : List Sent → Sent → Except ClientError (List Row)) (site : Site)
    (w w' : World) (path : Text) (uuid : Uuid) : Prop :=
  ∃ rows value more, World.Got answers w w' (sharedIdQuery site (nodePath path)) rows ∧
    rows.mapM (Row.text? · "value") = some (value :: more) ∧ Uuid.parse? value.trim = some uuid

section Extend

variable {w₁ w₂ : World} {before after : List Sent} {uuid : Uuid} {path template : Text}

theorem Expanded.extend (h : Expanded answers site table uuid w₁ w₂ template path)
    (hb : w₁.sent = w.sent ++ before) (ha : w'.sent = w₂.sent ++ after) :
    Expanded answers site table uuid w w' template path := by
  obtain ⟨values, hexpand, hvalues⟩ := h
  refine ⟨values, hexpand, fun hmem => ?_⟩
  obtain ⟨rows, hgot, hread⟩ := hvalues hmem
  exact ⟨rows, hgot.extend hb ha, hread⟩

theorem Shared.extend (h : Shared answers site w₁ w₂ path uuid)
    (hb : w₁.sent = w.sent ++ before) (ha : w'.sent = w₂.sent ++ after) :
    Shared answers site w w' path uuid := by
  obtain ⟨rows, value, more, hgot, hread, hparse⟩ := h
  exact ⟨rows, value, more, hgot.extend hb ha, hread, hparse⟩

end Extend

namespace Session

theorem expandFor_of_ok (hs : site.server = .ofAnswers answers) {template path : Text}
    {uuid : Uuid} (h : expandFor site template table uuid w = .ok path w') :
    Expanded answers site table uuid w w' template path := by
  unfold expandFor at h
  split at h
  · obtain ⟨values, v, hvalues, h⟩ := ok_of_bind h
    obtain ⟨rows, hgot, hread⟩ := got_of_asTask_fetchAs answers hs hvalues
    cases hexpand : expand (placeholderValue values table uuid) template with
    | error e => rw [hexpand] at h; cases h
    | ok expanded =>
      rw [hexpand] at h
      cases h
      exact ⟨values, hexpand, fun _ => ⟨rows, hgot, hread⟩⟩
  · next hplain =>
    -- without placeholders the values make no difference
    cases h
    exact ⟨[], expand_of_not_mem _ hplain, fun hmem => absurd hmem hplain⟩

theorem sharedId_of_ok (hs : site.server = .ofAnswers answers) {path : Text} {uuid : Uuid}
    (h : sharedId site path w = .ok uuid w') : Shared answers site w w' path uuid := by
  obtain ⟨values, v, hvalues, h⟩ := ok_of_bind h
  obtain ⟨rows, hgot, hread⟩ := got_of_asTask_fetchAs answers hs hvalues
  cases values with
  | nil => cases h
  | cons value more =>
    cases hparse : Uuid.parse? value.trim with
    | none => simp only [hparse] at h; cases h
    | some found =>
      simp only [hparse] at h
      cases h
      exact ⟨rows, value, more, hgot, hread, hparse⟩

end Session

end CatalogAdmin
