import CatalogAdmin.UuidChange
import CatalogAdmin.Proofs.Coordination.Lookups
import CatalogAdmin.Proofs.Text.Cut

/-!
# What validation asks and finds out

Before anything is changed, a change of UUID asks the server for the table and validates the catalog
file. Against a server that only answers, all of this sends `SELECT` queries and does nothing else
(`selects_tableInfo?`, `selects_validateUuidChange`). Where validation lets a change go on,
`validateUuidChange_of_ok` says what it has found: the record has another UUID, and the replicas of a
replicated table agree on the new one (`Agreed`).
-/

namespace CatalogAdmin

open Session

/-! ## Queries -/

/-- The query for a table. -/
def presenceQuery (site : Site) (table : TableName) : Sent :=
  ⟨.fetch, tableQuery site table "SELECT toString(uuid) AS uuid, metadata_path FROM system.tables "⟩

theorem presenceQuery_select (site : Site) (table : TableName) :
    (presenceQuery site table).query.sql.startsWith "SELECT" = true := by
  rw [Text.startsWith_iff]
  exact ⟨_, rfl⟩

variable {answers : List Sent → Sent → Except ClientError (List Row)} {site : Site}
  {table : TableName} {newUuid : Uuid} {w w' : World}

/-! ## Asking for the table -/

/-- On the way from `w` to `w'` the server was asked for a table, and told this of it: what its first
row says, and nothing where it has no row. -/
def Reported (answers : List Sent → Sent → Except ClientError (List Row)) (site : Site)
    (table : TableName) (w w' : World) (info : Option TableInfo) : Prop :=
  ∃ rows infos, World.Got answers w w' (presenceQuery site table) rows ∧
    rows.mapM TableInfo.ofRow? = some infos ∧ infos.head? = info

theorem Reported.extend {w₁ : World} {info : Option TableInfo} {later : List Sent}
    (h : Reported answers site table w w₁ info) (hl : w'.sent = w₁.sent ++ later) :
    Reported answers site table w w' info := by
  obtain ⟨rows, infos, hgot, hread, hhead⟩ := h
  exact ⟨rows, infos, hgot.extend (List.append_nil _).symm hl, hread, hhead⟩

namespace Session

theorem tableInfo?_of_ok (hs : site.server = .ofAnswers answers) {info : Option TableInfo}
    (h : tableInfo? site table w = .ok info w') : Reported answers site table w w' info := by
  obtain ⟨infos, v, hinfos, hend⟩ := ok_of_bind h
  cases hend
  obtain ⟨rows, hgot, hread⟩ := got_of_asTask_fetchAs answers hs hinfos
  exact ⟨rows, infos, hgot, hread, rfl⟩

theorem selects_tableInfo? (hs : site.server = .ofAnswers answers) (table : TableName) :
    Keeps World.OnlySelected (tableInfo? site table) :=
  (selects_asTask_fetchAs answers hs _ _ (presenceQuery_select site table)).bind .trans
    fun _ => Keeps.pure .refl _

end Session

/-! ## Validation -/

/-- On the way from `w` to `w'` the replicas of a table were found to share `newUuid`, at a path that
does not depend on the table's UUID. A table without replicas has nothing to agree on. -/
def Agreed (answers : List Sent → Sent → Except ClientError (List Row)) (site : Site)
    (table : TableName) (newUuid : Uuid) (w w' : World) (record : Catalog.Record) : Prop :=
  ∀ replica, record.engine = .replicated replica →
    ¬ ("\x7buuid\x7d" : Text) <:+: replica.path ∧
    ∃ path, Expanded answers site table record.uuid w w' replica.path path ∧
      Shared answers site w w' path newUuid

/-- What the replicas were found to agree on, they agree on also in a longer run. -/
theorem Agreed.extend {w₁ w₂ : World} {record : Catalog.Record} {before after : List Sent}
    (h : Agreed answers site table newUuid w₁ w₂ record) (hb : w₁.sent = w.sent ++ before)
    (ha : w'.sent = w₂.sent ++ after) : Agreed answers site table newUuid w w' record := by
  intro replica hr
  obtain ⟨hfixed, path, hexpanded, hshared⟩ := h replica hr
  exact ⟨hfixed, path, hexpanded.extend hb ha, hshared.extend hb ha⟩

theorem mentions_uuid_iff (replica : Catalog.Replica) :
    replica.mentions "uuid" = true ↔ ("\x7buuid\x7d" : Text) <:+: replica.path := by
  have : '{' :: "uuid".toList ++ ['}'] = "\x7buuid\x7d".toList := by decide
  rw [Catalog.Replica.mentions, this]
  exact Text.contains_iff

namespace Session

theorem selects_validateUuidChange (hs : site.server = .ofAnswers answers) (table : TableName)
    (catalogFile : Path) (newUuid : Uuid) :
    Keeps World.OnlySelected (validateUuidChange site table catalogFile newUuid) := by
  unfold validateUuidChange
  refine (Keeps.adaptExcept _ (Keeps.look .refl _)).bind .trans fun record => ?_
  split
  · exact Keeps.check .refl (Keeps.pure .refl _)
  · next replica _ =>
    refine Keeps.check .refl (Keeps.check .refl ?_)
    refine (selects_expandFor hs replica.path table record.uuid).bind .trans fun path => ?_
    refine (selects_sharedId hs path).bind .trans fun shared => ?_
    exact Keeps.check .refl (Keeps.pure .refl _)

/-- The steps that validation has taken when it lets a change go on. -/
theorem steps_of_validateUuidChange {catalogFile : Path} {record : Catalog.Record}
    (h : validateUuidChange site table catalogFile newUuid w = .ok record w') :
    Catalog.readRecord w.tree catalogFile = .ok record ∧ record.uuid ≠ newUuid ∧
      ∀ replica, record.engine = .replicated replica →
        replica.mentions "uuid" = false ∧
        ∃ path w₁, expandFor site replica.path table record.uuid w = .ok path w₁ ∧
          sharedId site path w₁ = .ok newUuid w' := by
  unfold validateUuidChange at h
  obtain ⟨found, v, hread, hrun⟩ := ok_of_bind h
  obtain ⟨hrecord, rfl⟩ : Catalog.readRecord w.tree catalogFile = .ok found ∧ v = w := by
    have := ok_of_adaptExcept hread
    cases hr : Catalog.readRecord w.tree catalogFile with
    | ok r => rw [look_of_ok hr] at this; cases this; exact ⟨rfl, rfl⟩
    | error e => rw [look_of_error hr] at this; cases this
  obtain ⟨hne, hengine⟩ := ok_of_check hrun
  cases he : found.engine with
  | plain =>
    simp only [he, Catalog.Engine.replica?] at hengine
    cases hengine
    refine ⟨hrecord, hne, fun replica hr => ?_⟩
    rw [he] at hr
    cases hr
  | replicated replica =>
    simp only [he, Catalog.Engine.replica?] at hengine
    obtain ⟨hfixed, hagree⟩ := ok_of_check hengine
    obtain ⟨path, v₁, hexpand, hagree⟩ := ok_of_bind hagree
    obtain ⟨shared, v₂, hshared, hagree⟩ := ok_of_bind hagree
    obtain ⟨hsame, hend⟩ := ok_of_check hagree
    cases hend
    obtain rfl : shared = newUuid := by simpa using hsame
    refine ⟨hrecord, hne, fun replica' hr => ?_⟩
    rw [he] at hr
    cases hr
    exact ⟨by simpa using hfixed, path, v₁, hexpand, hshared⟩

/-- What validation has found when it lets a change go on. -/
theorem validateUuidChange_of_ok (hs : site.server = .ofAnswers answers) {catalogFile : Path}
    {record : Catalog.Record}
    (h : validateUuidChange site table catalogFile newUuid w = .ok record w') :
    Catalog.readRecord w.tree catalogFile = .ok record ∧ record.uuid ≠ newUuid ∧
      Agreed answers site table newUuid w w' record := by
  obtain ⟨hrecord, hne, hreplicated⟩ := steps_of_validateUuidChange h
  refine ⟨hrecord, hne, fun replica hr => ?_⟩
  obtain ⟨hfixed, path, w₁, hexpand, hshared⟩ := hreplicated replica hr
  obtain ⟨asked₁, hsent₁, -⟩ := ((selects_expandFor hs _ _ _).ok hexpand).sent_eq
  obtain ⟨asked₂, hsent₂, -⟩ := ((selects_sharedId hs path).ok hshared).sent_eq
  have unchanged : ∀ sent : List Sent, sent = sent ++ [] := fun sent => (List.append_nil sent).symm
  refine ⟨?_, path, (expandFor_of_ok hs hexpand).extend (unchanged _) hsent₂,
    (sharedId_of_ok hs hshared).extend hsent₁ (unchanged _)⟩
  rw [← mentions_uuid_iff, hfixed]
  decide

end Session

end CatalogAdmin
