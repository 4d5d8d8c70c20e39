import CatalogAdmin.Rehearsal
import CatalogAdmin.Proofs.Catalog.File
import CatalogAdmin.Proofs.UuidChange.Validation

/-!
# Templates that do not depend on the UUID

Expansion looks up the names that the template holds in braces, and no others (`expandFrom_congr`).
So a path in which `{uuid}` does not stand is expanded without looking at the table's UUID, and the
node that was checked before a change is the table's node after it.

Results:
1. `expandFor_of_unmentioned`: such a path is expanded alike for every two UUIDs.
2. `expandFor_fixed`: the node that validation asked about is that of the table with its new UUID.
-/

namespace CatalogAdmin

open Session

/-! ## Names in braces -/

/-- A name in braces. -/
def braced (name : Text) : Text := '{' :: name ++ ['}']

/-- What is left of a template, with the part of a placeholder that has been read already. -/
def unread : Option Text → Text → Text
  | none, rest => rest
  | some name, rest => '{' :: (name ++ rest)

/-- Two lookups that agree on every name a template holds in braces expand it alike. -/
theorem expandFrom_congr {f g : Text → Option Text} {state : Option Text} {t : Text}
    (h : ∀ name, braced name <:+: unread state t → f name = g name) :
    expandFrom f state t = expandFrom g state t := by
  fun_induction expandFrom g state t with
  | case1 => rfl
  | case2 name => rfl
  | case3 rest ih => rw [expandFrom, ih h]
  | case4 c rest hc ih =>
    rw [expandFrom.eq_4 _ _ _ hc, ih]
    intro name hname
    exact h name (hname.trans (List.suffix_cons c rest).isInfix)
  | case5 name rest hnone =>
    -- the name is looked up where its braces close
    have hname : braced name <:+: unread (some name) ('}' :: rest) :=
      ⟨[], rest, by simp [braced, unread]⟩
    simp only [expandFrom, h name hname, hnone]
  | case6 name rest value hvalue ih =>
    have hname : braced name <:+: unread (some name) ('}' :: rest) :=
      ⟨[], rest, by simp [braced, unread]⟩
    have hrest : rest <:+: unread (some name) ('}' :: rest) :=
      ⟨braced name, [], by simp [braced, unread]⟩
    simp only [expandFrom, h name hname, hvalue]
    rw [ih fun other ho => h other (ho.trans hrest)]
  | case7 name c rest hc ih =>
    rw [expandFrom.eq_6 _ _ _ _ hc, ih]
    intro other hother
    refine h other ?_
    simpa [unread] using hother

/-- Expansion looks at nothing but the names that a template holds in braces. -/
theorem expand_congr {f g : Text → Option Text} {template : Text}
    (h : ∀ name, braced name <:+: template → f name = g name) :
    expand f template = expand g template := by
  have hfrom : expandFrom f none template = expandFrom g none template := expandFrom_congr h
  rw [expand, expand, hfrom]

/-- Only the placeholder of the UUID has a value that depends on it. -/
theorem placeholderValue_eq (values : List (Text × Text)) (table : TableName) (u v : Uuid)
    {name : Text} (h : name ≠ "uuid") :
    placeholderValue values table u name = placeholderValue values table v name := by
  unfold placeholderValue
  rw [if_neg h, if_neg h]

/-! ## Paths without the UUID -/

variable {replica : Catalog.Replica}

theorem expand_of_unmentioned (h : replica.mentions "uuid" = false) (values : List (Text × Text))
    (table : TableName) (u v : Uuid) :
    expand (placeholderValue values table u) replica.path =
      expand (placeholderValue values table v) replica.path := by
  refine expand_congr fun name hname => placeholderValue_eq values table u v ?_
  rintro rfl
  have hmentions : replica.mentions "uuid" = true := Text.contains_iff.2 hname
  rw [h] at hmentions
  cases hmentions

theorem expandFor_of_unmentioned (h : replica.mentions "uuid" = false) (site : Site)
    (table : TableName) (u v : Uuid) :
    expandFor site replica.path table u = expandFor site replica.path table v := by
  unfold expandFor
  simp only [expand_of_unmentioned h _ table u v]

/-- A path in which the placeholder of the UUID does not stand is expanded alike for every two UUIDs,
by any server, with the same result or the same error. So the node at which validation found the new
UUID is also the node of the table whose file has taken that UUID. -/
theorem expandFor_fixed (site : Site) (table : TableName) :
    (∀ replica : Catalog.Replica, replica.mentions "uuid" = false → ∀ u v,
      (∀ values, expand (placeholderValue values table u) replica.path =
        expand (placeholderValue values table v) replica.path) ∧
      expandFor site replica.path table u = expandFor site replica.path table v) ∧
    ∀ catalogFile newUuid record replica w w',
      validateUuidChange site table catalogFile newUuid w = .ok record w' →
      record.engine = .replicated replica →
      ∃ text path w₁, w.tree.readText catalogFile = .ok text ∧
        expandFor site replica.path table record.uuid w = .ok path w₁ ∧
        sharedId site path w₁ = .ok newUuid w' ∧
        ∀ previous changed, Catalog.replaceUuid text newUuid = .ok (previous, changed) →
          ∃ after, Catalog.Record.parse changed = .ok after ∧ after.uuid = newUuid ∧
            after.engine = .replicated replica ∧
            expandFor site replica.path table after.uuid w = .ok path w₁ := by
  constructor
  · intro replica h u v
    exact ⟨fun values => expand_of_unmentioned h values table u v,
      expandFor_of_unmentioned h site table u v⟩
  · intro catalogFile newUuid record replica w w' hvalid hengine
    obtain ⟨hrecord, -, hreplicated⟩ := steps_of_validateUuidChange hvalid
    obtain ⟨text, hread, hparse⟩ := Catalog.readRecord_eq_ok_iff.1 hrecord
    obtain ⟨hfixed, path, w₁, hexpand, hshared⟩ := hreplicated replica hengine
    refine ⟨text, path, w₁, hread, hexpand, hshared, ?_⟩
    intro previous changed hreplace
    refine ⟨_, Catalog.parse_replaceUuid hparse hreplace, rfl, hengine, ?_⟩
    rw [expandFor_of_unmentioned hfixed site table newUuid record.uuid]
    exact hexpand

/-! ## A shard that is named by braces -/

/-- A replica whose path holds braces within braces. -/
def shardedReplica : Catalog.Replica := ⟨"/t/\x7btable\x7d/\x7bsh\x7bard\x7d", none, "\x7breplica\x7d"⟩

/-- The catalog file of a table with that replica. -/
def shardedTree : FileTree where
  entries :=
    [(["srv"], .directory),
      (["srv", "t.sql"],
        .file ⟨.text ("ATTACH TABLE _ UUID '" ++ (Uuid.constant 0).text ++
          "'\nENGINE = ReplicatedMergeTree('" ++ shardedReplica.path ++ "', '" ++ shardedReplica.name ++
          "')\n"), 0o640, 7, 7⟩)]

/-- A site whose server has values that look like placeholders themselves, and the new UUID at the
node that the replicas share. -/
def shardedSite : Site where
  settings := { paths := { root := "/srv" } }
  server := Rehearsal.server
    [{ mark := "system.macros",
       answer := .ok [[("macro", .string "uuid"), ("substitution", .string "other")],
         [("macro", .string "sh\x7bard"), ("substitution", .string "\x7buuid\x7d")]] },
     { mark := "system.zookeeper",
       answer := .ok [[("value", .string (Uuid.constant 1).text)]] }]
  remover := Rehearsal.remover [] []

/-- The replica of a table that was found valid. -/
def validReplica? : EStateM.Result TableError World Catalog.Record → Option Catalog.Replica
  | .ok record _ => record.engine.replica?
  | .error _ _ => none

theorem exists_of_validReplica? {r : EStateM.Result TableError World Catalog.Record}
    {replica : Catalog.Replica} (h : validReplica? r = some replica) :
    ∃ record w', r = .ok record w' ∧ record.engine = .replicated replica := by
  cases r with
  | error => cases h
  | ok record w' =>
    refine ⟨record, w', rfl, ?_⟩
    cases he : record.engine with
    | plain => rw [validReplica?, he] at h; cases h
    | replicated found =>
      rw [validReplica?, he] at h
      cases h
      rfl

/-- Neither braces within braces nor a value that looks like the placeholder of the UUID make the node
depend on the UUID. -/
theorem expandFor_fixed_sharded :
    shardedReplica.mentions "uuid" = false ∧
      expandFor shardedSite shardedReplica.path ⟨"db", "t"⟩ (Uuid.constant 0) =
        expandFor shardedSite shardedReplica.path ⟨"db", "t"⟩ (Uuid.constant 1) ∧
      ∃ record w' path w₁,
        validateUuidChange shardedSite ⟨"db", "t"⟩ "/srv/t.sql" (Uuid.constant 1)
          { tree := shardedTree } = .ok record w' ∧
        expandFor shardedSite shardedReplica.path ⟨"db", "t"⟩ record.uuid { tree := shardedTree } =
          .ok path w₁ ∧
        sharedId shardedSite path w₁ = .ok (Uuid.constant 1) w' := by
  have hfixed : shardedReplica.mentions "uuid" = false := by decide
  have hrun : validReplica? (validateUuidChange shardedSite ⟨"db", "t"⟩ "/srv/t.sql"
      (Uuid.constant 1) { tree := shardedTree }) = some shardedReplica := by
    decide +kernel
  obtain ⟨hsame, hvalidated⟩ := expandFor_fixed shardedSite ⟨"db", "t"⟩
  obtain ⟨record, w', hvalid, hengine⟩ := exists_of_validReplica? hrun
  obtain ⟨text, path, w₁, -, hexpand, hshared, -⟩ := hvalidated _ _ _ _ _ _ hvalid hengine
  exact ⟨hfixed, (hsame _ hfixed _ _).2, record, w', path, w₁, hvalid, hexpand, hshared⟩

end CatalogAdmin
