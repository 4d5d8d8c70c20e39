import CatalogAdmin.TableError

/-!
# Errors that name their table

The wording of an error may name a table: a condition on a request does, unless it is about a path on a
disk, a half-done change does, and so does an error with a table put before it (`TableError.table?`). A
table is put before an error only if the error names none, so an error that an operation fails with names
one table, once.

Results:
1. `kind_named`, `inner_named`, `named_named`: the table changes neither the kind nor the cause, and a
   second one is not put before the first.
2. `text_infix_named`: what names no other table names this one when it is put before it.
3. `halfDone_infix`: a half-done change tells its table and both its UUIDs, whatever is put before it.
-/

namespace CatalogAdmin

/-- The table that the wording of a condition names. -/
def ValidationError.table? : ValidationError → Option TableName
  | .uuidInReplicaPath table _ => some table
  | .sharedIdMismatch table _ _ _ => some table
  | .sameUuid table _ => some table
  | .tableAttached table => some table
  | .missingCatalogFile table _ => some table
  | .pathNotVisible _ _ => none

namespace TableError

/-- The table that the wording of an error names. -/
def table? : TableError → Option TableName
  | .validation e => e.table?
  | .inconsistentState s => some s.table
  | .onTable table _ => some table
  | _ => none

variable {e : TableError} {table other : TableName}

/-! ## The table before an error -/

/-- The table is put before the errors that name none. -/
theorem named_eq (e : TableError) (table : TableName) :
    e.named table = if e.table? = none then .onTable table e else e := by
  cases e with
  | validation v => cases v <;> rfl
  | _ => rfl

theorem kind_named (e : TableError) (table : TableName) : (e.named table).kind = e.kind := by
  rw [named_eq]
  split <;> rfl

theorem inner_named (e : TableError) (table : TableName) : (e.named table).inner = e.inner := by
  rw [named_eq]
  split <;> rfl

/-- An error with a table before it names a table. -/
theorem table?_named_ne_none (e : TableError) (table : TableName) :
    (e.named table).table? ≠ none := by
  rw [named_eq]
  split
  · exact Option.some_ne_none table
  · assumption

/-- A table is put before an error at most once. -/
theorem named_named (e : TableError) (table other : TableName) :
    (e.named table).named other = e.named table := by
  rw [named_eq (e.named table), if_neg (table?_named_ne_none e table)]

/-! ## The innermost error -/

theorem inner_ne_onTable (e : TableError) (table : TableName) (e' : TableError) :
    e.inner ≠ .onTable table e' := by
  induction e with
  | onTable _ e ih => exact ih
  | _ => nofun

/-- An error has the kind of the error underneath all tables. -/
theorem kind_inner (e : TableError) : e.inner.kind = e.kind := by
  induction e with
  | onTable _ e ih => exact ih
  | _ => rfl

/-- An error is of this kind exactly where it tells of a half-done change. -/
theorem kind_eq_inconsistentState_iff :
    e.kind = .inconsistentState ↔ ∃ s, e.inner = .inconsistentState s := by
  induction e with
  | onTable _ e ih => exact ih
  | inconsistentState s => exact ⟨fun _ => ⟨s, rfl⟩, fun _ => rfl⟩
  | metadata m => cases m <;> exact ⟨nofun, nofun⟩
  | _ => exact ⟨nofun, nofun⟩

theorem message_inner_infix (e : TableError) : e.inner.message <:+: e.message := by
  induction e with
  | onTable table e ih => exact ih.trans (List.suffix_append _ _).isInfix
  | _ => exact List.infix_rfl

/-! ## What messages tell -/

theorem text_infix_validation {v : ValidationError} (h : v.table? = some table) :
    table.text <:+: v.message := by
  cases v with
  | uuidInReplicaPath | tableAttached =>
    cases h
    unfold ValidationError.message
    exact List.infix_append _ _ _
  | missingCatalogFile =>
    cases h
    unfold ValidationError.message
    exact (List.infix_append _ _ _).trans (List.prefix_append _ _).isInfix
  | sharedIdMismatch table path requested sharedId =>
    cases h
    have hparts : (ValidationError.sharedIdMismatch table path requested sharedId).message =
        List.flatten ["UUID ", requested.text, " for ", table.text,
          " differs from table_shared_id ", sharedId.text, " recorded at '", path, "'"] := by
      unfold ValidationError.message
      simp only [List.flatten_cons, List.flatten_nil, List.append_nil, List.append_assoc]
    rw [hparts]
    exact List.infix_of_mem_flatten (by simp)
  | sameUuid =>
    cases h
    unfold ValidationError.message
    exact ((List.prefix_append _ _).trans (List.prefix_append _ _)).isInfix
  | pathNotVisible => cases h

/-- The wording of a half-done change tells the table and both UUIDs. -/
theorem infix_inconsistentState (s : HalfDone) {t : Text}
    (ht : t ∈ [s.table.text, s.oldUuid.text, s.newUuid.text]) :
    t <:+: (inconsistentState s).message := by
  have hparts : (inconsistentState s).message =
      List.flatten [s.table.text, " is inconsistent: catalog file ", s.catalogFile.text,
        " now holds UUID ", s.newUuid.text, ", but moving ", s.source.text, " to ", s.target.text,
        " failed: ", s.cause.message, ". Restore UUID ", s.oldUuid.text,
        " in the catalog file or move the store directory by hand before attaching the table"] := by
    unfold message
    simp only [List.flatten_cons, List.flatten_nil, List.append_nil, List.append_assoc]
  rw [hparts]
  refine List.infix_of_mem_flatten ?_
  simp only [List.mem_cons, List.not_mem_nil, or_false] at ht
  rcases ht with rfl | rfl | rfl <;> simp

/-- The wording of an error tells the table that the error names. -/
theorem text_infix (h : e.table? = some table) : table.text <:+: e.message := by
  cases e with
  | validation v => exact text_infix_validation h
  | inconsistentState s =>
    cases h
    exact infix_inconsistentState s List.mem_cons_self
  | onTable t e =>
    cases h
    unfold message
    rw [List.append_assoc]
    exact (List.prefix_append _ _).isInfix
  | _ => cases h

/-- An error that names no other table names this one when it is put before it. -/
theorem text_infix_named (h : ∀ other, e.table? = some other → other = table) :
    table.text <:+: (e.named table).message := by
  rw [named_eq]
  split
  · exact text_infix rfl
  · next hne =>
    obtain ⟨other, hother⟩ := Option.ne_none_iff_exists'.1 hne
    obtain rfl := h other hother
    exact text_infix hother

/-- A half-done change tells its table and both UUIDs, whatever is put before it. -/
theorem halfDone_infix {s : HalfDone} (h : e.inner = .inconsistentState s) {t : Text}
    (ht : t ∈ [s.table.text, s.oldUuid.text, s.newUuid.text]) : t <:+: e.message := by
  have hinner := message_inner_infix e
  rw [h] at hinner
  exact (infix_inconsistentState s ht).trans hinner

end TableError

end CatalogAdmin
