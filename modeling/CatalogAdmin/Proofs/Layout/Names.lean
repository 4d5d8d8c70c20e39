import CatalogAdmin.Layout
import CatalogAdmin.Proofs.FileTree.Locating

/-!
# Names of files

What the steps of a layout's paths are. Every path goes through the parts of the root, then through
names of its own; the names of databases and tables among them are escaped, and an empty name leaves no
part at all.

Results:
1. `escapeName_injective`, `plain_of_mem_escapeName`: an escaped name stands for one name, and holds
   neither a slash nor a dot.
2. `Layout.steps_tableFile`, `Layout.steps_detachedFlag`, `Layout.steps_databaseFile`,
   `Layout.steps_dataLink`: what the walks of these paths go through.
-/

namespace CatalogAdmin

open FileTree (steps IsName)

/-! ## Escaped names -/

/-- What holds of 256 bytes holds of every byte. -/
theorem forall_byte {p : UInt8 → Prop} (h : ∀ n : Nat, n < 256 → p (UInt8.ofNat n)) (b : UInt8) :
    p b := by
  have hb := h b.toNat b.toNat_lt_size
  rwa [UInt8.ofNat_toNat] at hb

/-- The byte that an escaped byte stands for. -/
def byteOf : Text → UInt8
  | ['%', high, low] =>
    match Text.hexDigit? high, Text.hexDigit? low with
    | some h, some l => UInt8.ofNat (h.val * 16 + l.val)
    | _, _ => 0
  | [c] => UInt8.ofNat c.toNat
  | _ => 0

theorem byteOf_escapeByte (b : UInt8) : byteOf (escapeByte b) = b := by
  revert b
  refine forall_byte ?_
  decide +kernel

/-- The first character of an escaped byte tells how many there are. -/
theorem length_escapeByte (b : UInt8) :
    (escapeByte b).length = if (escapeByte b).head? = some '%' then 3 else 1 := by
  revert b
  refine forall_byte ?_
  decide +kernel

theorem plain_of_mem_escapeByte (b : UInt8) : ∀ c ∈ escapeByte b, c ≠ '/' ∧ c ≠ '.' := by
  -- a check of the characters that there are, not of all characters
  have hall : ∀ b : UInt8, ((escapeByte b).all fun c => c ≠ '/' ∧ c ≠ '.') = true := by
    refine forall_byte ?_
    decide +kernel
  intro c hc
  exact of_decide_eq_true (List.all_eq_true.1 (hall b) c hc)

theorem escapeByte_ne_nil (b : UInt8) : escapeByte b ≠ [] := by
  intro h
  have hlen := length_escapeByte b
  rw [h] at hlen
  cases hlen

/-- An escaped byte can be told from what stands behind it. -/
theorem escapeByte_append_inj {a b : UInt8} {s t : Text}
    (h : escapeByte a ++ s = escapeByte b ++ t) : a = b ∧ s = t := by
  have hhead : (escapeByte a).head? = (escapeByte b).head? := by
    obtain ⟨c, front, ha⟩ := List.exists_cons_of_ne_nil (escapeByte_ne_nil a)
    obtain ⟨d, front', hb⟩ := List.exists_cons_of_ne_nil (escapeByte_ne_nil b)
    rw [ha, hb] at h ⊢
    rw [(List.cons.inj h).1]
    rfl
  have hlen : (escapeByte a).length = (escapeByte b).length := by
    rw [length_escapeByte, length_escapeByte, hhead]
  obtain ⟨hab, hst⟩ := List.append_inj h hlen
  refine ⟨?_, hst⟩
  rw [← byteOf_escapeByte a, hab, byteOf_escapeByte]

theorem flatMap_escapeByte_inj {as bs : List UInt8}
    (h : as.flatMap escapeByte = bs.flatMap escapeByte) : as = bs := by
  induction as generalizing bs with
  | nil =>
    cases bs with
    | nil => rfl
    | cons b bs =>
      have hnil := (List.append_eq_nil_iff.1 h.symm).1
      exact absurd hnil (escapeByte_ne_nil b)
  | cons a as ih =>
    cases bs with
    | nil =>
      have hnil := (List.append_eq_nil_iff.1 h).1
      exact absurd hnil (escapeByte_ne_nil a)
    | cons b bs =>
      obtain ⟨rfl, hrest⟩ := escapeByte_append_inj h
      rw [ih hrest]

/-- A text is its UTF-8 form. -/
theorem flatMap_utf8EncodeChar_inj {s t : Text}
    (h : s.flatMap String.utf8EncodeChar = t.flatMap String.utf8EncodeChar) : s = t := by
  have hbytes : (String.ofList s).toByteArray = (String.ofList t).toByteArray :=
    congrArg List.toByteArray h
  exact String.ofList_inj.1 (String.toByteArray_inj.1 hbytes)

theorem escapeName_injective {s t : Text} (h : escapeName s = escapeName t) : s = t :=
  flatMap_utf8EncodeChar_inj (flatMap_escapeByte_inj h)

theorem plain_of_mem_escapeName {name : Text} {c : Char} (h : c ∈ escapeName name) :
    c ≠ '/' ∧ c ≠ '.' := by
  obtain ⟨b, _, hc⟩ := List.mem_flatMap.1 h
  exact plain_of_mem_escapeByte b c hc

theorem slash_not_mem_escapeName (name : Text) : '/' ∉ escapeName name :=
  fun h => (plain_of_mem_escapeName h).1 rfl

theorem dot_not_mem_escapeName (name : Text) : '.' ∉ escapeName name :=
  fun h => (plain_of_mem_escapeName h).2 rfl

theorem escapeName_ne_nil {name : Text} (h : name ≠ []) : escapeName name ≠ [] :=
  fun hnil => h (escapeName_injective hnil)

/-- The parts of an escaped name: an empty name has none. -/
def nameParts (name : Text) : List Text := if name = [] then [] else [escapeName name]

theorem nameParts_of_ne_nil {name : Text} (h : name ≠ []) : nameParts name = [escapeName name] :=
  if_neg h

theorem parts_escapeName (name : Text) : Path.parts ⟨escapeName name⟩ = nameParts name := by
  rw [Path.parts, Text.fields_of_not_mem (slash_not_mem_escapeName name), nameParts]
  split
  · next h => subst h; rfl
  · next h => exact List.filter_cons_of_pos (decide_eq_true (escapeName_ne_nil h))

/-! ## Joined paths -/

namespace Path

/-- A text without a slash is a relative path, with itself as its only part. -/
theorem isAbsolute_of_not_mem {text : Text} (h : '/' ∉ text) : Path.isAbsolute ⟨text⟩ = false :=
  decide_eq_false fun hhead => h (List.mem_of_head? hhead)

theorem parts_of_not_mem {text : Text} (h : '/' ∉ text) (hne : text ≠ []) :
    Path.parts ⟨text⟩ = [text] := by
  rw [parts, Text.fields_of_not_mem h]
  exact List.filter_cons_of_pos (decide_eq_true hne)

theorem exists_text_join (base : Path) {p : Path} (h : p.isAbsolute = false) :
    ∃ front, (base.join p).text = front ++ p.text := by
  unfold join
  simp only [h, Bool.false_eq_true, if_false]
  split
  · exact ⟨_, rfl⟩
  · exact ⟨base.text ++ ['/'], by simp⟩

theorem endsInSlash_join_name (base : Path) {name : Text} (h : '/' ∉ name) (hne : name ≠ []) :
    (base.join ⟨name⟩).endsInSlash = false := by
  obtain ⟨front, hfront⟩ := exists_text_join base (isAbsolute_of_not_mem h)
  obtain ⟨start, c, hname⟩ := List.eq_nil_or_concat name |>.resolve_left hne
  have hc : c ≠ '/' := by
    rintro rfl
    exact h (by simp [hname])
  rw [endsInSlash, hfront, hname]
  simpa [← List.append_assoc] using hc

/-- A name below a path is the last step there. -/
theorem steps_join_name (base : Path) {name : Text} (h : '/' ∉ name) (hne : name ≠ []) :
    steps (base.join ⟨name⟩) = base.parts ++ [name] := by
  rw [steps, endsInSlash_join_name base h hne, parts_join (isAbsolute_of_not_mem h),
    parts_of_not_mem h hne]
  rfl

/-- Behind an empty name a path ends in a slash, unless there is nothing before it. -/
theorem steps_join_empty {base : Path} (h : base.text ≠ []) :
    steps (base.join ⟨[]⟩) = base.parts ++ [("." : Text)] := by
  have hrelative : Path.isAbsolute ⟨[]⟩ = false := rfl
  have hend : (base.join ⟨[]⟩).endsInSlash = true := by
    have hnot : base.text.isEmpty = false := by simpa using h
    unfold join
    simp only [hrelative, Bool.false_eq_true, if_false, hnot, Bool.false_or]
    split
    · next hslash => simpa [endsInSlash] using hslash
    · simp [endsInSlash]
  rw [steps, hend, parts_join hrelative]
  simp [parts, Text.fields]

theorem text_join_ne_nil {base p : Path} (h : p.isAbsolute = false)
    (hne : base.text ≠ [] ∨ p.text ≠ []) : (base.join p).text ≠ [] := by
  unfold join
  simp only [h, Bool.false_eq_true, if_false]
  rcases hne with hne | hne
  · split <;> simp [hne]
  · split <;> simp [hne]

end Path

/-! ## Paths under the root -/

/-- The name of the directory that catalog files are in. -/
def metadataName : Text := "metadata"

theorem slash_not_mem_metadataName : '/' ∉ metadataName := by decide

/-- The name of the directory that the tables' links are in. -/
def dataName : Text := "data"

/-- The name of the catalog file of a database or table. -/
def catalogName (name : Text) : Text := escapeName name ++ ".sql"

/-- The name of the marker beside a table's catalog file. -/
def flagName (name : Text) : Text := catalogName name ++ ".detached"

theorem slash_not_mem_catalogName (name : Text) : '/' ∉ catalogName name := by
  simp [catalogName, slash_not_mem_escapeName]

theorem slash_not_mem_flagName (name : Text) : '/' ∉ flagName name := by
  simp [flagName, slash_not_mem_catalogName]

theorem catalogName_ne_nil (name : Text) : catalogName name ≠ [] := by
  simp [catalogName]

theorem flagName_ne_nil (name : Text) : flagName name ≠ [] := by
  simp [flagName, catalogName_ne_nil]

theorem dot_mem_flagName (name : Text) : '.' ∈ flagName name := by
  have hsuffix : '.' ∈ (".detached" : Text) := by decide
  exact List.mem_append_right _ hsuffix

theorem catalogName_injective {name other : Text} (h : catalogName name = catalogName other) :
    name = other :=
  escapeName_injective (List.append_cancel_right h)

theorem flagName_injective {name other : Text} (h : flagName name = flagName other) : name = other :=
  catalogName_injective (List.append_cancel_right h)

theorem escapeName_ne_catalogName (name other : Text) : escapeName name ≠ catalogName other := by
  intro h
  have hdot : '.' ∈ catalogName other := List.mem_append_right _ (by decide : '.' ∈ (".sql" : Text))
  exact dot_not_mem_escapeName name (h ▸ hdot)

/-- A flag has another ending than a catalog file. -/
theorem flagName_ne_catalogName (name other : Text) : flagName name ≠ catalogName other := by
  intro h
  have hlast := congrArg List.getLast? h
  simp only [flagName, catalogName, List.getLast?_append] at hlast
  -- a flag's name closes with a `d`, a catalog file's with an `l`
  have hends : some 'd' = some 'l' := hlast
  cases hends

theorem not_dots_of_length {name : Text} (h : 3 ≤ name.length) : name ≠ "." ∧ name ≠ ".." := by
  constructor
  · rintro rfl
    exact absurd h (by decide)
  · rintro rfl
    exact absurd h (by decide)

theorem catalogName_not_dots (name : Text) : catalogName name ≠ "." ∧ catalogName name ≠ ".." :=
  not_dots_of_length (by simp [catalogName])

theorem flagName_not_dots (name : Text) : flagName name ≠ "." ∧ flagName name ≠ ".." :=
  not_dots_of_length (by simp [flagName])

theorem escapeName_not_dots (name : Text) : escapeName name ≠ "." ∧ escapeName name ≠ ".." := by
  have hdot := dot_not_mem_escapeName name
  constructor
  · intro h
    rw [h] at hdot
    exact hdot (by decide)
  · intro h
    rw [h] at hdot
    exact hdot (by decide)

/-- The names from the root to the link of a table. -/
def linkNames (table : TableName) : List Text :=
  [dataName, escapeName table.database, escapeName table.table]

/-- The names from the root to the catalog file of a table. -/
def fileNames (table : TableName) : List Text :=
  [metadataName, escapeName table.database, catalogName table.table]

theorem fileNames_injective {a b : TableName} (h : fileNames a = fileNames b) : a = b := by
  obtain ⟨database, name⟩ := a
  simp only [fileNames, List.cons.injEq, true_and, and_true] at h
  rw [escapeName_injective h.1, catalogName_injective h.2]

theorem linkNames_injective {a b : TableName} (h : linkNames a = linkNames b) : a = b := by
  obtain ⟨database, name⟩ := a
  simp only [linkNames, List.cons.injEq, true_and, and_true] at h
  rw [escapeName_injective h.1, escapeName_injective h.2]

namespace Layout

variable (l : Layout) (table : TableName)

/-- The parts of the directory that a table's catalog file is in. -/
def metadataParts (database : Text) : List Text :=
  l.root.parts ++ [metadataName] ++ nameParts database

/-- The parts of the directory that a table's link is in. -/
def dataParts (database : Text) : List Text := l.root.parts ++ [dataName] ++ nameParts database

theorem relative_escapeName (name : Text) : Path.isAbsolute ⟨escapeName name⟩ = false :=
  Path.isAbsolute_of_not_mem (slash_not_mem_escapeName name)

theorem parts_below (directory : Text) (hslash : '/' ∉ directory) (hne : directory ≠ [])
    (database : Text) :
    ((l.root.join ⟨directory⟩).join ⟨escapeName database⟩).parts =
      l.root.parts ++ [directory] ++ nameParts database := by
  rw [Path.parts_join (relative_escapeName database),
    Path.parts_join (Path.isAbsolute_of_not_mem hslash), Path.parts_of_not_mem hslash hne,
    parts_escapeName]

theorem steps_tableFile :
    steps (l.tableFile table) = l.metadataParts table.database ++ [catalogName table.table] := by
  have hbase := l.parts_below metadataName (by decide) (by decide) table.database
  show steps (Path.join _ ⟨catalogName table.table⟩) = _
  rw [Path.steps_join_name _ (slash_not_mem_catalogName _) (catalogName_ne_nil _)]
  exact congrArg (· ++ [catalogName table.table]) hbase

theorem extend_join (base : Path) {name suffix : Text} (h : '/' ∉ name ++ suffix) :
    (base.join ⟨name⟩).extend suffix = base.join ⟨name ++ suffix⟩ := by
  have hname : Path.isAbsolute ⟨name⟩ = false :=
    Path.isAbsolute_of_not_mem fun hmem => h (List.mem_append_left _ hmem)
  unfold Path.join Path.extend
  simp only [hname, Path.isAbsolute_of_not_mem h, Bool.false_eq_true, if_false]
  split <;> simp

theorem detachedFlag_eq : l.detachedFlag table =
    ((l.root.join ⟨metadataName⟩).join ⟨escapeName table.database⟩).join ⟨flagName table.table⟩ :=
  extend_join _ (slash_not_mem_flagName table.table)

/-- The flag is beside the catalog file. -/
theorem steps_detachedFlag :
    steps (l.detachedFlag table) = l.metadataParts table.database ++ [flagName table.table] := by
  have hbase := l.parts_below metadataName (by decide) (by decide) table.database
  rw [l.detachedFlag_eq, Path.steps_join_name _ (slash_not_mem_flagName _) (flagName_ne_nil _)]
  exact congrArg (· ++ [flagName table.table]) hbase

theorem steps_databaseFile (database : Text) :
    steps (l.databaseFile database) = l.root.parts ++ [metadataName] ++ [catalogName database] := by
  show steps (Path.join (l.root.join ⟨metadataName⟩) ⟨catalogName database⟩) = _
  rw [Path.steps_join_name _ (slash_not_mem_catalogName _) (catalogName_ne_nil _),
    Path.parts_join (p := ⟨metadataName⟩) (Path.isAbsolute_of_not_mem slash_not_mem_metadataName),
    Path.parts_of_not_mem slash_not_mem_metadataName (by decide)]

/-- Without a name of its own a table has no link but the directory of its database. -/
theorem steps_dataLink :
    steps (l.dataLink table) = l.dataParts table.database ++
      if table.table = [] then [("." : Text)] else [escapeName table.table] := by
  have hbase := l.parts_below dataName (by decide) (by decide) table.database
  show steps (Path.join ((l.root.join ⟨dataName⟩).join ⟨escapeName table.database⟩)
    ⟨escapeName table.table⟩) = _
  split
  · next hempty =>
    have hdata : (l.root.join ⟨dataName⟩).text ≠ [] :=
      Path.text_join_ne_nil (Path.isAbsolute_of_not_mem (by decide)) (.inr (by decide))
    have htext : ((l.root.join ⟨dataName⟩).join ⟨escapeName table.database⟩).text ≠ [] :=
      Path.text_join_ne_nil (relative_escapeName _) (.inl hdata)
    rw [hempty]
    show steps (Path.join _ ⟨[]⟩) = _
    rw [Path.steps_join_empty htext]
    exact congrArg (· ++ [("." : Text)]) hbase
  · next hne =>
    rw [Path.steps_join_name _ (slash_not_mem_escapeName _) (escapeName_ne_nil hne)]
    exact congrArg (· ++ [escapeName table.table]) hbase

end Layout

/-! ## Where the walks start -/

namespace FileTree

variable (t : FileTree) (l : Layout) (table : TableName)

theorem origin_congr {p q : Path} (h : p.isAbsolute = q.isAbsolute) : t.origin p = t.origin q := by
  rw [origin, origin, h]

theorem isAbsolute_below (root : Path) {directory first second : Text} (hd : '/' ∉ directory)
    (h₁ : '/' ∉ first) (h₂ : '/' ∉ second) :
    (((root.join ⟨directory⟩).join ⟨first⟩).join ⟨second⟩).isAbsolute = root.isAbsolute := by
  rw [Path.isAbsolute_join_of_relative _ (Path.isAbsolute_of_not_mem h₂),
    Path.isAbsolute_join_of_relative _ (Path.isAbsolute_of_not_mem h₁),
    Path.isAbsolute_join_of_relative _ (Path.isAbsolute_of_not_mem hd)]

theorem origin_tableFile : t.origin (l.tableFile table) = t.origin l.root :=
  t.origin_congr (isAbsolute_below l.root (by decide) (slash_not_mem_escapeName _)
    (slash_not_mem_catalogName _))

theorem isAbsolute_dataLink_eq : (l.dataLink table).isAbsolute = l.root.isAbsolute :=
  isAbsolute_below l.root (by decide) (slash_not_mem_escapeName _) (slash_not_mem_escapeName _)

theorem origin_dataLink : t.origin (l.dataLink table) = t.origin l.root :=
  t.origin_congr (isAbsolute_dataLink_eq l table)

theorem origin_detachedFlag : t.origin (l.detachedFlag table) = t.origin l.root := by
  rw [l.detachedFlag_eq]
  exact t.origin_congr <|
    isAbsolute_below l.root (by decide) (slash_not_mem_escapeName _) (slash_not_mem_flagName _)

theorem origin_databaseFile (database : Text) :
    t.origin (l.databaseFile database) = t.origin l.root := by
  refine t.origin_congr ?_
  show (Path.join (l.root.join ⟨metadataName⟩) ⟨catalogName database⟩).isAbsolute = _
  rw [Path.isAbsolute_join_of_relative _ (Path.isAbsolute_of_not_mem (slash_not_mem_catalogName _)),
    Path.isAbsolute_join_of_relative _ (Path.isAbsolute_of_not_mem (by decide))]

theorem origin_storeDirectory (u : Uuid) : t.origin (l.storeDirectory u) = t.origin l.root :=
  t.origin_congr (Path.isAbsolute_join_of_relative _ (by rfl))

end FileTree

end CatalogAdmin
