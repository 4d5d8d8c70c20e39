import CatalogAdmin.Proofs.Layout.Names
import CatalogAdmin.Proofs.Layout.Store

/-!
# No two objects share a path

A layout has paths of five kinds (`Layout.Entry`): catalog files of tables and of databases, flags, links
and store directories. Each of them is the root's path with a few names put below it, of which the first
says which directory it is in (`Layout.Entry.path_eq`). The names of objects are escaped: they hold
neither slashes nor dots, and can be read back (`unescapeName_escapeName`), so none leads out of that
directory.

* `Layout.entries_apart`: paths of different entries have different components, whatever the root's path
  is. Without names it fails: the table `t` of the database without a name has the catalog file of the
  database `t`.
-/

namespace CatalogAdmin

/-! ## Reading escaped names -/

/-- The bytes that escaped bytes stand for. -/
def unescapeBytes : Text → List UInt8
  | '%' :: high :: low :: rest => byteOf ['%', high, low] :: unescapeBytes rest
  | c :: rest => byteOf [c] :: unescapeBytes rest
  | [] => []

/-- The name that an escaped name stands for. -/
def unescapeName (escaped : Text) : Text :=
  (unescapeBytes escaped).toByteArray.utf8Decode?.elim [] Array.toList

/-- An escaped byte is one character that is no percent sign, or three of which the first is one. -/
theorem escapeByte_cases (b : UInt8) :
    (∃ c, c ≠ '%' ∧ escapeByte b = [c]) ∨ ∃ high low, escapeByte b = ['%', high, low] := by
  obtain ⟨c, more, hb⟩ := List.exists_cons_of_ne_nil (escapeByte_ne_nil b)
  have hlen := length_escapeByte b
  rw [hb] at hlen ⊢
  by_cases hc : c = '%'
  · subst hc
    obtain ⟨high, low, rfl⟩ : ∃ high low, more = [high, low] := by
      match more, hlen with
      | [high, low], _ => exact ⟨high, low, rfl⟩
    exact .inr ⟨high, low, rfl⟩
  · have hmore : more = [] := by simpa [hc] using hlen
    exact .inl ⟨c, hc, by rw [hmore]⟩

theorem unescapeBytes_append (b : UInt8) (rest : Text) :
    unescapeBytes (escapeByte b ++ rest) = b :: unescapeBytes rest := by
  have hb := byteOf_escapeByte b
  rcases escapeByte_cases b with ⟨c, hc, he⟩ | ⟨high, low, he⟩
  · rw [he] at hb ⊢
    rw [List.singleton_append, unescapeBytes.eq_2 _ _ fun _ _ _ h _ => hc h, hb]
  · rw [he] at hb ⊢
    rw [List.cons_append, List.cons_append, List.singleton_append, unescapeBytes, hb]

theorem unescapeBytes_flatMap (bytes : List UInt8) :
    unescapeBytes (bytes.flatMap escapeByte) = bytes := by
  induction bytes with
  | nil => rfl
  | cons b bytes ih => rw [List.flatMap_cons, unescapeBytes_append, ih]

/-- An escaped name is read back. -/
theorem unescapeName_escapeName (name : Text) : unescapeName (escapeName name) = name := by
  have hdecode : (name.flatMap String.utf8EncodeChar).toByteArray.utf8Decode? = some name.toArray :=
    List.utf8Decode?_utf8Encode
  rw [unescapeName, escapeName, unescapeBytes_flatMap, hdecode]
  rfl

theorem mem_escapeName {name : Text} {c : Char} (h : c ∈ escapeName name) :
    c.isAlphanum = true ∨ c = '_' ∨ c = '%' := by
  have hall : ∀ b : UInt8,
      ((escapeByte b).all fun c => c.isAlphanum || c = '_' || c = '%') = true := by
    refine forall_byte ?_
    decide +kernel
  obtain ⟨b, -, hc⟩ := List.mem_flatMap.1 h
  simpa [or_assoc] using List.all_eq_true.1 (hall b) c hc

/-! ## Names below a path -/

namespace Path

/-- A name that neither goes through several directories nor back up. -/
structure IsPlain (name : Text) : Prop where
  ne_nil : name ≠ []
  no_slash : '/' ∉ name
  not_current : name ≠ "."
  not_up : name ≠ ".."

/-- A path with names put below it, one after the other. -/
def below (p : Path) (names : List Text) : Path := names.foldl (fun p name => p.join ⟨name⟩) p

theorem components_join_name (base : Path) {name : Text} (h : IsPlain name) :
    (base.join ⟨name⟩).components = base.components ++ [.name name] := by
  have hfirst : (Text.fields '/' name).head? ≠ some ("." : Text) := by
    rw [Text.fields_of_not_mem h.no_slash]
    exact fun hdot => h.not_current (Option.some.inj hdot)
  have hpart : Component.ofPart? name = some (.name name) := by
    rw [Component.ofPart?, if_neg h.not_current, if_neg h.not_up]
  rw [components_join base (isAbsolute_of_not_mem h.no_slash) hfirst,
    parts_of_not_mem h.no_slash h.ne_nil, List.filterMap_cons_some hpart]
  rfl

/-- The components of names put below a path are these names. -/
theorem components_below {names : List Text} (h : ∀ name ∈ names, IsPlain name) (p : Path) :
    (p.below names).components = p.components ++ names.map .name := by
  induction names generalizing p with
  | nil => simp [below]
  | cons name names ih =>
    obtain ⟨hname, hnames⟩ := List.forall_mem_cons.1 h
    show ((p.join ⟨name⟩).below names).components = _
    rw [ih hnames, components_join_name p hname, List.append_assoc]
    rfl

theorem isAbsolute_append {name : Text} (h : IsPlain name) (rest : Text) :
    Path.isAbsolute ⟨name ++ rest⟩ = false := by
  have hname := isAbsolute_of_not_mem h.no_slash
  obtain ⟨c, more, rfl⟩ := List.exists_cons_of_ne_nil h.ne_nil
  exact hname

/-- Below a name the rest of a path is put behind a slash. -/
theorem join_slash (base : Path) {name rest : Text} (h : IsPlain name)
    (hrest : Path.isAbsolute ⟨rest⟩ = false) :
    base.join ⟨name ++ '/' :: rest⟩ = (base.join ⟨name⟩).join ⟨rest⟩ := by
  have hrelative := isAbsolute_of_not_mem h.no_slash
  have hwhole := isAbsolute_append h ('/' :: rest)
  have hne : (base.join ⟨name⟩).text ≠ [] := text_join_ne_nil hrelative (.inr h.ne_nil)
  have hopen : (base.join ⟨name⟩).join ⟨rest⟩ = ⟨(base.join ⟨name⟩).text ++ '/' :: rest⟩ := by
    rw [join, hrest, List.isEmpty_eq_false_iff.2 hne, endsInSlash_join_name base h.no_slash h.ne_nil]
    rfl
  rw [hopen]
  unfold join
  simp only [hrelative, hwhole, Bool.false_eq_true, if_false]
  split <;> simp

end Path

/-! ## Entries -/

namespace Layout

open CatalogAdmin.Path (IsPlain)

/-- What a layout has a path for. -/
inductive Entry
  | tableFile (table : TableName)
  | detachedFlag (table : TableName)
  | dataLink (table : TableName)
  | databaseFile (database : Text)
  | storeDirectory (uuid : Uuid)
deriving DecidableEq, Repr

namespace Entry

/-- The path of an entry. -/
def path (l : Layout) : Entry → Path
  | tableFile table => l.tableFile table
  | detachedFlag table => l.detachedFlag table
  | dataLink table => l.dataLink table
  | databaseFile database => l.databaseFile database
  | storeDirectory uuid => l.storeDirectory uuid

/-- The names below the root that the path of an entry goes through. -/
def names : Entry → List Text
  | tableFile table => fileNames table
  | detachedFlag table => [metadataName, escapeName table.database, flagName table.table]
  | dataLink table => linkNames table
  | databaseFile database => [metadataName, catalogName database]
  | storeDirectory uuid => storeNames uuid

/-- None of the names in an entry is empty. -/
def Named : Entry → Prop
  | tableFile table | detachedFlag table | dataLink table => table.database ≠ [] ∧ table.table ≠ []
  | databaseFile database => database ≠ []
  | storeDirectory _ => True

theorem isPlain_escapeName {name : Text} (h : name ≠ []) : IsPlain (escapeName name) where
  ne_nil := escapeName_ne_nil h
  no_slash := slash_not_mem_escapeName name
  not_current := (escapeName_not_dots name).1
  not_up := (escapeName_not_dots name).2

theorem isPlain_catalogName (name : Text) : IsPlain (catalogName name) where
  ne_nil := catalogName_ne_nil name
  no_slash := slash_not_mem_catalogName name
  not_current := (catalogName_not_dots name).1
  not_up := (catalogName_not_dots name).2

theorem isPlain_flagName (name : Text) : IsPlain (flagName name) where
  ne_nil := flagName_ne_nil name
  no_slash := slash_not_mem_flagName name
  not_current := (flagName_not_dots name).1
  not_up := (flagName_not_dots name).2

theorem isPlain_directory {directory : Text} (h : directory ∈ [metadataName, dataName, storeName]) :
    IsPlain directory := by
  simp only [List.mem_cons, List.not_mem_nil, or_false] at h
  rcases h with rfl | rfl | rfl
  all_goals exact ⟨by decide, by decide, by decide, by decide⟩

theorem isPlain_start (u : Uuid) : IsPlain (u.text.take 3) where
  ne_nil := u.start_ne_nil
  no_slash := u.isName_start.2
  not_current := u.isName_start.1.1
  not_up := u.isName_start.1.2.1

theorem isPlain_text (u : Uuid) : IsPlain u.text where
  ne_nil := u.text_ne_nil
  no_slash := u.isName_text.2
  not_current := u.isName_text.1.1
  not_up := u.isName_text.1.2.1

/-- The first name is that of one of three directories, and the names below it are plain as well. -/
theorem exists_names {x : Entry} (h : x.Named) :
    ∃ directory ∈ [metadataName, dataName, storeName], ∃ inner, inner ≠ [] ∧
      x.names = directory :: inner ∧ ∀ name ∈ inner, IsPlain name := by
  cases x with
  | tableFile table =>
    refine ⟨metadataName, by simp, _, List.cons_ne_nil _ _, rfl, ?_⟩
    simp [isPlain_escapeName h.1, isPlain_catalogName]
  | detachedFlag table =>
    refine ⟨metadataName, by simp, _, List.cons_ne_nil _ _, rfl, ?_⟩
    simp [isPlain_escapeName h.1, isPlain_flagName]
  | dataLink table =>
    refine ⟨dataName, by simp, _, List.cons_ne_nil _ _, rfl, ?_⟩
    simp [isPlain_escapeName h.1, isPlain_escapeName h.2]
  | databaseFile database =>
    refine ⟨metadataName, by simp, _, List.cons_ne_nil _ _, rfl, ?_⟩
    simp [isPlain_catalogName]
  | storeDirectory uuid =>
    refine ⟨storeName, by simp, _, List.cons_ne_nil _ _, rfl, ?_⟩
    simp [isPlain_start, isPlain_text]

theorem isPlain_names {x : Entry} (h : x.Named) : ∀ name ∈ x.names, IsPlain name := by
  obtain ⟨directory, hdirectory, inner, -, hnames, hinner⟩ := exists_names h
  rw [hnames]
  exact List.forall_mem_cons.2 ⟨isPlain_directory hdirectory, hinner⟩

/-- The path of an entry is the root's path with the names put below it. -/
theorem path_eq (l : Layout) (x : Entry) : x.path l = l.root.below x.names := by
  cases x with
  | tableFile | dataLink | databaseFile => rfl
  | detachedFlag table => exact l.detachedFlag_eq table
  | storeDirectory uuid =>
    have hbehind := Path.isAbsolute_append (isPlain_start uuid) ('/' :: uuid.text)
    show l.root.join ⟨uuid.storePath⟩ = _
    rw [uuid.storePath_eq, Path.join_slash _ (isPlain_directory (by simp)) hbehind,
      Path.join_slash _ (isPlain_start uuid) (Path.isAbsolute_of_not_mem uuid.isName_text.2)]
    rfl

/-- Entries with the same names are the same: the first name tells most kinds apart, the number of names
or the ending of the last one the others. -/
theorem names_injective {x y : Entry} (h : x.names = y.names) : x = y := by
  have hlink : metadataName ≠ dataName := by decide
  have hstore : metadataName ≠ storeName := by decide
  have hlinkStore : dataName ≠ storeName := by decide
  cases x with
  | tableFile a =>
    cases y with
    | tableFile b => rw [fileNames_injective h]
    | detachedFlag b => simp [names, fileNames, (flagName_ne_catalogName _ _).symm] at h
    | dataLink | databaseFile | storeDirectory =>
      simp [names, fileNames, linkNames, storeNames, hlink, hstore] at h
  | detachedFlag a =>
    cases y with
    | tableFile b => simp [names, fileNames, flagName_ne_catalogName] at h
    | detachedFlag b =>
      obtain ⟨database, name⟩ := a
      simp only [names, List.cons.injEq, true_and, and_true] at h
      rw [escapeName_injective h.1, flagName_injective h.2]
    | dataLink | databaseFile | storeDirectory =>
      simp [names, linkNames, storeNames, hlink, hstore] at h
  | dataLink a =>
    cases y with
    | dataLink b => rw [linkNames_injective h]
    | tableFile | detachedFlag | databaseFile | storeDirectory =>
      simp [names, fileNames, linkNames, storeNames, hlink.symm, hlinkStore] at h
  | databaseFile a =>
    cases y with
    | databaseFile b =>
      simp only [names, List.cons.injEq, true_and, and_true] at h
      rw [catalogName_injective h]
    | tableFile | detachedFlag | dataLink | storeDirectory =>
      simp [names, fileNames, linkNames, storeNames, hlink, hstore] at h
  | storeDirectory u =>
    cases y with
    | storeDirectory v => rw [Uuid.text_injective (storeNames_injective h)]
    | tableFile | detachedFlag | dataLink | databaseFile =>
      simp [names, fileNames, linkNames, storeNames, hstore.symm, hlinkStore.symm] at h

end Entry

/-- A file name is read back as the name it was made from, and takes nothing but letters, digits, `_` and
percent signs. So the paths of different entries have different components, whatever the root's path, and
every path goes on from the root's into one of the three directories and to names in it, none of which
leads out of there again. -/
theorem entries_apart (l : Layout) :
    (∀ name, unescapeName (escapeName name) = name ∧
      ∀ c ∈ escapeName name, c.isAlphanum = true ∨ c = '_' ∨ c = '%') ∧
    (∀ x y : Entry, x.Named → y.Named →
      ((x.path l).components = (y.path l).components ↔ x = y)) ∧
    ∀ x : Entry, x.Named →
      ∃ directory ∈ [metadataName, dataName, storeName], ∃ inner, inner ≠ [] ∧
        x.names = directory :: inner ∧ x.path l = l.root.below x.names ∧
        (x.path l).components = l.root.components ++ x.names.map .name ∧
        ∀ name ∈ inner, IsPlain name := by
  have hcomponents : ∀ x : Entry, x.Named →
      (x.path l).components = l.root.components ++ x.names.map .name := fun x hx => by
    rw [x.path_eq, Path.components_below (Entry.isPlain_names hx)]
  refine ⟨fun name => ⟨unescapeName_escapeName name, fun _ => mem_escapeName⟩, ?_, ?_⟩
  · intro x y hx hy
    refine ⟨fun h => Entry.names_injective ?_, fun h => h ▸ rfl⟩
    rw [hcomponents x hx, hcomponents y hy, List.append_cancel_left_eq] at h
    exact (List.map_inj_right fun _ _ => Path.Component.name.inj).1 h
  · intro x hx
    obtain ⟨directory, hdirectory, inner, hne, hnames, hinner⟩ := Entry.exists_names hx
    exact ⟨directory, hdirectory, inner, hne, hnames, x.path_eq l, hcomponents x hx, hinner⟩

/-- Below a root that is written with dots and a slash at its end, names that are dots or hold a slash
are still names of one file each. -/
theorem entries_apart_dots :
    let l : Layout := ⟨"./srv/"⟩
    let x : Entry := .tableFile ⟨"..", "a/b"⟩
    let y : Entry := .detachedFlag ⟨"..", "a/b"⟩
    x.Named ∧ y.Named ∧ (x.path l).components ≠ (y.path l).components ∧
      (x.path l).components = [.current, .name "srv", .name "metadata", .name "%2E%2E", .name "a%2Fb.sql"] := by
  intro l x y
  obtain ⟨-, hapart, hinside⟩ := entries_apart l
  have hx : x.Named := ⟨by decide, by decide⟩
  have hy : y.Named := ⟨by decide, by decide⟩
  obtain ⟨_, -, _, -, -, -, hcomponents, -⟩ := hinside x hx
  exact ⟨hx, hy, (not_congr (hapart x y hx hy)).2 (by decide), hcomponents⟩

end Layout

end CatalogAdmin
