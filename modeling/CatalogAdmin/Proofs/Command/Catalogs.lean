import CatalogAdmin.Proofs.Command.SetEngine
import CatalogAdmin.Proofs.Purge.Effect
import CatalogAdmin.Proofs.UuidChange.Guard
import CatalogAdmin.Proofs.UuidChange.Upkeep

/-!
# Commands and catalog files

Several runs of the program, one after the other, keep the catalogs of a regular tree. One command does
one of three things to the place of a catalog file (`Fate`): nothing, or it writes a file that is read as
an object of the same kind, or it removes it as the last step of a purge of just this table. A regular
tree stays regular meanwhile, so this holds of any number of commands (`turns_keep_catalogs`), in
whatever way each of them ends.

The tree has to stay regular. Where the directory of a database becomes a link to another directory, the
link of a table may lead to the catalog files of a database (`turn_loses_catalogs`).
-/

namespace CatalogAdmin

open Session FileTree
open CatalogAdmin.Path (solid)

variable {t t' t'' : FileTree} {root : Path} {base x : Location} {site : Site} {table : TableName}
  {answers : List Sent → Sent → Except ClientError (List Row)} {w w' : World}

/-! ## Catalog files at their places -/

/-- A file that is read as this record stands at a place. -/
def Holds (t : FileTree) (x : Location) (record : Catalog.Record) : Prop :=
  ∃ f text, t.get? x = some (.file f) ∧ f.content = .text text ∧
    Catalog.Record.parse text = .ok record

theorem Holds.unique {record record' : Catalog.Record} (h : Holds t x record)
    (h' : Holds t x record') : record = record' := by
  obtain ⟨f, text, hg, hcontent, hparse⟩ := h
  obtain ⟨f', text', hg', hcontent', hparse'⟩ := h'
  cases hg.symm.trans hg'
  cases hcontent.symm.trans hcontent'
  exact Except.ok.inj (hparse.symm.trans hparse')

theorem Holds.congr {record : Catalog.Record} (h : Holds t x record)
    (hsame : t'.get? x = t.get? x) : Holds t' x record := by
  obtain ⟨f, text, hg, hrest⟩ := h
  exact ⟨f, text, hsame.trans hg, hrest⟩

/-- The place of a table's catalog file. -/
def tablePlace (base : Location) (table : TableName) : Location :=
  base ++ [metadataName, escapeName table.database, catalogName table.table]

/-- The place of the catalog file of a database or a table, or of a database's directory. -/
inductive CatalogPlace (base : Location) : Location → Prop
  | first (name : Text) : CatalogPlace base (base ++ [metadataName, name])
  | second (directory name : Text) :
      CatalogPlace base (base ++ [metadataName, directory, catalogName name])

theorem CatalogPlace.below (h : CatalogPlace base x) : base ++ [metadataName] <+: x := by
  cases h with
  | first name => exact prefix_tops base metadataName [name]
  | second directory name => exact prefix_tops base metadataName [directory, catalogName name]

theorem tablePlace_injective {other : TableName} (h : tablePlace base table = tablePlace base other) :
    table = other := by
  have hnames := List.append_cancel_left h
  obtain ⟨database, name⟩ := table
  obtain ⟨database', name'⟩ := other
  simp only [List.cons.injEq, true_and, and_true] at hnames
  rw [escapeName_injective hnames.1, catalogName_injective hnames.2]

/-- What a command may do to such a place, by whether it ends well. -/
inductive Fate (base : Location) (c : Command) (ended : Bool) (t t' : FileTree) (x : Location) : Prop
  | same : t'.get? x = t.get? x → Fate base c ended t t' x
  | rewritten {record record' : Catalog.Record} :
      Holds t x record → Holds t' x record' → record'.kind = record.kind →
      (record'.uuid ≠ record.uuid → ∃ table uuid, c = .changeUuid table uuid) →
      Fate base c ended t t' x
  | deleted {table : TableName} :
      c = .deleteDetached table → ended = true → x = tablePlace base table → t'.get? x = none →
      Fate base c ended t t' x

/-- What a command does to a regular tree. -/
structure Handled (root : Path) (base : Location) (c : Command) (ended : Bool) (t t' : FileTree) :
    Prop where
  regular : Regular t' root base
  fate : ∀ x, CatalogPlace base x → Fate base c ended t t' x

theorem Handled.of_same {c : Command} {ended : Bool} (h : Regular t root base) (hsame : t' = t) :
    Handled root base c ended t t' :=
  ⟨hsame ▸ h, fun x _ => .same (by rw [hsame])⟩

/-! ## Writing catalog files -/

/-- A file that is written anew stands where it stood, and so does every other file under `metadata`.
The path may lead there from anywhere. -/
theorem Regular.rewritten (h : Regular t root base) {p : Path} {place : Location}
    {record record' : Catalog.Record} {text changed : Text} {old : File}
    (hparse : Catalog.Record.parse text = .ok record)
    (hparse' : Catalog.Record.parse changed = .ok record') (htext : t.readText p = .ok text)
    (hold : t.stat true p = .ok (.file old)) (hplace : t.locate false p = .ok place)
    (hx : base ++ [metadataName] <+: x) :
    let t' := t.put place (.file (FileTree.rewritten old changed))
    t'.get? x = t.get? x ∨ Holds t x record ∧ Holds t' x record' := by
  intro t'
  have hget : t'.get? x = if x = place then _ else t.get? x :=
    get?_put _ _ _ _ (place_ne_nil hold hplace)
  by_cases hsame : x = place
  · subst hsame
    rw [if_pos rfl] at hget
    -- no link is here, so the file that was read is the one that is replaced
    have hfollow := locate_follow hplace fun target hlink => h.not_isLink_metadata hx ⟨target, hlink⟩
    obtain ⟨l, hl, hg⟩ := exists_of_stat hold
    cases hfollow.symm.trans hl
    obtain ⟨f, hstat, hcontent⟩ := Catalog.exists_of_readText htext
    cases hstat.symm.trans hold
    exact .inr ⟨⟨_, text, hg, hcontent, hparse⟩, ⟨_, changed, hget, rfl, hparse'⟩⟩
  · rw [if_neg hsame] at hget
    exact .inl hget

/-! ## The commands -/

/-- A command with names that are not empty and words that hold no line feeds. -/
def Command.Proper : Command → Prop
  | .changeUuid table _ => table.database ≠ [] ∧ table.table ≠ []
  | .deleteDetached table => table.database ≠ [] ∧ table.table ≠ []
  | .setEngine _ (.replicated words) => ∀ word ∈ words, '\n' ∉ word
  | _ => True

theorem onOneLine_of_proper {database : Text} {engine : EngineChoice} {d : Catalog.Declaration}
    (h : (Command.setEngine database engine).Proper) (hd : engine.declaration? = some d) :
    d.OnOneLine := by
  cases engine with
  | atomic => cases hd; trivial
  | replicated words =>
    rcases words with _ | ⟨path, _ | ⟨shard, _ | ⟨name, _ | _⟩⟩⟩
    case cons.cons.cons.nil =>
      cases hd
      exact ⟨h path (by simp), h shard (by simp), h name (by simp)⟩
    all_goals cases hd

theorem handled_setEngine {database : Text} {engine : EngineChoice}
    (hc : (Command.setEngine database engine).Proper) (h : Regular w.tree site.layout.root base)
    (ended : Bool) :
    Handled site.layout.root base (.setEngine database engine) ended w.tree
      (after (Command.run site (.setEngine database engine)) w).tree := by
  cases hd : engine.declaration? with
  | none =>
    refine .of_same h ?_
    simp only [Command.run, hd]
    rfl
  | some d =>
    have hrun : after (Command.run site (.setEngine database engine)) w =
        after (setDatabaseEngine site.layout database d) w := by
      simp only [Command.run, hd]
      exact Keeps.after_bind (fun _ => Keeps.pure Eq.refl _) w
    rw [hrun]
    rcases setDatabaseEngine_cases site.layout database d w with ⟨e, hset⟩ |
      ⟨record, text, changed, old, place, hread, -, htext, hchange, hold, hplace, hset⟩
    · exact .of_same h (congrArg World.tree (after_of_error hset))
    · have hparse := Catalog.parse_of_readRecord hread htext
      have hparse' := Catalog.parse_of_setEngine hparse (onOneLine_of_proper hc hd) hchange
      have ho : w.tree.Grounded (w.tree.origin (site.layout.databaseFile database)) := by
        rw [origin_databaseFile]
        exact h.start
      rw [after_of_ok hset]
      refine ⟨h.put_file _ ho hold hplace, fun x hx => ?_⟩
      rcases h.rewritten hparse hparse' htext hold hplace hx.below with hsame | ⟨hholds, hholds'⟩
      · exact .same hsame
      · exact .rewritten hholds hholds' rfl fun hne => absurd rfl hne

/-- A change of UUID leaves the tree as it was, or it gives the catalog file the new UUID and then moves
the store, well or not. -/
theorem tree_after_changeUuid (hs : site.server = .ofAnswers answers) (table : TableName)
    (uuid : Uuid) (w : World) :
    (after (changeUuid site table uuid) w).tree = w.tree ∨
    ∃ info record oldUuid tree,
      Catalog.readRecord w.tree (catalogFileOf site table info) = .ok record ∧
      Catalog.setUuid (catalogFileOf site table info) uuid w.tree = .ok oldUuid tree ∧
      (after (changeUuid site table uuid) w).tree =
        after (relocateStore (site.layout.dataLink table) (site.layout.storeDirectory oldUuid)
          (site.layout.storeDirectory uuid)) tree := by
  rw [(after_changeUuid site table uuid w).2]
  cases hrun : attemptUuidChange site table uuid w with
  | ok report w' =>
    obtain ⟨info, record, v, oldUuid, tree, _, _, tree', hp, hset, hmove, rfl, -⟩ := changed_of_ok hrun
    obtain ⟨hvalidated, _, -, rfl⟩ := hp.world hs
    exact .inr ⟨info, record, oldUuid, tree, hvalidated.read, hset, (after_of_ok hmove).symm⟩
  | error failure w' =>
    have hcourse := course_attemptUuidChange site table uuid w
    rw [hrun] at hcourse
    cases hcourse with
    | unanswered hinfo => exact .inl ((selects_tableInfo? hs table).error hinfo).tree_eq
    | invalid hinfo hinvalid =>
      exact .inl ((((selects_tableInfo? hs table).ok hinfo).trans
        ((selects_validateUuidChange hs table _ uuid).error hinvalid)).tree_eq)
    | notDetached hinfo hvalid hdetach =>
      obtain ⟨hselected, -⟩ := validated_of_ok hs hinfo hvalid
      obtain ⟨-, rfl⟩ := detach_of_error hs hdetach
      exact .inl hselected.tree_eq
    | notChanged hp hset =>
      obtain ⟨-, _, -, rfl⟩ := hp.world hs
      exact .inl (Catalog.tree_of_setUuid_error hset)
    | @notRelocated info record oldUuid _ _ tree _ hp hset hmove =>
      obtain ⟨hvalidated, _, -, rfl⟩ := hp.world hs
      exact .inr ⟨info, record, oldUuid, tree, hvalidated.read, hset, (after_of_error hmove).symm⟩

theorem handled_changeUuid (hs : site.server = .ofAnswers answers) {uuid : Uuid}
    (hc : (Command.changeUuid table uuid).Proper) (h : Regular w.tree site.layout.root base)
    (ended : Bool) :
    Handled site.layout.root base (.changeUuid table uuid) ended w.tree
      (after (Command.run site (.changeUuid table uuid)) w).tree := by
  have hrun : after (Command.run site (.changeUuid table uuid)) w =
      after (changeUuid site table uuid) w := by
    simp only [Command.run]
    rw [Keeps.after_bind (fun _ => Keeps.pure Eq.refl _), after_adaptExcept]
  rw [hrun]
  rcases tree_after_changeUuid hs table uuid w with
    hsame | ⟨info, record, oldUuid, tree, hread, hset, htree⟩
  · exact .of_same h hsame
  obtain ⟨text, changed, old, place, htext, hreplace, hold, hplace, rfl⟩ := Catalog.setUuid_of_ok hset
  have hparse := Catalog.parse_of_readRecord hread htext
  have hparse' := Catalog.parse_replaceUuid hparse hreplace
  -- what moves behind the file is nothing under `metadata`
  obtain ⟨hregular, hkept⟩ := upkeep_relocateStore site.layout base hc.1 hc.2 oldUuid uuid _
    (h.put_file (FileTree.rewritten old changed) (grounded_catalogFileOf h.start table info) hold hplace)
  rw [htree]
  refine ⟨hregular, fun x hx => ?_⟩
  rcases h.rewritten hparse hparse' htext hold hplace hx.below with hsame | ⟨hholds, hholds'⟩
  · exact .same ((hkept x hx.below).trans hsame)
  · exact .rewritten hholds (hholds'.congr (hkept x hx.below)) rfl fun _ => ⟨table, uuid, rfl⟩

/-! ## Purges -/

section Purge

variable {layout : Layout} {p : Path} {l : Location}

theorem tablePlace_eq (base : Location) (hd : table.database ≠ []) : tablePlace base table =
    base ++ [metadataName] ++ solid (nameParts table.database ++ [catalogName table.table]) := by
  rw [solid_nameParts _ (catalogName_not_dots _).1, nameParts_of_ne_nil hd, List.append_assoc]
  rfl

/-- What is removed with a table is below the directories under the root. -/
theorem Regular.not_tops (h : Regular t layout.root base) (hd : table.database ≠ [])
    (ht : table.table ≠ []) (hp : p ∈ layout.tablePaths table) (hl : t.locate false p = .ok l) :
    l ∉ managedNames.map (base ++ [·]) := by
  have hfile : ∀ {last : Text}, base ++ [metadataName] ++ (nameParts table.database ++ [last]) ∉
      managedNames.map (base ++ [·]) := by
    intro last
    rw [List.append_assoc, List.singleton_append]
    exact not_mem_tops (by simp)
  simp only [Layout.tablePaths, List.mem_cons, List.not_mem_nil, or_false] at hp
  rcases hp with rfl | rfl | rfl
  · rw [place_dataLink h hd ht hl]
    exact not_mem_tops (by simp)
  · rw [(h.place (layout.below_detachedFlag table) hl).1,
      solid_nameParts _ (flagName_not_dots _).1]
    exact hfile
  · rw [(h.place (layout.below_tableFile table) hl).1,
      solid_nameParts _ (catalogName_not_dots _).1]
    exact hfile

theorem CatalogPlace.of_above {directory last : Text} (hx : CatalogPlace base x)
    (hp : base ++ [metadataName, directory, last] <+: x) :
    x = base ++ [metadataName, directory, last] ∧ ∃ name, last = catalogName name := by
  cases hx with
  | first name =>
    have hlen := hp.length_le
    simp at hlen
  | second _ name =>
    have hsame := hp.eq_of_length (by simp)
    have hnames := List.append_cancel_left hsame
    simp only [List.cons.injEq, true_and, and_true] at hnames
    exact ⟨hsame.symm, name, hnames.2⟩

theorem Regular.outside_dataLink (h : Regular t layout.root base)
    (hx : base ++ [metadataName] <+: x) (table : TableName) : t.Outside (layout.dataLink table) x := by
  intro l hl hp
  rw [(h.place (layout.below_dataLink table) hl).1] at hp
  exact absurd (eq_of_prefix_tops ((List.prefix_append _ _).trans hp) hx) (by decide)

theorem Regular.outside_detachedFlag (h : Regular t layout.root base) (hd : table.database ≠ [])
    (hx : CatalogPlace base x) : t.Outside (layout.detachedFlag table) x := by
  intro l hl hp
  rw [(h.place (layout.below_detachedFlag table) hl).1, solid_nameParts _ (flagName_not_dots _).1,
    nameParts_of_ne_nil hd, List.append_assoc] at hp
  obtain ⟨-, name, hname⟩ := hx.of_above hp
  exact flagName_ne_catalogName _ _ hname

theorem Regular.outside_tableFile (h : Regular t layout.root base) (hd : table.database ≠ [])
    (hx : CatalogPlace base x) (hne : x ≠ tablePlace base table) :
    t.Outside (layout.tableFile table) x := by
  intro l hl hp
  rw [(h.place (layout.below_tableFile table) hl).1, ← tablePlace_eq base hd] at hp
  exact hne (hx.of_above hp).1

end Purge

theorem handled_deleteDetached (hs : site.server = .ofAnswers answers)
    (htame : site.remover.Tame site.layout.root base) (hc : (Command.deleteDetached table).Proper)
    (h : Regular w.tree site.layout.root base) :
    Handled site.layout.root base (.deleteDetached table)
      (endsWell (Command.run site (.deleteDetached table) w)) w.tree
      (after (Command.run site (.deleteDetached table)) w).tree := by
  obtain ⟨hd, ht⟩ := hc
  have hran := after_attemptPurge hs table w
  have hregular : ∀ {v}, PurgeRan site table w v → Regular v.tree site.layout.root base := by
    rintro v ⟨removed, -, hswept⟩
    have hleft := htame.regular_leave w.removals removed h
    exact hleft.swept hswept fun p hp l hl =>
      ⟨hleft.managed_tablePaths hp hl, hleft.not_tops hd ht hp hl⟩
  have hother : ∀ {v}, PurgeRan site table w v → ∀ x, CatalogPlace base x →
      x ≠ tablePlace base table → v.tree.get? x = w.tree.get? x := by
    rintro v ⟨removed, -, hswept⟩ x hx hne
    have hleft := htame.regular_leave w.removals removed h
    refine (hswept.kept x fun p hp => ?_).trans (htame.get?_leave hx.below _ _ _)
    simp only [Layout.tablePaths, List.mem_cons, List.not_mem_nil, or_false] at hp
    rcases hp with rfl | rfl | rfl
    · exact hleft.outside_dataLink hx.below table
    · exact hleft.outside_detachedFlag hd hx
    · exact hleft.outside_tableFile hd hx hne
  cases hpurge : attemptPurge site table w with
  | ok report v =>
    rw [after_of_ok hpurge] at hran
    have hrun : ∃ output, Command.run site (.deleteDetached table) w = .ok output v :=
      ⟨_, bind_of_ok (adaptExcept_of_ok (adaptExcept_of_ok hpurge))⟩
    obtain ⟨output, hrun⟩ := hrun
    rw [after_of_ok hrun, hrun]
    refine ⟨hregular hran, fun x hx => ?_⟩
    by_cases hown : x = tablePlace base table
    · -- the path of the catalog file still leads to its place, and names nothing
      obtain ⟨record, _, _, _, hpurged⟩ := purged_of_ok hs ht hpurge
      obtain ⟨text, htext, -⟩ := Catalog.readRecord_eq_ok_iff.1 hpurged.read
      obtain ⟨f, hfile, -⟩ := Catalog.exists_of_readText htext
      have hplace := h.locate_kept (hregular hran) (site.layout.below_tableFile table) hfile
        fun name hdir => (hother hran _ (.first name) (by simp [tablePlace])).trans hdir
      rw [← tablePlace_eq base hd, ← hown] at hplace
      exact .deleted rfl rfl hown (get?_of_notFound hplace hpurged.files.catalogFile)
    · exact .same (hother hran x hx hown)
  | error e v =>
    rw [after_of_error hpurge] at hran
    have hrun : ∃ failure, Command.run site (.deleteDetached table) w = .error failure v :=
      ⟨_, bind_of_error (adaptExcept_of_error (adaptExcept_of_error hpurge))⟩
    obtain ⟨failure, hrun⟩ := hrun
    rw [after_of_error hrun, hrun]
    refine ⟨hregular hran, fun x hx => ?_⟩
    by_cases hown : x = tablePlace base table
    · -- a purge that fails has not come to remove the catalog file
      obtain ⟨f, done, failing, hinterrupted⟩ := interrupted_attemptPurge hpurge
      obtain ⟨removed, -, -, -, -, hkept⟩ := hinterrupted.left hs
      have hleft := htame.regular_leave w.removals removed h
      exact .same (hkept x ⟨fun before r t => htame.catalog before r t x hx.below,
        hleft.outside_dataLink hx.below table, hleft.outside_detachedFlag hd hx⟩)
    · exact .same (hother hran x hx hown)

/-- A command that is none of the three that change files leaves the tree as it was. -/
theorem tree_after_run (hs : site.server = .ofAnswers answers) {c : Command}
    (hset : ∀ database engine, c ≠ .setEngine database engine)
    (hchange : ∀ table uuid, c ≠ .changeUuid table uuid)
    (hdelete : ∀ table, c ≠ .deleteDetached table) (w : World) :
    (after (c.run site) w).tree = w.tree := by
  have hread : ∀ (p : Path) {α : Type} (f : Catalog.Record → α) (w : World),
      (after (do return f (← readCatalogFile p)) w).tree = w.tree := by
    intro p α f w
    rw [Keeps.after_bind (fun _ => Keeps.pure Eq.refl _), readCatalogFile, after_adaptExcept,
      ← Keeps.look Eq.refl _ w]
  have hstatement : ∀ (task : Task) (q : Query) (w : World),
      (after (do (asTask task (execute site.server q)).adaptExcept Failure.table; return [] : Run Text)
        w).tree = w.tree := by
    intro task q w
    rw [Keeps.after_bind (fun _ => Keeps.pure Eq.refl _), after_adaptExcept,
      after_asTask_execute answers hs]
    rfl
  cases c with
  | setEngine database engine => exact absurd rfl (hset database engine)
  | changeUuid table uuid => exact absurd rfl (hchange table uuid)
  | deleteDetached table => exact absurd rfl (hdelete table)
  | detach table permanently => exact hstatement _ _ w
  | attach table => exact hstatement _ _ w
  | showTable table => exact hread _ _ w
  | showDatabase database => exact hread _ _ w
  | showSettings json => rfl
  | showVersion => rfl
  | validateSettings =>
    simp only [Command.run]
    split <;> rfl

/-- What a command does to a regular tree, however it ends. -/
theorem Command.handled (hs : site.server = .ofAnswers answers)
    (htame : site.remover.Tame site.layout.root base) {c : Command} (hc : c.Proper)
    (h : Regular w.tree site.layout.root base) :
    Handled site.layout.root base c (endsWell (c.run site w)) w.tree
      (after (c.run site) w).tree := by
  cases c with
  | setEngine database engine => exact handled_setEngine hc h _
  | changeUuid table uuid => exact handled_changeUuid hs hc h _
  | deleteDetached table => exact handled_deleteDetached hs htame hc h
  | detach | attach | showTable | showDatabase | showSettings | validateSettings | showVersion =>
    exact .of_same h (tree_after_run hs (by simp) (by simp) (by simp) w)

/-! ## Many commands -/

/-- A command that is run on a site. -/
structure Turn where
  site : Site
  command : Command

/-- Runs the command. -/
def Turn.run (turn : Turn) : Run Text := turn.command.run turn.site

/-- The world after some turns, each of which may fail. -/
def runTurns (turns : List Turn) (w : World) : World :=
  turns.foldl (fun w turn => after turn.run w) w

/-- A turn on the layout of a root, with a server that only answers and a remover that leaves regular
trees regular. -/
structure Turn.Fair (turn : Turn) (root : Path) (base : Location) : Prop where
  layout : turn.site.layout.root = root
  server : ∃ answers, turn.site.server = .ofAnswers answers
  remover : turn.site.remover.Tame root base
  command : turn.command.Proper

theorem Turn.Fair.handled {turn : Turn} (h : turn.Fair root base) (hw : Regular w.tree root base) :
    Handled root base turn.command (endsWell (turn.run w)) w.tree (after turn.run w).tree := by
  obtain ⟨hroot, ⟨_, hs⟩, htame, hc⟩ := h
  subst hroot
  exact Command.handled hs htame hc hw

/-- One of these turns deletes the detached table, and ends well. -/
inductive Deletes (table : TableName) : List Turn → World → Prop
  | now {turn : Turn} {more : List Turn} {w : World} : turn.command = .deleteDetached table →
      endsWell (turn.run w) = true → Deletes table (turn :: more) w
  | later {turn : Turn} {more : List Turn} {w : World} :
      Deletes table more (after turn.run w) → Deletes table (turn :: more) w

/-- A record of the same kind, and with the same UUID unless one of the turns changes UUIDs. -/
def Alike (turns : List Turn) (record record' : Catalog.Record) : Prop :=
  record'.kind = record.kind ∧
    (record'.uuid ≠ record.uuid → ∃ turn ∈ turns, ∃ table uuid, turn.command = .changeUuid table uuid)

namespace Fate

variable {c : Command} {ended : Bool}

theorem directory {name : Text} (h : Fate base c ended t t' (base ++ [metadataName, name]))
    (hg : t.get? (base ++ [metadataName, name]) = some .directory) :
    t'.get? (base ++ [metadataName, name]) = some .directory := by
  cases h with
  | same hsame => rw [hsame, hg]
  | rewritten hholds =>
    obtain ⟨_, _, hfile, -⟩ := hholds
    cases hfile.symm.trans hg
  | deleted _ _ hplace _ =>
    have hlen := congrArg List.length hplace
    simp [tablePlace] at hlen

theorem none (h : Fate base c ended t t' x) (hg : t.get? x = none) : t'.get? x = none := by
  cases h with
  | same hsame => rw [hsame, hg]
  | rewritten hholds =>
    obtain ⟨_, _, hfile, -⟩ := hholds
    cases hfile.symm.trans hg
  | deleted _ _ _ hgone => exact hgone

end Fate

/-- Turns leave the tree regular, and with the directories of the databases that it had. -/
theorem runTurns_regular (turns : List Turn) (hfair : ∀ turn ∈ turns, turn.Fair root base)
    (h : Regular w.tree root base) :
    Regular (runTurns turns w).tree root base ∧
    ∀ name, w.tree.get? (base ++ [metadataName, name]) = some .directory →
      (runTurns turns w).tree.get? (base ++ [metadataName, name]) = some .directory := by
  induction turns generalizing w with
  | nil => exact ⟨h, fun _ => id⟩
  | cons turn more ih =>
    have hturn := (hfair turn List.mem_cons_self).handled h
    obtain ⟨hregular, hdirs⟩ := ih (fun t ht => hfair t (List.mem_cons_of_mem _ ht)) hturn.regular
    exact ⟨hregular, fun name hg => hdirs name ((hturn.fate _ (.first name)).directory hg)⟩

/-- Where there was nothing, turns put no catalog file. -/
theorem runTurns_none (turns : List Turn) (hfair : ∀ turn ∈ turns, turn.Fair root base)
    (h : Regular w.tree root base) (hx : CatalogPlace base x) (hg : w.tree.get? x = none) :
    (runTurns turns w).tree.get? x = none := by
  induction turns generalizing w with
  | nil => exact hg
  | cons turn more ih =>
    have hturn := (hfair turn List.mem_cons_self).handled h
    exact ih (fun t ht => hfair t (List.mem_cons_of_mem _ ht)) hturn.regular
      ((hturn.fate x hx).none hg)

/-- After any turns a catalog file is read as a record like the one it was read as, or it was deleted
with its table. -/
theorem runTurns_holds (turns : List Turn) (hfair : ∀ turn ∈ turns, turn.Fair root base)
    (h : Regular w.tree root base) (hx : CatalogPlace base x) {record : Catalog.Record}
    (hholds : Holds w.tree x record) :
    (∃ record', Holds (runTurns turns w).tree x record' ∧ Alike turns record record') ∨
    (runTurns turns w).tree.get? x = none ∧
      ∃ table, x = tablePlace base table ∧ Deletes table turns w := by
  induction turns generalizing w record with
  | nil => exact .inl ⟨record, hholds, rfl, fun hne => absurd rfl hne⟩
  | cons turn more ih =>
    have hmore : ∀ turn ∈ more, turn.Fair root base := fun t ht =>
      hfair t (List.mem_cons_of_mem _ ht)
    have hturn := (hfair turn List.mem_cons_self).handled h
    -- what the first turn leaves is the record the other turns start from
    have hnext : ∀ record', Holds (after turn.run w).tree x record' →
        Alike [turn] record record' →
        (∃ record'', Holds (runTurns (turn :: more) w).tree x record'' ∧
          Alike (turn :: more) record record'') ∨
        (runTurns (turn :: more) w).tree.get? x = none ∧
          ∃ table, x = tablePlace base table ∧ Deletes table (turn :: more) w := by
      intro record' hholds' hfirst
      rcases ih hmore hturn.regular hholds' with
        ⟨record'', hholds'', hlater⟩ | ⟨hnone, table, hplace, hd⟩
      · refine .inl ⟨record'', hholds'', hlater.1.trans hfirst.1, fun hne => ?_⟩
        by_cases hsame : record'.uuid = record.uuid
        · obtain ⟨t, ht, hchanges⟩ := hlater.2 (hsame ▸ hne)
          exact ⟨t, List.mem_cons_of_mem _ ht, hchanges⟩
        · obtain ⟨t, ht, hchanges⟩ := hfirst.2 hsame
          exact ⟨t, List.mem_cons.2 (.inl (List.mem_singleton.1 ht)), hchanges⟩
      · exact .inr ⟨hnone, table, hplace, .later hd⟩
    cases hturn.fate x hx with
    | same hsame => exact hnext record (hholds.congr hsame) ⟨rfl, fun hne => absurd rfl hne⟩
    | @rewritten before record' hbefore hholds' hkind huuid =>
      cases hbefore.unique hholds
      exact hnext record' hholds' ⟨hkind, fun hne => ⟨turn, List.mem_singleton_self _, huuid hne⟩⟩
    | @deleted table hcommand hended hplace hgone =>
      exact .inr ⟨runTurns_none more hmore hturn.regular hx hgone, table, hplace,
        .now hcommand hended⟩

/-- A catalog file that can be read stands at the place of its names. -/
theorem Regular.holds {layout : Layout} {p : Path} {rest : List Text} {record : Catalog.Record}
    (h : Regular t layout.root base) (hp : layout.Below p metadataName rest)
    (hread : Catalog.readRecord t p = .ok record) :
    Holds t (base ++ [metadataName] ++ solid rest) record ∧ ∃ f, t.stat true p = .ok (.file f) := by
  obtain ⟨text, htext, hparse⟩ := Catalog.readRecord_eq_ok_iff.1 hread
  obtain ⟨f, hfile, hcontent⟩ := Catalog.exists_of_readText htext
  exact ⟨⟨f, text, (h.file_place hp hfile).2.1, hcontent, hparse⟩, f, hfile⟩

/-- What becomes of a catalog file in some turns, by its path. -/
theorem readRecord_after_turns (layout : Layout) {turns : List Turn}
    (hfair : ∀ turn ∈ turns, turn.Fair layout.root base) (h : Regular w.tree layout.root base)
    {p : Path} {rest : List Text} {record : Catalog.Record} (hp : layout.Below p metadataName rest)
    (hx : CatalogPlace base (base ++ [metadataName] ++ solid rest))
    (hread : Catalog.readRecord w.tree p = .ok record) :
    (∃ record', Catalog.readRecord (runTurns turns w).tree p = .ok record' ∧
      Alike turns record record') ∨
    (runTurns turns w).tree.stat false p = .error .notFound ∧
      ∃ table, base ++ [metadataName] ++ solid rest = tablePlace base table ∧
        Deletes table turns w := by
  obtain ⟨hholds, f, hfile⟩ := h.holds hp hread
  obtain ⟨hregular, hdirs⟩ := runTurns_regular turns hfair h
  have hplace := h.locate_kept hregular hp hfile hdirs
  rcases runTurns_holds turns hfair h hx hholds with
    ⟨record', ⟨f', text, hg, hcontent, hparse⟩, halike⟩ | ⟨hnone, hdeleted⟩
  · refine .inl ⟨record', Catalog.readRecord_eq_ok_iff.2 ⟨text, ?_, hparse⟩, halike⟩
    exact Catalog.readText_of_stat (stat_of_place hplace hg fun _ => by simp) hcontent
  · exact .inr ⟨stat_of_none hplace hnone, hdeleted⟩

/-- In a regular tree the catalog files stay readable, whatever turns there are and however they end: a
database's always, and a table's until the table is deleted. Their kinds never change, and their UUIDs
only if some turn changes UUIDs. -/
theorem turns_keep_catalogs (turns : List Turn) (root : Path) (base : Location) (w : World)
    (hfair : ∀ turn ∈ turns, turn.Fair root base) (h : Regular w.tree root base) :
    let layout : Layout := ⟨root⟩
    let w' := runTurns turns w
    Regular w'.tree root base ∧
    (∀ database record, Catalog.readRecord w.tree (layout.databaseFile database) = .ok record →
      ∃ record', Catalog.readRecord w'.tree (layout.databaseFile database) = .ok record' ∧
        Alike turns record record') ∧
    ∀ table record, table.database ≠ [] →
      Catalog.readRecord w.tree (layout.tableFile table) = .ok record →
      (∃ record', Catalog.readRecord w'.tree (layout.tableFile table) = .ok record' ∧
        Alike turns record record') ∨
      w'.tree.stat false (layout.tableFile table) = .error .notFound ∧ Deletes table turns w := by
  intro layout w'
  refine ⟨(runTurns_regular turns hfair h).1, fun database record hread => ?_,
    fun table record hdatabase hread => ?_⟩
  · have hplace : base ++ [metadataName] ++ solid [catalogName database] =
        base ++ [metadataName, catalogName database] := by
      rw [show solid [catalogName database] = [catalogName database] from
        Path.solid_cons (catalogName_not_dots database).1 [], List.append_assoc]
      rfl
    have hx : CatalogPlace base (base ++ [metadataName] ++ solid [catalogName database]) :=
      hplace ▸ .first _
    have hbelow := layout.below_databaseFile database
    refine (readRecord_after_turns layout hfair h hbelow hx hread).resolve_right ?_
    rintro ⟨-, table, hsame, -⟩
    -- the catalog file of a table is one name deeper
    rw [hplace] at hsame
    have hlen := congrArg List.length hsame
    simp [tablePlace] at hlen
  · have hplace := tablePlace_eq base hdatabase
    have hbelow := layout.below_tableFile table
    rw [nameParts_of_ne_nil hdatabase] at hplace hbelow
    have hx : CatalogPlace base
        (base ++ [metadataName] ++ solid ([escapeName table.database] ++ [catalogName table.table])) :=
      hplace ▸ .second _ _
    rcases readRecord_after_turns layout hfair h hbelow hx hread with hkept | ⟨hgone, other, hsame, hdeleted⟩
    · exact .inl hkept
    · obtain rfl := tablePlace_injective (hplace.trans hsame)
      exact .inr ⟨hgone, hdeleted⟩

/-- A database gets another engine and loses a table, and is still read as a database. -/
theorem turns_keep_catalogs_shop :
    let turns : List Turn :=
      [⟨eventsSite 0, .setEngine "shop" (.replicated ["/ch/shop", "s1", "r1"])⟩,
        ⟨eventsSite 0, .deleteDetached ⟨"shop", "events"⟩⟩]
    Regular shopTree "/srv" ["srv"] ∧ (∀ turn ∈ turns, turn.Fair "/srv" ["srv"]) ∧
    ∃ record, Catalog.readRecord (runTurns turns { tree := shopTree }).tree
        ((⟨"/srv"⟩ : Layout).databaseFile "shop") = .ok record ∧ record.kind = .database := by
  intro turns
  have hfair : ∀ turn ∈ turns, turn.Fair "/srv" ["srv"] := by
    have hsite : ∀ c : Command, c.Proper → (⟨eventsSite 0, c⟩ : Turn).Fair "/srv" ["srv"] :=
      fun c hc => ⟨rfl, ⟨_, rfl⟩, Remover.tame_of_idle (fun _ _ _ => rfl) _ _, hc⟩
    intro turn hturn
    simp only [turns, List.mem_cons, List.not_mem_nil, or_false] at hturn
    rcases hturn with rfl | rfl
    · refine hsite _ fun word hword => ?_
      simp only [List.mem_cons, List.not_mem_nil, or_false] at hword
      rcases hword with rfl | rfl | rfl <;> decide
    · exact hsite _ ⟨by decide, by decide⟩
  have hread : ∃ record, Catalog.readRecord shopTree ((⟨"/srv"⟩ : Layout).databaseFile "shop") =
      .ok record ∧ record.kind = .database := ⟨_, rfl, rfl⟩
  obtain ⟨record, hread, hkind⟩ := hread
  obtain ⟨record', hread', halike⟩ := (turns_keep_catalogs turns "/srv" ["srv"] { tree := shopTree }
    hfair regular_shopTree).2.1 "shop" record hread
  exact ⟨regular_shopTree, hfair, record', hread', halike.1.trans hkind⟩

/-! ## Trees that do not stay regular -/

/-- A remover that puts a link somewhere. -/
def linking (l : Location) (target : Path) : Remover where
  name := "linking"
  run _ _ t := (.ok ⟨some 0, []⟩, t.put l (.link target))

/-- Nothing changes under another directory than that of the link. -/
theorem get?_linking {l : Location} {top : Text} {target : Path} (hl : base ++ [top] <+: l)
    (htop : top ≠ metadataName) (hx : base ++ [metadataName] <+: x) (before : List Removal)
    (r : Removal) (t : FileTree) : ((linking l target).run before r t).2.get? x = t.get? x := by
  have hnil : l ≠ [] := by
    rintro rfl
    simp at hl
  show (t.put l (.link target)).get? x = _
  rw [get?_put _ _ _ _ hnil, if_neg]
  rintro rfl
  exact htop (eq_of_prefix_tops hl hx)

/-- Links of tables may be put anew. -/
theorem tame_linking (root : Path) (base : Location) (database table : Text) (target : Path) :
    (linking (base ++ [dataName, database, table]) target).Tame root base where
  regular _ _ _ h := h.put ⟨dataName, by decide, prefix_tops base dataName _⟩
    (not_mem_tops (by simp)) (.inr ⟨database, table, rfl⟩)
  catalog before r t x hx :=
    get?_linking (prefix_tops base dataName _) (by decide) hx before r t

/-- A database whose directory of data may be replaced by a link. -/
def aliasedTree : FileTree where
  entries :=
    [(["srv"], .directory), (["srv", "metadata"], .directory), (["srv", "metadata", "db"], .directory),
      (["srv", "metadata", "db", "t.sql"], .file eventsFile), (["srv", "metadata", "t"], .directory),
      (["srv", "metadata", "t", "x.sql"], .file eventsFile), (["srv", "data"], .directory),
      (["srv", "data", "db"], .directory), (["srv", "store"], .directory)]

theorem regular_aliasedTree : Regular aliasedTree "/srv" ["srv"] := by
  refine Regular.of_entries "/srv" (by decide) ?_ (by decide) (by decide) ?_
  · have hnames : ∀ part ∈ Path.parts "/srv",
        part ≠ "." ∧ part ≠ ".." ∧ part.byteLength ≤ nameLimit := by
      decide
    exact hnames
  · have hlinks : ∀ e ∈ aliasedTree.entries, ¬ aliasedTree.IsLink e.1 := by decide
    exact fun e he hlink => absurd hlink (hlinks e he)

/-- A root that is found through the link of a table. -/
def circularTree : FileTree where
  entries :=
    [(["data"], .directory), (["data", "db"], .directory), (["data", "db", "metadata"], .directory),
      (["data", "db", "metadata", "db.sql"], .file shopFile),
      (["data", "db", "metadata", "db"], .directory),
      (["data", "db", "metadata", "db", "metadata.sql"], .file eventsFile),
      (["data", "db", "data"], .directory), (["data", "db", "data", "x"], .directory),
      (["data", "db", "data", "x", "y"], .link "/data/db"), (["data", "db", "store"], .directory)]

theorem regular_circularTree : Regular circularTree "/data/db" ["data", "db"] := by
  refine Regular.of_entries "/data/db" (by decide) ?_ (by decide) (by decide) ?_
  · have hnames : ∀ part ∈ Path.parts "/data/db",
        part ≠ "." ∧ part ≠ ".." ∧ part.byteLength ≤ nameLimit := by
      decide
    exact hnames
  · have hlinks : ∀ e ∈ circularTree.entries, circularTree.IsLink e.1 →
        e.1 = ["data", "db", "data", "x", "y"] := by
      decide
    exact fun e he hlink _ => ⟨_, _, hlinks e he hlink⟩

theorem exists_of_isOk {ε α : Type} {r : Except ε α} (h : r.isOk = true) : ∃ a, r = .ok a := by
  cases r with
  | ok a => exact ⟨a, rfl⟩
  | error => cases h

/-- Two ways to lose catalog files that are not deleted. A remover puts a link to `metadata` in the place
of a database's directory, so that the link of the database's table `t` is the directory of the database
`t`. Or the remover keeps the tree regular, but the root is found through the link of a table and so is
another one when the remover has run; a path that led to the data of a table leads to `metadata` then. -/
theorem turn_loses_catalogs :
    (let site : Site := { eventsSite 0 with remover := linking ["srv", "data", "db"] "../metadata" }
     let turns : List Turn := [⟨site, .deleteDetached ⟨"db", "t"⟩⟩]
     let lost : TableName := ⟨"t", "x"⟩
     Regular aliasedTree site.layout.root ["srv"] ∧
     (∀ before r t x, (["srv"] : Location) ++ [metadataName] <+: x →
       (site.remover.run before r t).2.get? x = t.get? x) ∧
     (∃ record, Catalog.readRecord aliasedTree (site.layout.tableFile lost) = .ok record) ∧
     (runTurns turns { tree := aliasedTree }).tree.stat false (site.layout.tableFile lost) =
       .error .notFound ∧
     ¬ Deletes lost turns { tree := aliasedTree }) ∧
    let layout : Layout := ⟨"/data/db"⟩
    let site : Site :=
      { eventsSite 0 with
        settings := { paths := { root := "/data/db/data/x/y" } },
        remover := linking ["data", "db", "data", "x", "y"] "/" }
    let turns : List Turn := [⟨site, .deleteDetached ⟨"db", "metadata"⟩⟩]
    Regular circularTree layout.root ["data", "db"] ∧ site.remover.Tame layout.root ["data", "db"] ∧
    circularTree.locate true site.layout.root = .ok ["data", "db"] ∧
    (∃ record, Catalog.readRecord circularTree (site.layout.databaseFile "db") = .ok record) ∧
    (runTurns turns { tree := circularTree }).tree.stat false (layout.databaseFile "db") =
      .error .notFound := by
  refine ⟨?_, ?_⟩
  · intro site turns lost
    refine ⟨regular_aliasedTree, ?_, exists_of_isOk (by decide +kernel), by decide +kernel, ?_⟩
    · exact fun before r t x hx => get?_linking (prefix_tops _ dataName _) (by decide) hx before r t
    · intro (hdeletes : Deletes lost [_] _)
      rcases hdeletes with ⟨hcommand, -⟩ | ⟨⟨⟩⟩
      exact absurd hcommand (by decide)
  · intro layout site turns
    exact ⟨regular_circularTree, tame_linking layout.root ["data", "db"] "x" "y" "/", by decide +kernel,
      exists_of_isOk (by decide +kernel), by decide +kernel⟩

end CatalogAdmin
