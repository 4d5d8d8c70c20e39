import CatalogAdmin.Layout
import CatalogAdmin.Proofs.FileTree.Locating
import CatalogAdmin.Proofs.Uuid

/-!
# Where store directories are

The store directory of a UUID is three names below the root: `store`, the first three characters of
the UUID, and the UUID. `steps_storeDirectory` gives the steps to it, `exists_parent_storeDirectory` those
to the directory it is in, as `Path.parent?` writes it.
-/

namespace CatalogAdmin

open FileTree (IsName steps)
open CatalogAdmin.Path (solid)

/-! ## Written UUIDs -/

namespace Uuid

theorem hexChar_plain (d : Fin 16) :
    Text.hexChar d ≠ '/' ∧ Text.hexChar d ≠ '.' ∧ (Text.hexChar d).utf8Size = 1 := by
  revert d
  decide

theorem plain_of_mem_text {u : Uuid} {c : Char} (h : c ∈ u.text) :
    c ≠ '/' ∧ c ≠ '.' ∧ c.utf8Size = 1 := by
  rcases mem_text h with rfl | ⟨d, rfl⟩
  · decide
  · exact hexChar_plain d

theorem byteLength_of_plain {t : Text} (h : ∀ c ∈ t, c.utf8Size = 1) : t.byteLength = t.length := by
  induction t with
  | nil => rfl
  | cons c rest ih =>
    obtain ⟨hc, hrest⟩ := List.forall_mem_cons.1 h
    rw [Text.byteLength, hc, ih hrest, List.length_cons, Nat.add_comm]

/-- A nonempty part of a written UUID is a name. -/
theorem isName_of_subset {u : Uuid} {part : Text} (hne : part ≠ []) (hlen : part.length ≤ 36)
    (h : ∀ c ∈ part, c ∈ u.text) : IsName part ∧ '/' ∉ part := by
  have plain := fun c hc => plain_of_mem_text (h c hc)
  have nodot : '.' ∉ part := fun hmem => (plain _ hmem).2.1 rfl
  refine ⟨⟨?_, ?_, ?_⟩, fun hmem => (plain _ hmem).1 rfl⟩
  · rintro rfl
    exact nodot (by decide)
  · rintro rfl
    exact nodot (by decide)
  · rw [byteLength_of_plain fun c hc => (plain c hc).2.2]
    exact Nat.le_trans hlen (by decide)

theorem text_ne_nil (u : Uuid) : u.text ≠ [] := by
  have := u.length_text
  intro h
  rw [h] at this
  cases this

theorem isName_text (u : Uuid) : IsName u.text ∧ '/' ∉ u.text :=
  isName_of_subset u.text_ne_nil (Nat.le_of_eq u.length_text) fun _ h => h

theorem start_ne_nil (u : Uuid) : u.text.take 3 ≠ [] := by
  intro h
  have := congrArg List.length h
  rw [List.length_take, u.length_text] at this
  cases this

theorem isName_start (u : Uuid) : IsName (u.text.take 3) ∧ '/' ∉ u.text.take 3 := by
  refine isName_of_subset u.start_ne_nil ?_ fun _ h => List.mem_of_mem_take h
  rw [List.length_take]
  omega

end Uuid

/-! ## Store directories -/

/-- The name of the directory that all stores are in. -/
def storeName : Text := "store"

theorem Uuid.storePath_eq (u : Uuid) :
    u.storePath = storeName ++ '/' :: (u.text.take 3 ++ '/' :: u.text) := by
  have hslash : ("store/" : Text) = storeName ++ ['/'] := by decide
  show ("store/" : Text) ++ u.text.take 3 ++ '/' :: u.text = _
  rw [hslash, List.append_assoc, List.append_assoc]
  rfl

theorem Uuid.parts_storePath (u : Uuid) :
    Path.parts ⟨u.storePath⟩ = [storeName, u.text.take 3, u.text] := by
  have hstore : '/' ∉ storeName := by decide
  rw [Path.parts, u.storePath_eq, Text.fields_append, Text.fields_append,
    Text.fields_of_not_mem hstore, Text.fields_of_not_mem u.isName_start.2,
    Text.fields_of_not_mem u.isName_text.2]
  have hname : storeName ≠ [] := by decide
  simp [u.start_ne_nil, hname, u.text_ne_nil]

/-- The names from the root to a store directory. -/
def storeNames (u : Uuid) : List Text := [storeName, u.text.take 3, u.text]

theorem storeNames_injective {old new : Uuid} (h : storeNames old = storeNames new) : old.text = new.text := by
  simpa [storeNames] using congrArg List.getLast? h

namespace Layout

variable (l : Layout) (u : Uuid)

theorem relative_storePath : Path.isAbsolute ⟨u.storePath⟩ = false := by
  rw [Path.isAbsolute, u.storePath_eq]
  rfl

/-- The parts of the path of the directory that all stores are in. -/
def storeParts : List Text := l.root.parts ++ [storeName]

theorem isAbsolute_storeDirectory (hroot : l.root.isAbsolute = true) :
    (l.storeDirectory u).isAbsolute = true :=
  Path.isAbsolute_join hroot ⟨u.storePath⟩

/-- A store directory is named by the text of the UUID. -/
theorem storeDirectory_congr {u v : Uuid} (h : u.text = v.text) :
    l.storeDirectory u = l.storeDirectory v := by
  unfold storeDirectory Uuid.storePath
  rw [h]

theorem exists_text_storeDirectory :
    ∃ front, (l.storeDirectory u).text = front ++ u.text := by
  unfold storeDirectory Path.join
  rw [relative_storePath]
  simp only [Bool.false_eq_true, if_false]
  split
  · exact ⟨l.root.text ++ (storeName ++ '/' :: (u.text.take 3 ++ ['/'])), by
      simp [u.storePath_eq]⟩
  · exact ⟨l.root.text ++ '/' :: (storeName ++ '/' :: (u.text.take 3 ++ ['/'])), by
      simp [u.storePath_eq]⟩

theorem steps_storeDirectory :
    steps (l.storeDirectory u) = l.storeParts ++ [u.text.take 3] ++ [u.text] := by
  have hparts : (l.storeDirectory u).parts = l.root.parts ++ [storeName, u.text.take 3, u.text] := by
    rw [storeDirectory, Path.parts_join (relative_storePath u), u.parts_storePath]
  -- the path closes with the UUID, in which no slash is
  have hend : (l.storeDirectory u).endsInSlash = false := by
    obtain ⟨front, hfront⟩ := l.exists_text_storeDirectory u
    rw [Path.endsInSlash, hfront, decide_eq_false_iff_not, List.getLast?_append]
    intro hlast
    rcases Option.or_eq_some_iff.1 hlast with hlast | ⟨hnone, _⟩
    · exact u.isName_text.2 (List.mem_of_getLast? hlast)
    · exact u.text_ne_nil (List.getLast?_eq_none_iff.1 hnone)
  rw [steps, hend, hparts]
  simp [storeParts]

/-- The directory a store directory is in is written without what means nothing in the root's
path. -/
theorem exists_parent_storeDirectory :
    ∃ parent front, (l.storeDirectory u).parent? = some parent ∧
      parent.isAbsolute = l.root.isAbsolute ∧ Path.ofComponents parent.components = parent ∧
      steps parent = front ++ [u.text.take 3] ∧ solid front = solid l.storeParts := by
  have hsolid : solid (l.storeDirectory u).parts =
      solid l.storeParts ++ [u.text.take 3] ++ [u.text] := by
    rw [← Path.solid_steps, steps_storeDirectory, Path.solid_append, Path.solid_append,
      Path.solid_cons u.isName_start.1.1, Path.solid_cons u.isName_text.1.1]
    rfl
  obtain ⟨parent, dots, hparent, habs, hback, hdots, hsteps⟩ :=
    Path.exists_parent hsolid (by simp)
  refine ⟨parent, dots ++ solid l.storeParts, hparent, ?_, hback, ?_, ?_⟩
  · rw [habs, storeDirectory, Path.isAbsolute_join_of_relative _ (relative_storePath u)]
  · rw [hsteps, List.append_assoc]
  · have hnone : solid dots = [] := List.filter_eq_nil_iff.2 fun d hd => by simp [hdots d hd]
    rw [Path.solid_append, hnone, Path.solid_solid, List.nil_append]

theorem isAbsolute_dataLink (hroot : l.root.isAbsolute = true) (table : TableName) :
    (l.dataLink table).isAbsolute = true :=
  Path.isAbsolute_join (Path.isAbsolute_join (Path.isAbsolute_join hroot _) _) _

end Layout

end CatalogAdmin
