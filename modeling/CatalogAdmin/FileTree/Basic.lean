import CatalogAdmin.Path

/-!
# File trees

A file tree is a list of entries, each a node under the location it stands at; a location is the
list of names that lead to it from the root. The root itself is always a directory. A tree is looked
at through `get?` alone, and each change of a tree says what it does to that view:

* `get?_put`: putting a node changes its own location only;
* `get?_erase`: erasing a location takes away what is at it and below it, and nothing else.
-/

namespace CatalogAdmin

/-- What a file holds: a text, or bytes that are the UTF-8 form of no text. -/
inductive Content
  | text (t : Text)
  | bytes (bs : List UInt8)
deriving DecidableEq, Repr

/-- A regular file: what it holds, its permission bits and the numbers of its owner and its group. -/
structure File where
  content : Content
  mode : Nat := 0o644
  owner : Nat := 0
  group : Nat := 0
deriving DecidableEq, Repr

/-- What may stand at a location. -/
inductive Node
  | directory
  | file (f : File)
  | link (target : Path)
deriving DecidableEq, Repr

/-- The names that lead to a place from the root. -/
abbrev Location := List Text

/-- What tells a new file apart that is made to take the place of another: six letters and digits. -/
abbrev Tag := { tag : Text // tag.length = 6 ∧ ∀ c ∈ tag, c.isAlphanum = true }

/-- Six times the same letter. -/
def Tag.plain : Tag :=
  ⟨List.replicate 6 'A', List.length_replicate, fun c hc => by rw [List.eq_of_mem_replicate hc]; decide⟩

/-- A file tree, the directory that relative paths start from, and the tag of the next new file that is
made to take the place of another. -/
structure FileTree where
  entries : List (Location × Node)
  here : Location := []
  spare : Tag := .plain
deriving DecidableEq, Repr

namespace FileTree

/-- What stands at a location. -/
def get? (t : FileTree) (l : Location) : Option Node :=
  if l = [] then some .directory else t.entries.lookup l

/-- The tree with a node at a location, in the place of what was there. -/
def put (t : FileTree) (l : Location) (node : Node) : FileTree :=
  { t with entries := (l, node) :: t.entries.filter (·.1 ≠ l) }

/-- The tree without what is at a location or below it. -/
def erase (t : FileTree) (l : Location) : FileTree :=
  { t with entries := t.entries.filter fun e => !l.isPrefixOf e.1 }

/-- The tree without what is below a location. -/
def clear (t : FileTree) (l : Location) : FileTree :=
  { t with entries := t.entries.filter fun e => e.1 = l || !l.isPrefixOf e.1 }

/-- Where a place is when what is at one location and below it has moved to another. -/
def afterMove (source target l : Location) : Location :=
  if source.isPrefixOf l then target ++ l.drop source.length else l

/-- The tree with what is at a location and below it moved to another location. The directory that
relative paths start from moves along. -/
def move (t : FileTree) (source target : Location) : FileTree :=
  { t with
    entries := t.entries.map fun e => (afterMove source target e.1, e.2)
    here := afterMove source target t.here }

/-! ## What changes do to the view -/

theorem lookup_filter_of_pos {α : Type} (p : Location → Bool) (l : Location)
    (entries : List (Location × α)) (h : p l = true) :
    (entries.filter fun e => p e.1).lookup l = entries.lookup l := by
  induction entries with
  | nil => rfl
  | cons e rest ih =>
    obtain ⟨k, v⟩ := e
    by_cases hk : p k = true
    · simp only [List.filter_cons, hk, if_true, List.lookup_cons, ih]
    · have hne : (l == k) = false := by
        simp only [beq_eq_false_iff_ne, ne_eq]
        rintro rfl
        exact hk h
      simp only [List.filter_cons, hk, List.lookup_cons, hne, ih, if_false, Bool.false_eq_true]

theorem lookup_filter_of_neg {α : Type} (p : Location → Bool) (l : Location)
    (entries : List (Location × α)) (h : p l = false) :
    (entries.filter fun e => p e.1).lookup l = none := by
  induction entries with
  | nil => rfl
  | cons e rest ih =>
    obtain ⟨k, v⟩ := e
    by_cases hk : p k = true
    · have hne : (l == k) = false := by
        simp only [beq_eq_false_iff_ne, ne_eq]
        rintro rfl
        rw [h] at hk
        exact absurd hk (by decide)
      simp only [List.filter_cons, hk, if_true, List.lookup_cons, hne, ih]
    · simp only [List.filter_cons, hk, ih, if_false, Bool.false_eq_true]

/-- Putting a node changes its own location only. -/
theorem get?_put (t : FileTree) (l l' : Location) (node : Node) (hl : l ≠ []) :
    (t.put l node).get? l' = if l' = l then some node else t.get? l' := by
  unfold get? put
  by_cases h : l' = l
  · subst h; simp [hl]
  · by_cases hr : l' = []
    · simp [hr, Ne.symm hl]
    · have hb : (l' == l) = false := by simpa using h
      have := lookup_filter_of_pos (fun k => decide (k ≠ l)) l' t.entries (by simpa using h)
      simpa [hr, h, List.lookup_cons, hb] using this

/-- Erasing a location takes away what is at it and below it. -/
theorem get?_erase (t : FileTree) (l l' : Location) (hl : l ≠ []) :
    (t.erase l).get? l' = if l <+: l' then none else t.get? l' := by
  unfold get? erase
  by_cases hr : l' = []
  · subst hr
    have : ¬ l <+: [] := fun hp => hl (List.prefix_nil.1 hp)
    simp [this]
  · by_cases hp : l <+: l'
    · have := lookup_filter_of_neg (fun k => !l.isPrefixOf k) l' t.entries
        (by simpa [List.isPrefixOf_iff_prefix] using hp)
      simp [hr, hp, this]
    · have := lookup_filter_of_pos (fun k => !l.isPrefixOf k) l' t.entries (by
        cases hb : l.isPrefixOf l' with
        | false => rfl
        | true => exact absurd (List.isPrefixOf_iff_prefix.1 hb) hp)
      simp [hr, hp, this]

end FileTree

end CatalogAdmin
