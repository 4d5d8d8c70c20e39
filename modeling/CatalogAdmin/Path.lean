import CatalogAdmin.Text.Basic

/-!
# Paths

A path is kept as it was written: joining never tidies up `.`, `..` or doubled slashes. What a path
names is a matter of its components, which leave out the empty ones and every `.` but one a relative
path begins with. Two paths with the same components are the same to anything that compares paths.
-/

namespace CatalogAdmin

/-- A path, as written. -/
structure Path where
  text : Text
deriving DecidableEq, Repr

namespace Path

instance : Coe Text Path := ⟨Path.mk⟩
instance : Coe String Path := ⟨fun s => ⟨s⟩⟩

/-- The empty path. -/
def empty : Path := ⟨[]⟩

/-- Whether a path starts from the root. -/
def isAbsolute (p : Path) : Bool := p.text.head? = some '/'

/-- Whether a path is written with a slash at its end. -/
def endsInSlash (p : Path) : Bool := p.text.getLast? = some '/'

/-- One path below another. An absolute right side stands for itself. A slash is put between the
two unless the left side is empty or already ends in one; so an empty right side leaves a slash at
the end. -/
def join (base p : Path) : Path :=
  if p.isAbsolute then p
  else if base.text.isEmpty || base.endsInSlash then ⟨base.text ++ p.text⟩
  else ⟨base.text ++ '/' :: p.text⟩

/-- A path with text added at its end. -/
def extend (p : Path) (suffix : Text) : Path := ⟨p.text ++ suffix⟩

/-- The parts between the slashes of a path that are not empty, `.` and `..` among them. -/
def parts (p : Path) : List Text := (p.text.fields '/').filter (· ≠ [])

/-- What a path goes through. -/
inductive Component
  | root
  | current
  | parent
  | name (n : Text)
deriving DecidableEq, Repr

/-- The component a part stands for, none for a `.` inside a path. -/
def Component.ofPart? (part : Text) : Option Component :=
  if part = "." then none else if part = ".." then some .parent else some (.name part)

/-- The components of a path. -/
def components (p : Path) : List Component :=
  let inner := p.parts.filterMap Component.ofPart?
  if p.isAbsolute then .root :: inner
  else if (p.text.fields '/').head? = some ("." : Text) then .current :: inner
  else inner

/-- The path of some components. -/
def ofComponents : List Component → Path
  | [] => empty
  | .root :: rest => ⟨'/' :: body rest⟩
  | rest => ⟨body rest⟩
where
  /-- The text of components behind the root. -/
  body (cs : List Component) : Text :=
    Text.join "/" (cs.map fun
      | .root => []
      | .current => "."
      | .parent => ".."
      | .name n => n)

/-- The path without its last component; none for the empty path and the root. -/
def parent? (p : Path) : Option Path :=
  match p.components.getLast? with
  | none => none
  | some .root => none
  | some _ => some (ofComponents p.components.dropLast)

end Path

end CatalogAdmin
