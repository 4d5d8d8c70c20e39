import CatalogAdmin.Command.Basic

/-!
# Command lines

A command line is a list of words. Words that name a command lead to it, one after the other; behind
each of them may stand switches of that place; the other words are the command's arguments. A switch
has a long name and may have a short one, and takes the words behind it that it needs. It is given
at most once in each place, unless it gathers words. Behind `--` every word is an argument.

The switches that hold for every command may be given in any place, and the innermost place counts.
-/

namespace CatalogAdmin.CommandLine

/-! ## What may be given -/

/-- What an argument may be. -/
inductive Argument
  | name
  | uuid
deriving DecidableEq, Repr

/-- Whether a word may be an argument. -/
def Argument.accepts : Argument → Text → Bool
  | .name, _ => true
  | .uuid, word => (Uuid.parse? word).isSome

/-- A switch: its names, the words it takes, and where it may be given. -/
structure Switch where
  name : Text
  short : Option Char := none
  count : Nat := 0
  /-- Whether the words it takes must not be empty. -/
  nonempty : Bool := false
  /-- Whether it may be given again, with more words. -/
  gathers : Bool := false
  /-- The words behind which it may be given; everywhere if there are none. -/
  place : Option (List Text) := none
deriving DecidableEq, Repr

/-- The switches with the words they took. -/
abbrev Given := List (Text × List Text)

/-- The words a switch took, if it was given. -/
def Given.words? (g : Given) (name : Text) : Option (List Text) := g.lookup name

/-- Whether a switch was given. -/
def Given.has (g : Given) (name : Text) : Bool := (g.words? name).isSome

/-- The switches with one more, or with more words for one that was given before. -/
def Given.add (g : Given) (name : Text) (words : List Text) : Given :=
  g.filter (·.1 ≠ name) ++ [(name, (g.words? name).getD [] ++ words)]

/-- A command: the words that lead to it, its arguments, and what it is with the switches given and
the arguments. -/
structure Entry where
  words : List Text
  arguments : List Argument
  command? : Given → List Text → Option Command

/-- The switches. -/
def switches : List Switch :=
  [{ name := "config", count := 1, nonempty := true },
    { name := "verbose", short := some 'v' },
    { name := "quiet", short := some 'q' },
    { name := "help", short := some 'h' },
    { name := "version", short := some 'V', place := some [] },
    { name := "json", place := some ["config"] },
    { name := "permanently", place := some ["table", "detach"] },
    { name := "atomic", place := some ["database", "set-engine"] },
    { name := "replicated", count := 3, gathers := true,
      place := some ["database", "set-engine"] }]

/-- The engine that switches tell; exactly one must be told. -/
def engine? (given : Given) : Option EngineChoice :=
  match given.words? "atomic", given.words? "replicated" with
  | some _, none => some .atomic
  | none, some words => some (.replicated words)
  | _, _ => none

/-- A command about one table. -/
def aboutTable (word : Text) (command : Given → TableName → Command) : Entry where
  words := ["table", word]
  arguments := [.name, .name]
  command?
    | given, [database, table] => some (command given ⟨database, table⟩)
    | _, _ => none

/-- A command without arguments. -/
def plain (word : Text) (command : Given → Command) : Entry where
  words := [word]
  arguments := []
  command? given _ := some (command given)

/-- The commands. -/
def entries : List Entry :=
  [{ words := ["table", "change-uuid"], arguments := [.name, .name, .uuid],
     command?
       | _, [database, table, uuid] => (Uuid.parse? uuid).map (.changeUuid ⟨database, table⟩)
       | _, _ => none },
    aboutTable "delete-detached" fun _ => .deleteDetached,
    aboutTable "detach" fun given table => .detach table (given.has "permanently"),
    aboutTable "attach" fun _ => .attach,
    aboutTable "metadata" fun _ => .showTable,
    { words := ["database", "metadata"], arguments := [.name],
      command?
        | _, [database] => some (.showDatabase database)
        | _, _ => none },
    { words := ["database", "set-engine"], arguments := [.name],
      command?
        | given, [database] => (engine? given).map (.setEngine database)
        | _, _ => none },
    plain "config" fun given => .showSettings (given.has "json"),
    plain "validate" fun _ => .validateSettings,
    plain "version" fun _ => .showVersion]

/-- The words that lead on from a place. -/
def wordsBehind (place : List Text) : List Text :=
  entries.filterMap fun e => if place.isPrefixOf e.words then e.words[place.length]? else none

/-- Whether a word asks for help in a place; it does where any words lead on. -/
def asksHelp (place : List Text) (word : Text) : Bool := word = "help" && wordsBehind place ≠ []

/-! ## Reading a command line -/

/-- Why a command line is no command: it is wrong, or it asks about the program itself. -/
inductive Stop
  | misuse
  | help
  | version
deriving DecidableEq, Repr

/-- A command line read in part. -/
structure Progress where
  place : List Text := []
  /-- The switches given in this place. -/
  given : Given := []
  /-- The switches given in the places before, last place first. -/
  before : List Given := []
  /-- A switch that needs more words, and those it has. -/
  pending : Option (Switch × List Text) := none
  arguments : List Text := []
  onlyArguments : Bool := false
  helping : Bool := false

namespace Progress

/-- Takes a switch with its words. -/
def take (p : Progress) (s : Switch) (words : List Text) : Except Stop Progress :=
  if s.name = "help" then throw .help
  else if s.name = "version" then throw .version
  else if (p.given.has s.name && !s.gathers) || (s.nonempty && words.contains []) then throw .misuse
  else return { p with given := p.given.add s.name words, pending := none }

/-- Takes a word for a switch that needs more. -/
def feed (p : Progress) (s : Switch) (words : List Text) : Except Stop Progress :=
  if words.length < s.count then return { p with pending := some (s, words) }
  else p.take s words

/-- Takes an argument. -/
def argument (p : Progress) (word : Text) : Except Stop Progress := do
  if p.pending.isSome then throw .misuse
  match entries.find? (·.words = p.place) with
  | none => throw .misuse
  | some e =>
    match e.arguments[p.arguments.length]? with
    | none => throw .misuse
    | some a =>
      if a.accepts word then return { p with arguments := p.arguments ++ [word] }
      else throw .misuse

/-- The switch of this place that satisfies a condition. -/
def switch? (p : Progress) (condition : Switch → Bool) : Except Stop Switch :=
  match switches.find? fun s => condition s && s.place.all (· = p.place) with
  | some s => return s
  | none => throw .misuse

/-- Takes the long name of a switch, which may have its word behind an equals sign. -/
def long (p : Progress) (t : Text) : Except Stop Progress := do
  if p.pending.isSome then throw .misuse
  match t.cut "=" with
  | none =>
    let s ← p.switch? (·.name = t)
    p.feed s []
  | some (name, word) =>
    let s ← p.switch? (·.name = name)
    if s.count = 1 then p.take s [word] else throw .misuse

/-- Takes the short names of switches that need no words. -/
def shorts (p : Progress) : Text → Except Stop Progress
  | [] => return p
  | c :: rest => do
    if p.pending.isSome then throw .misuse
    let s ← p.switch? (·.short = some c)
    shorts (← p.take s []) rest

/-- Goes on to the place a word leads to. -/
def enter (p : Progress) (word : Text) : Progress :=
  { place := p.place ++ [word], before := p.given :: p.before }

/-- Takes the next word. -/
def step (p : Progress) (word : Text) : Except Stop Progress :=
  if p.helping then
    if (wordsBehind p.place).contains word || asksHelp p.place word then
      return { p with place := p.place ++ [word] }
    else throw .misuse
  else if p.onlyArguments then p.argument word
  else if p.pending.isNone && (wordsBehind p.place).contains word then return p.enter word
  else if p.pending.isNone && asksHelp p.place word then return { p with helping := true }
  else match word with
    | ['-', '-'] => return { p with onlyArguments := true }
    | '-' :: '-' :: rest => p.long rest
    | '-' :: c :: rest => p.shorts (c :: rest)
    | _ =>
      match p.pending with
      | some (s, words) => p.feed s (words ++ [word])
      | none => p.argument word

/-- The command at the end of a command line. Where a place names no settings file, `fileVariable`
may name one, but not by an empty word. -/
def finish (p : Progress) (fileVariable : Option Text) : Except Stop Invocation := do
  if p.helping then throw .help
  if p.pending.isSome then throw .misuse
  let some e := entries.find? (·.words = p.place) | throw .misuse
  if p.arguments.length ≠ e.arguments.length then throw .misuse
  let some command := e.command? p.given p.arguments | throw .misuse
  let places := p.given :: p.before
  if fileVariable = some [] && places.any (!·.has "config") then throw .misuse
  let named := places.findSome? fun given => (given.words? "config").bind List.head?
  return { command, settingsFile := (named.or fileVariable).map Path.mk,
           verbose := places.any (·.has "verbose"), quiet := places.any (·.has "quiet") }

end Progress

/-- Reads a command line. -/
def parse (words : List Text) (fileVariable : Option Text) : Except Stop Invocation := do
  (← words.foldlM Progress.step {}).finish fileVariable

end CatalogAdmin.CommandLine
