import CatalogAdmin.Proofs.Catalog.Declaration
import CatalogAdmin.Proofs.Text.Cut
import CatalogAdmin.Proofs.Text.Quoted

/-!
# What an engine declaration may say

The grammar of engine declarations, apart from the functions that read them: `Arguments` and
`FirstArguments` for the quoted arguments, `Named` for the name, `Declares` for the engine that a name
and arguments stand for, and `EngineFault` for what is wrong with those that stand for none.

Results:
1. `quotedArguments_eq_ok_iff`: the arguments that are read are those of the grammar, and none are read
   only where a quote is not closed (`quotedArguments_eq_error`).
2. `Declares.of_eq`, `EngineFault.of_eq`: a name with arguments is read as the engine it stands for, and is
   refused for its fault; it has the one or the other (`declares_or_fault`).
-/

namespace CatalogAdmin.Catalog

open Text.Quoted (Spells)

/-- An answer that is right where there is one, with an error that is right where there is none, is
the only one. -/
theorem except_iff {ε α : Type} {x : Except ε α} {P : α → Prop} {Q : ε → Prop}
    (hok : ∀ a, P a → x = .ok a) (herror : ∀ e, Q e → x = .error e)
    (total : (∃ a, P a) ∨ ∃ e, Q e) :
    (∀ a, x = .ok a ↔ P a) ∧ ∀ e, x = .error e ↔ Q e := by
  refine ⟨fun a => ⟨fun hx => ?_, hok a⟩, fun e => ⟨fun hx => ?_, herror e⟩⟩
  · rcases total with ⟨b, hb⟩ | ⟨e, he⟩
    · have := hx.symm.trans (hok b hb)
      cases this
      exact hb
    · have := hx.symm.trans (herror e he)
      cases this
  · rcases total with ⟨a, ha⟩ | ⟨d, hd⟩
    · have := hx.symm.trans (hok a ha)
      cases this
    · have := hx.symm.trans (herror d hd)
      cases this
      exact hd

/-! ## Arguments -/

/-- The quoted arguments of an argument list, from somewhere inside it on, at a depth of nested
parentheses. The list ends at the parenthesis that closes it, or with the text. Outside quotes only
parentheses count. -/
inductive Arguments : Nat → Text → List Text → Prop
  | ended {depth : Nat} : Arguments depth [] []
  | closed {rest : Text} : Arguments 0 (')' :: rest) []
  | inward {depth : Nat} {rest : Text} {values : List Text} :
      Arguments (depth + 1) rest values → Arguments depth ('(' :: rest) values
  | outward {depth : Nat} {rest : Text} {values : List Text} :
      Arguments depth rest values → Arguments (depth + 1) (')' :: rest) values
  | quoted {depth : Nat} {inside value rest : Text} {values : List Text} :
      Spells quote inside value → Arguments depth rest values →
      Arguments depth (quote :: (inside ++ quote :: rest)) (value :: values)
  | other {depth : Nat} {c : Char} {rest : Text} {values : List Text} :
      c ≠ '(' → c ≠ ')' → c ≠ quote → Arguments depth rest values → Arguments depth (c :: rest) values

variable {depth : Nat} {t : Text} {values : List Text}

theorem Arguments.argumentsFrom_eq (h : Arguments depth t values) :
    argumentsFrom depth t = .ok values := by
  induction h with
  | ended => rw [argumentsFrom]
  | closed => exact argumentsFrom_close _
  | inward _ ih => rw [argumentsFrom, ih]
  | outward _ ih => rw [argumentsFrom_outward, ih]
  | quoted hs _ ih => rw [argumentsFrom_quote _ (hs.read (by decide) _), ih]; rfl
  | other hopen hclose hquote _ ih => rw [argumentsFrom_other _ _ hopen hclose hquote, ih]

theorem arguments_of_argumentsFrom (h : argumentsFrom depth t = .ok values) :
    Arguments depth t values := by
  fun_induction argumentsFrom depth t generalizing values with
  | case1 => cases h; exact .ended
  | case2 depth rest ih => exact .inward (ih h)
  | case3 rest => cases h; exact .closed
  | case4 depth rest hdepth ih =>
    obtain ⟨n, rfl⟩ := Nat.exists_eq_succ_of_ne_zero hdepth
    exact .outward (ih h)
  | case5 => cases h
  | case6 depth rest value left hread _ ih =>
    obtain ⟨inside, rfl, hs⟩ := Text.Quoted.exists_of_read hread
    cases hleft : argumentsFrom depth left with
    | error e => rw [hleft] at h; cases h
    | ok more => rw [hleft] at h; cases h; exact .quoted hs (ih hleft)
  | case7 depth c rest hopen hclose hquote ih => exact .other hopen hclose hquote (ih h)

theorem argumentsFrom_eq_error {e : ParseError} (h : argumentsFrom depth t = .error e) :
    e = .unterminatedQuote := by
  fun_induction argumentsFrom depth t with
  | case1 => cases h
  | case2 depth rest ih => exact ih h
  | case3 rest => cases h
  | case4 depth rest hdepth ih => exact ih h
  | case5 => cases h; rfl
  | case6 depth rest value left hread _ ih =>
    cases hleft : argumentsFrom depth left with
    | error d => rw [hleft] at h; cases h; exact ih hleft
    | ok more => rw [hleft] at h; cases h
  | case7 depth c rest hopen hclose hquote ih => exact ih h

/-- The quoted arguments of the first argument list in a text; none where there is no list. Where a
quote of the list is not closed a text has no arguments at all. -/
def FirstArguments (t : Text) (values : List Text) : Prop :=
  '(' ∉ t ∧ values = [] ∨
    ∃ before inside, t = before ++ '(' :: inside ∧ '(' ∉ before ∧ Arguments 0 inside values

theorem cut_at_list {before inside : Text} :
    t.cut "(" = some (before, inside) ↔ t = before ++ '(' :: inside ∧ '(' ∉ before :=
  Text.cut_singleton_eq_some_iff

theorem cut_without_list : t.cut "(" = none ↔ '(' ∉ t := Text.cut_singleton_eq_none_iff

/-- The arguments that are read are those of the first argument list. -/
theorem quotedArguments_eq_ok_iff : quotedArguments t = .ok values ↔ FirstArguments t values := by
  unfold quotedArguments
  constructor
  · intro h
    cases hcut : t.cut "(" with
    | none => rw [hcut] at h; cases h; exact .inl ⟨cut_without_list.1 hcut, rfl⟩
    | some found =>
      obtain ⟨before, inside⟩ := found
      rw [hcut] at h
      obtain ⟨ht, hbefore⟩ := cut_at_list.1 hcut
      exact .inr ⟨before, inside, ht, hbefore, arguments_of_argumentsFrom h⟩
  · rintro (⟨hnone, rfl⟩ | ⟨before, inside, ht, hbefore, h⟩)
    · rw [cut_without_list.2 hnone]
    · rw [cut_at_list.2 ⟨ht, hbefore⟩]
      exact h.argumentsFrom_eq

theorem quotedArguments_eq_error {e : ParseError} (h : quotedArguments t = .error e) :
    e = .unterminatedQuote := by
  unfold quotedArguments at h
  cases hcut : t.cut "(" with
  | none => rw [hcut] at h; cases h
  | some found => rw [hcut] at h; exact argumentsFrom_eq_error h

theorem quotedArguments_of_open (h : ∀ values, ¬ FirstArguments t values) :
    quotedArguments t = .error .unterminatedQuote := by
  cases hq : quotedArguments t with
  | ok values => exact absurd (quotedArguments_eq_ok_iff.1 hq) (h values)
  | error e => rw [quotedArguments_eq_error hq]

/-! ## Engines -/

/-- The name of a table engine that keeps replicas. -/
def IsReplicatedTable (name : Text) : Prop :=
  ("Replicated" : Text) <+: name ∧ ("MergeTree" : Text) <:+ name

/-- The engine that a name with arguments stands for, by the kind of object that has it. -/
inductive Declares (kind : ObjectKind) : Text → Text → Engine → Prop
  | atomic {arguments : Text} : Declares kind "Atomic" arguments .plain
  | replicated {arguments path shard replica : Text} :
      FirstArguments arguments [path, shard, replica] →
      Declares kind "Replicated" arguments (.replicated ⟨path, some shard, replica⟩)
  | replicatedTable {name arguments path replica : Text} {more : List Text} :
      kind = .table → IsReplicatedTable name → FirstArguments arguments (path :: replica :: more) →
      Declares kind name arguments (.replicated ⟨path, none, replica⟩)
  | otherTable {name arguments : Text} :
      kind = .table → name ≠ [] → name ≠ "Atomic" → name ≠ "Replicated" → ¬ IsReplicatedTable name →
      Declares kind name arguments .plain

/-- What is wrong with a name and arguments that stand for no engine. -/
inductive EngineFault (kind : ObjectKind) (name arguments : Text) : ParseError → Prop
  | openQuote :
      name = "Replicated" ∨ kind = .table ∧ IsReplicatedTable name →
      (∀ values, ¬ FirstArguments arguments values) →
      EngineFault kind name arguments .unterminatedQuote
  | notThree {values : List Text} :
      name = "Replicated" → FirstArguments arguments values → values.length ≠ 3 →
      EngineFault kind name arguments (.replicatedArity name .exactlyThree values.length)
  | lessThanTwo {values : List Text} :
      kind = .table → IsReplicatedTable name → FirstArguments arguments values → values.length < 2 →
      EngineFault kind name arguments (.replicatedArity name .atLeastTwo values.length)
  | unsupported :
      name ≠ "Atomic" → name ≠ "Replicated" → (kind = .table → name = []) →
      EngineFault kind name arguments (.unsupportedEngine kind name)

variable {kind : ObjectKind} {name arguments : Text}

theorem isReplicatedTableEngine_iff : isReplicatedTableEngine name = true ↔ IsReplicatedTable name := by
  rw [isReplicatedTableEngine, Bool.and_eq_true, Text.startsWith_iff, Text.endsWith_iff,
    IsReplicatedTable]

/-- Such a name is longer than the names of database engines. -/
theorem IsReplicatedTable.ne (h : IsReplicatedTable name) :
    name ≠ "Atomic" ∧ name ≠ "Replicated" ∧ name ≠ [] := by
  refine ⟨?_, ?_, ?_⟩ <;> rintro rfl
  · exact absurd h.1 (by decide)
  · exact absurd h.2 (by decide)
  · exact absurd h.1 (by decide)

namespace Engine

theorem of_atomic : Engine.of kind "Atomic" arguments = .ok .plain := if_pos rfl

theorem of_replicated : Engine.of kind "Replicated" arguments =
    (quotedArguments arguments >>= fun
      | [path, shard, replica] => .ok (.replicated ⟨path, some shard, replica⟩)
      | found => .error (.replicatedArity "Replicated" .exactlyThree found.length)) := by
  have hne : ¬ ("Replicated" : Text) = "Atomic" := by decide
  rw [Engine.of, if_neg hne, if_pos rfl]
  rfl

theorem of_replicatedTable (h : IsReplicatedTable name) : Engine.of .table name arguments =
    (quotedArguments arguments >>= fun
      | path :: replica :: _ => .ok (.replicated ⟨path, none, replica⟩)
      | found => .error (.replicatedArity name .atLeastTwo found.length)) := by
  obtain ⟨hatomic, hreplicated, -⟩ := h.ne
  rw [Engine.of, if_neg hatomic, if_neg hreplicated,
    if_pos ⟨rfl, isReplicatedTableEngine_iff.2 h⟩]
  rfl

theorem of_other (hatomic : name ≠ "Atomic") (hreplicated : name ≠ "Replicated")
    (htable : ¬ (kind = .table ∧ IsReplicatedTable name)) : Engine.of kind name arguments =
      if kind = .table ∧ name ≠ [] then .ok .plain else .error (.unsupportedEngine kind name) := by
  have htable' : ¬ (kind = .table ∧ isReplicatedTableEngine name = true) := by
    rwa [isReplicatedTableEngine_iff]
  rw [Engine.of, if_neg hatomic, if_neg hreplicated, if_neg htable']

end Engine

theorem Declares.of_eq {engine : Engine} (h : Declares kind name arguments engine) :
    Engine.of kind name arguments = .ok engine := by
  cases h with
  | atomic => exact Engine.of_atomic
  | replicated hargs => rw [Engine.of_replicated, quotedArguments_eq_ok_iff.2 hargs]; rfl
  | replicatedTable hkind hname hargs =>
    rw [hkind, Engine.of_replicatedTable hname, quotedArguments_eq_ok_iff.2 hargs]
    rfl
  | otherTable hkind hne hatomic hreplicated htable =>
    rw [Engine.of_other hatomic hreplicated fun h => htable h.2, if_pos ⟨hkind, hne⟩]

theorem EngineFault.of_eq {e : ParseError} (h : EngineFault kind name arguments e) :
    Engine.of kind name arguments = .error e := by
  cases h with
  | openQuote hname hopen =>
    have hread := quotedArguments_of_open hopen
    rcases hname with rfl | ⟨rfl, hname⟩
    · rw [Engine.of_replicated, hread]; rfl
    · rw [Engine.of_replicatedTable hname, hread]; rfl
  | @notThree values hname hargs hlen =>
    subst hname
    rw [Engine.of_replicated, quotedArguments_eq_ok_iff.2 hargs]
    rcases values with _ | ⟨_, _ | ⟨_, _ | ⟨_, _ | _⟩⟩⟩
    case cons.cons.cons.nil => exact absurd rfl hlen
    all_goals rfl
  | @lessThanTwo values hkind hname hargs hlen =>
    subst hkind
    rw [Engine.of_replicatedTable hname, quotedArguments_eq_ok_iff.2 hargs]
    rcases values with _ | ⟨_, _ | ⟨_, more⟩⟩
    case cons.cons => exact absurd hlen (by simp)
    all_goals rfl
  | unsupported hatomic hreplicated hkind =>
    rw [Engine.of_other hatomic hreplicated fun h => h.2.ne.2.2 (hkind h.1),
      if_neg fun h => h.2 (hkind h.1)]

theorem declares_or_fault (kind : ObjectKind) (name arguments : Text) :
    (∃ engine, Declares kind name arguments engine) ∨ ∃ e, EngineFault kind name arguments e := by
  by_cases hatomic : name = "Atomic"
  · subst hatomic
    exact .inl ⟨_, .atomic⟩
  by_cases hreplicated : name = "Replicated"
  · subst hreplicated
    by_cases hopen : ∃ values, FirstArguments arguments values
    · obtain ⟨values, hvalues⟩ := hopen
      rcases values with _ | ⟨path, _ | ⟨shard, _ | ⟨replica, _ | _⟩⟩⟩
      case cons.cons.cons.nil => exact .inl ⟨_, .replicated hvalues⟩
      all_goals exact .inr ⟨_, .notThree rfl hvalues (by simp)⟩
    · exact .inr ⟨_, .openQuote (.inl rfl) (not_exists.1 hopen)⟩
  by_cases htable : kind = .table ∧ IsReplicatedTable name
  · by_cases hopen : ∃ values, FirstArguments arguments values
    · obtain ⟨values, hvalues⟩ := hopen
      rcases values with _ | ⟨path, _ | ⟨replica, more⟩⟩
      case cons.cons => exact .inl ⟨_, .replicatedTable htable.1 htable.2 hvalues⟩
      all_goals exact .inr ⟨_, .lessThanTwo htable.1 htable.2 hvalues (by simp)⟩
    · exact .inr ⟨_, .openQuote (.inr htable) (not_exists.1 hopen)⟩
  by_cases hnamed : kind = .table ∧ name ≠ []
  · exact .inl ⟨_, .otherTable hnamed.1 hnamed.2 hatomic hreplicated fun h => htable ⟨hnamed.1, h⟩⟩
  · exact .inr ⟨_, .unsupported hatomic hreplicated fun h =>
      Classical.not_not.1 fun hne => hnamed ⟨h, hne⟩⟩

/-! ## Declarations -/

/-- The name in a declaration and what follows it: the name is what stands behind white space, up to
the first character that no name holds. -/
def Named (declaration name arguments : Text) : Prop :=
  ∃ blanks, declaration = blanks ++ (name ++ arguments) ∧ (∀ c ∈ blanks, Text.isBlank c = true) ∧
    (∀ c ∈ (name ++ arguments).head?, Text.isBlank c = false) ∧
    (∀ c ∈ name, isNameChar c = true) ∧ ∀ c ∈ arguments.head?, isNameChar c = false

theorem named_iff {declaration : Text} : Named declaration name arguments ↔
    declaration.trimStart.takeWhile isNameChar = name ∧
      declaration.trimStart.dropWhile isNameChar = arguments := by
  rw [Text.takeWhile_dropWhile_iff]
  constructor
  · rintro ⟨blanks, hd, hblanks, hhead, hname, harguments⟩
    exact ⟨(Text.takeWhile_dropWhile_iff.2 ⟨hd, hblanks, hhead⟩).2, hname, harguments⟩
  · rintro ⟨hd, hname, harguments⟩
    obtain ⟨hsplit, hblanks, hhead⟩ := Text.takeWhile_dropWhile_iff.1
      ⟨(rfl : declaration.takeWhile Text.isBlank = _), hd⟩
    exact ⟨_, hsplit, hblanks, hhead, hname, harguments⟩

theorem exists_named (declaration : Text) : ∃ name arguments, Named declaration name arguments :=
  ⟨_, _, named_iff.2 ⟨rfl, rfl⟩⟩

/-- A declaration is read as the engine that its name and arguments stand for. -/
theorem Named.read_eq {declaration : Text} (h : Named declaration name arguments)
    (kind : ObjectKind) : Engine.read kind declaration =
      (Engine.of kind name arguments).map fun engine => (name, engine) := by
  obtain ⟨hname, harguments⟩ := named_iff.1 h
  simp only [Engine.read, hname, harguments]
  cases Engine.of kind name arguments <;> rfl

end CatalogAdmin.Catalog
