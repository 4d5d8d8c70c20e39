import CatalogAdmin.Proofs.Catalog.Declaration
import CatalogAdmin.Proofs.Text.Cut
import CatalogAdmin.Proofs.Text.Quoted
import CatalogAdmin.Server.Query

/-!
# Argument lists

An argument list holds literals, other characters, and lists in parentheses, to any depth. `Argument` is
the tree of such a list and `Argument.texts` its text. The reader of argument lists goes through the text
with a depth and no tree, and passes into a literal and out of it again; where a literal ends is up to its
quotes and backslashes alone.

Results:
1. `literals_readBack`: a literal is read back with any text behind it. What is read off any text ends at
   the first quote that closes, and where no quote does nothing is read.
2. `argumentsFrom_texts`: the reader takes the literals of a tree and goes on behind it, as deep as before.
3. `quotedArguments_tree`: the arguments of a list are the literals of its tree, from left to right.
-/

namespace CatalogAdmin.Catalog

open Text

/-! ## Literals -/

/-- A literal is a text with its backslashes doubled and then a backslash put before each quote, between
quotes. It is read back with any text behind it, which is left unread. What is read off any text is what
stands before the first quote that closes, without the backslashes that escape; where no quote closes, the
literal is not terminated. -/
theorem literals_readBack :
    (∀ s rest : Text, ∃ behind, Quoted.write quote s ++ rest = quote :: behind ∧
      Quoted.read quote behind = some (s, rest)) ∧
    (∀ s : Text, Quoted.write quote s = quoteLiteral s ∧
      quoteLiteral s = quote ::
        (Quoted.replaceEach quote ['\\', quote] (Quoted.replaceEach '\\' ['\\', '\\'] s) ++ [quote])) ∧
    ∀ t : Text,
      (∀ value left, Quoted.read quote t = some (value, left) ↔
        ∃ inside, Quoted.Closed quote t inside left ∧ value = Quoted.withoutEscapes [] inside) ∧
      (Quoted.read quote t = none ↔
        ∀ inside left, t = inside ++ quote :: left → Quoted.EndsInEscape inside) ∧
      ∀ depth, argumentsFrom depth (quote :: t) =
        match Quoted.read quote t with
        | none => .error .unterminatedQuote
        | some (value, left) => (argumentsFrom depth left).map (value :: ·) := by
  have hquote : quote ≠ '\\' := by decide
  refine ⟨fun s rest => ?_, fun s => ⟨rfl, ?_⟩, fun t => ⟨fun value left => ?_, ?_, fun depth => ?_⟩⟩
  · exact ⟨_, by simp [Quoted.write], Quoted.read_write quote s rest hquote⟩
  · rw [← Quoted.escape_eq_replaceEach hquote]
    rfl
  · exact Quoted.read_eq_some_iff_closed hquote
  · exact Quoted.read_eq_none_iff hquote
  · cases hread : Quoted.read quote t with
    | none => exact argumentsFrom_open depth hread
    | some found => exact argumentsFrom_quote depth hread

/-! ## Lists -/

/-- A part of an argument list: a literal, a character that means nothing outside literals, or a list in
parentheses. -/
inductive Argument
  | literal (value : Text)
  | other (c : Char) (plain : c ≠ quote ∧ c ≠ '(' ∧ c ≠ ')')
  | list (parts : List Argument)

namespace Argument

mutual

/-- A part as it is written. -/
def text : Argument → Text
  | .literal value => Quoted.write quote value
  | .other c _ => [c]
  | .list parts => '(' :: (texts parts ++ [')'])

/-- Parts as they are written, one behind the other. -/
def texts : List Argument → Text
  | [] => []
  | part :: more => part.text ++ texts more

end

mutual

/-- The literals in a part, those in nested lists included. -/
def literals : Argument → List Text
  | .literal value => [value]
  | .other .. => []
  | .list parts => allLiterals parts

/-- The literals in some parts, from left to right. -/
def allLiterals : List Argument → List Text
  | [] => []
  | part :: more => part.literals ++ allLiterals more

end

mutual

/-- A part with another text in each literal. -/
def relabel (f : Text → Text) : Argument → Argument
  | .literal value => .literal (f value)
  | .other c plain => .other c plain
  | .list parts => .list (relabelAll f parts)

/-- Parts with another text in each literal. -/
def relabelAll (f : Text → Text) : List Argument → List Argument
  | [] => []
  | part :: more => part.relabel f :: relabelAll f more

end

mutual

theorem literals_relabel (f : Text → Text) (part : Argument) :
    (part.relabel f).literals = part.literals.map f := by
  cases part with
  | literal value => rfl
  | other c plain => rfl
  | list parts => simpa only [relabel, literals] using allLiterals_relabelAll f parts

theorem allLiterals_relabelAll (f : Text → Text) (parts : List Argument) :
    allLiterals (relabelAll f parts) = (allLiterals parts).map f := by
  cases parts with
  | nil => rfl
  | cons part more =>
    simp only [relabelAll, allLiterals, List.map_append, literals_relabel f part,
      allLiterals_relabelAll f more]

end

end Argument

open Argument

mutual

/-- The reader takes the literals of a part and goes on behind it, as deep as before. -/
theorem argumentsFrom_text (depth : Nat) (part : Argument) (rest : Text) :
    argumentsFrom depth (part.text ++ rest) =
      (argumentsFrom depth rest).map (part.literals ++ ·) := by
  cases part with
  | literal value =>
    rw [text, argumentsFrom_write]
    rfl
  | other c plain =>
    obtain ⟨hquote, hopen, hclose⟩ := plain
    rw [text, List.singleton_append, argumentsFrom_other depth rest hopen hclose hquote]
    cases argumentsFrom depth rest <;> rfl
  | list parts =>
    have hwritten : (list parts).text ++ rest = '(' :: (texts parts ++ ')' :: rest) := by
      simp [text]
    rw [hwritten, argumentsFrom, argumentsFrom_texts (depth + 1) parts, argumentsFrom_outward]
    rfl

/-- The reader takes the literals of some parts and goes on behind them, as deep as before. -/
theorem argumentsFrom_texts (depth : Nat) (parts : List Argument) (rest : Text) :
    argumentsFrom depth (texts parts ++ rest) =
      (argumentsFrom depth rest).map (allLiterals parts ++ ·) := by
  cases parts with
  | nil =>
    rw [texts, allLiterals, List.nil_append]
    cases argumentsFrom depth rest <;> rfl
  | cons part more =>
    rw [texts, List.append_assoc, argumentsFrom_text depth part, argumentsFrom_texts depth more,
      allLiterals]
    cases argumentsFrom depth rest with
    | error e => rfl
    | ok values => simp [Except.map]

end

/-- The arguments of a list are the literals of its tree from left to right, whatever stands before the
list and behind it. Other texts in the literals, with parentheses and quotes or without, give other
arguments and no other tree. -/
theorem quotedArguments_tree (before behind : Text) (parts : List Argument) (h : '(' ∉ before) :
    quotedArguments (before ++ '(' :: (texts parts ++ ')' :: behind)) = .ok (allLiterals parts) ∧
    ∀ f : Text → Text,
      quotedArguments (before ++ '(' :: (texts (relabelAll f parts) ++ ')' :: behind)) =
        .ok ((allLiterals parts).map f) := by
  have hlist : ∀ parts : List Argument,
      quotedArguments (before ++ '(' :: (texts parts ++ ')' :: behind)) =
        .ok (allLiterals parts) := by
    intro parts
    have hcut : Text.cut (before ++ '(' :: (texts parts ++ ')' :: behind)) "(" =
        some (before, texts parts ++ ')' :: behind) := cut_singleton_eq_some_iff.2 ⟨rfl, h⟩
    rw [quotedArguments, hcut]
    simp only [argumentsFrom_texts, argumentsFrom_close, Except.map, List.append_nil]
  exact ⟨hlist parts, fun f => by rw [hlist, allLiterals_relabelAll]⟩

/-- A list within a list, with parentheses, a quote and a backslash in its literals. -/
def nestedParts : List Argument :=
  [.literal "/a'b)", .other ',' (by decide),
    .list [.literal "(c", .list [.literal "d\\"], .other ' ' (by decide)], .literal []]

theorem quotedArguments_tree_nested :
    '(' ∉ ("MergeTree" : Text) ∧
    quotedArguments "MergeTree('/a\\'b)',('(c'('d\\\\') )'') SETTINGS x = 'ignored'" =
      .ok ["/a'b)", "(c", "d\\", []] := by
  have hopen : '(' ∉ ("MergeTree" : Text) := by decide
  have htext : ("MergeTree('/a\\'b)',('(c'('d\\\\') )'') SETTINGS x = 'ignored'" : Text) =
      "MergeTree" ++ '(' :: (texts nestedParts ++ ')' :: " SETTINGS x = 'ignored'") := by
    decide
  rw [htext]
  exact ⟨hopen, (quotedArguments_tree "MergeTree" " SETTINGS x = 'ignored'" nestedParts hopen).1⟩

end CatalogAdmin.Catalog
