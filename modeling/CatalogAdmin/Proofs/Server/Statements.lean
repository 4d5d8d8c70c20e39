import CatalogAdmin.Coordination
import CatalogAdmin.Proofs.Session.Runs
import CatalogAdmin.Proofs.Text.Cut
import CatalogAdmin.Proofs.Text.Quoted
import CatalogAdmin.Rehearsal
import CatalogAdmin.Server.Http

/-!
# Statements and the names in them

A server reads a statement token by token (`tokens?`): words, quoted names and values, in which a backslash
takes the next character as it is, and other characters one by one. The tokens a statement is written in
(`statementOf`) are the tokens that are read, so nothing that stands between quotes can end them early.

An `Instruction` is a statement that carries names of objects. Its tokens are keywords and these names, each
as it was before it was quoted (`statement_eq`).

Results:
1. `tokens?_statementOf`: tokens that are written are read back.
2. `requestBody_statementOf`: a request takes nothing off a statement that is written in tokens.
3. `names_stay_quoted`: what the server is sent for an instruction, and what it reads there.
-/

namespace CatalogAdmin

/-! ## Tokens -/

/-- A token of a statement. Names and values are without their quotes. -/
inductive Token
  | word (text : Text)
  | identifier (name : Text)
  | literal (value : Text)
  | symbol (c : Char)
deriving DecidableEq, Repr

namespace Token

/-- Whether a character may stand in a word. -/
def isWordChar (c : Char) : Bool := c.isAlphanum || c = '_'

/-- The token that begins with a character, and what follows it. There is none where quotes are not
closed. -/
def read? (c : Char) (rest : Text) : Option (Token × Text) :=
  if c = '\x60' then (Text.Quoted.read c rest).map fun (name, left) => (.identifier name, left)
  else if c = '\'' then (Text.Quoted.read c rest).map fun (value, left) => (.literal value, left)
  else if isWordChar c then
    some (.word (c :: rest.takeWhile isWordChar), rest.dropWhile isWordChar)
  else some (.symbol c, rest)

theorem length_of_read? {c : Char} {rest left : Text} {token : Token}
    (h : read? c rest = some (token, left)) : left.length ≤ rest.length := by
  unfold read? at h
  split at h
  · obtain ⟨⟨name, left⟩, hread, he⟩ := Option.map_eq_some_iff.1 h
    cases he
    exact Nat.le_of_lt (Text.Quoted.length_of_read hread)
  · split at h
    · obtain ⟨⟨value, left⟩, hread, he⟩ := Option.map_eq_some_iff.1 h
      cases he
      exact Nat.le_of_lt (Text.Quoted.length_of_read hread)
    · split at h
      · cases h
        exact (List.dropWhile_sublist _).length_le
      · cases h
        exact Nat.le_refl _

end Token

/-- The tokens of a statement, white space between them skipped. -/
def tokens? : Text → Option (List Token)
  | [] => some []
  | c :: rest =>
    if Text.isBlank c then tokens? rest
    else match h : Token.read? c rest with
      | none => none
      | some (token, left) =>
        have := Token.length_of_read? h
        (tokens? left).map (token :: ·)
termination_by t => t.length

theorem tokens?_blank {c : Char} (h : Text.isBlank c = true) (rest : Text) :
    tokens? (c :: rest) = tokens? rest := by
  rw [tokens?, if_pos h]

theorem tokens?_token {c : Char} {rest left : Text} {token : Token} (hc : Text.isBlank c = false)
    (h : Token.read? c rest = some (token, left)) :
    tokens? (c :: rest) = (tokens? left).map (token :: ·) := by
  rw [tokens?, if_neg (by simp [hc])]
  split
  · next hnone => rw [h] at hnone; cases hnone
  · next hsome => rw [h] at hsome; cases hsome; rfl

/-! ## Written tokens -/

namespace Token

/-- A token as it is written. -/
def text : Token → Text
  | word text => text
  | identifier name => quoteIdentifier name
  | literal value => quoteLiteral value
  | symbol c => [c]

/-- A word is one, and a symbol is nothing that another token may begin with. -/
def Proper : Token → Prop
  | word text => text ≠ [] ∧ ∀ c ∈ text, isWordChar c = true
  | identifier _ | literal _ => True
  | symbol c => Text.isBlank c = false ∧ isWordChar c = false ∧ c ≠ '\x60' ∧ c ≠ '\''

/-- Whether a token is a symbol. -/
def isSymbol : Token → Bool
  | symbol _ => true
  | _ => false

/-- What follows is no part of a token: a word is not continued. -/
def Ends (rest : Text) : Token → Prop
  | word _ => ∀ c ∈ rest.head?, isWordChar c = false
  | _ => True

theorem toNat_of_isWordChar {c : Char} (h : isWordChar c = true) : 48 ≤ c.toNat ∧ c.toNat ≤ 122 := by
  have hrange : ∀ {low high : UInt32}, (decide (low ≤ c.val) && decide (c.val ≤ high)) = true →
      low.toNat ≤ c.toNat ∧ c.toNat ≤ high.toNat := fun hc =>
    have hbounds := Bool.and_eq_true_iff.1 hc
    ⟨UInt32.le_iff_toNat_le.1 (of_decide_eq_true hbounds.1),
      UInt32.le_iff_toNat_le.1 (of_decide_eq_true hbounds.2)⟩
  rcases Bool.or_eq_true_iff.1 h with halphanum | hunderscore
  · rcases Bool.or_eq_true_iff.1 halphanum with halpha | hdigit
    · rcases Bool.or_eq_true_iff.1 halpha with hupper | hlower
      · obtain ⟨hlow, hhigh⟩ := of_decide_eq_true hupper
        exact ⟨Nat.le_trans (by decide) (UInt32.le_iff_toNat_le.1 hlow),
          Nat.le_trans (UInt32.le_iff_toNat_le.1 hhigh) (by decide)⟩
      · obtain ⟨hlow, hhigh⟩ := hrange hlower
        exact ⟨Nat.le_trans (by decide) hlow, Nat.le_trans hhigh (by decide)⟩
    · obtain ⟨hlow, hhigh⟩ := hrange hdigit
      exact ⟨Nat.le_trans (by decide) hlow, Nat.le_trans hhigh (by decide)⟩
  · rw [of_decide_eq_true hunderscore]
    decide

theorem isBlank_of_isWordChar {c : Char} (h : isWordChar c = true) : Text.isBlank c = false := by
  obtain ⟨hlow, hhigh⟩ := toNat_of_isWordChar h
  simp [Text.isBlank, Text.blankRanges]
  omega

theorem ne_quotes_of_isWordChar {c : Char} (h : isWordChar c = true) : c ≠ '\x60' ∧ c ≠ '\'' := by
  constructor
  · rintro rfl
    exact absurd h (by decide)
  · rintro rfl
    exact absurd h (by decide)

theorem read?_word {c : Char} {more rest : Text} (h : ∀ d ∈ c :: more, isWordChar d = true)
    (he : ∀ d ∈ rest.head?, isWordChar d = false) :
    read? c (more ++ rest) = some (.word (c :: more), rest) := by
  obtain ⟨hc, hmore⟩ := List.forall_mem_cons.1 h
  obtain ⟨hname, hvalue⟩ := ne_quotes_of_isWordChar hc
  obtain ⟨htake, hdrop⟩ := Text.takeWhile_dropWhile_iff.2 ⟨rfl, hmore, he⟩
  rw [read?, if_neg hname, if_neg hvalue, if_pos hc, htake, hdrop]

end Token

/-- A token is read where it is written, whatever follows it. -/
theorem tokens?_text {token : Token} {rest : Text} (h : token.Proper) (he : token.Ends rest) :
    tokens? (token.text ++ rest) = (tokens? rest).map (token :: ·) := by
  cases token with
  | word text =>
    obtain ⟨hne, hchars⟩ := h
    obtain ⟨c, more, rfl⟩ := List.exists_cons_of_ne_nil hne
    exact tokens?_token (Token.isBlank_of_isWordChar (hchars c (List.mem_cons_self ..)))
      (Token.read?_word hchars he)
  | identifier name =>
    have hread := Text.Quoted.read_write '\x60' name rest (by decide)
    show tokens? ('\x60' :: (Text.Quoted.escape '\x60' name ++ ['\x60'] ++ rest)) = _
    refine tokens?_token (by decide) ?_
    simp [Token.read?, hread]
  | literal value =>
    have hread := Text.Quoted.read_write '\'' value rest (by decide)
    show tokens? ('\'' :: (Text.Quoted.escape '\'' value ++ ['\''] ++ rest)) = _
    refine tokens?_token (by decide) ?_
    simp [Token.read?, hread]
  | symbol c =>
    obtain ⟨hblank, hword, hname, hvalue⟩ := h
    refine tokens?_token hblank ?_
    rw [Token.read?, if_neg hname, if_neg hvalue, if_neg (by simp [hword])]
    rfl

/-- What stands between two tokens: a blank, if neither is a symbol. -/
def Token.gap (token next : Token) : Text := if token.isSymbol || next.isSymbol then [] else [' ']

/-- The statement that tokens are written in one after the other. -/
def statementOf : List Token → Text
  | [] => []
  | [token] => token.text
  | token :: next :: more => token.text ++ (token.gap next ++ statementOf (next :: more))

theorem exists_statementOf (token : Token) (more : List Token) :
    ∃ rest, statementOf (token :: more) = token.text ++ rest := by
  cases more with
  | nil => exact ⟨[], (List.append_nil _).symm⟩
  | cons next more => exact ⟨_, rfl⟩

theorem tokens?_gap (token next : Token) (rest : Text) :
    tokens? (token.gap next ++ rest) = tokens? rest := by
  unfold Token.gap
  split
  · rfl
  · exact tokens?_blank (by decide) rest

theorem Token.ends_gap (token : Token) {next : Token} (h : next.Proper) (rest : Text) :
    token.Ends (token.gap next ++ (next.text ++ rest)) := by
  cases token with
  | identifier | literal | symbol => trivial
  | word text =>
    intro c hc
    cases next with
    | symbol d =>
      cases hc
      exact h.2.1
    | word | identifier | literal =>
      cases hc
      decide

/-- Tokens that are written one after the other are read one after the other. -/
theorem tokens?_statementOf {tokens : List Token} (h : ∀ token ∈ tokens, token.Proper) :
    tokens? (statementOf tokens) = some tokens := by
  induction tokens with
  | nil => rw [statementOf, tokens?]
  | cons token tokens ih =>
    obtain ⟨htoken, htokens⟩ := List.forall_mem_cons.1 h
    cases tokens with
    | nil =>
      have hends : token.Ends [] := by cases token <;> simp [Token.Ends]
      rw [statementOf, ← List.append_nil token.text, tokens?_text htoken hends, tokens?]
      rfl
    | cons next more =>
      obtain ⟨rest, hrest⟩ := exists_statementOf next more
      have hends := token.ends_gap (htokens next (List.mem_cons_self ..)) rest
      rw [← hrest] at hends
      rw [statementOf, tokens?_text htoken hends, tokens?_gap, ih htokens]
      rfl

/-! ## What a request takes off -/

namespace Token

theorem text_ne_nil {token : Token} (h : token.Proper) : token.text ≠ [] := by
  cases token with
  | word text => exact h.1
  | identifier | literal | symbol => exact List.cons_ne_nil _ _

theorem isBlank_of_head? {token : Token} (h : token.Proper) {c : Char} (hc : c ∈ token.text.head?) :
    Text.isBlank c = false := by
  cases token with
  | word text => exact isBlank_of_isWordChar (h.2 c (List.mem_of_mem_head? hc))
  | identifier | literal =>
    cases hc
    decide
  | symbol d =>
    cases hc
    exact h.1

/-- At its end a token is neither blank nor, unless it is one itself, a semicolon. -/
theorem getLast?_text {token : Token} (h : token.Proper) (hs : token ≠ .symbol ';') {c : Char}
    (hc : c ∈ token.text.getLast?) : Text.isBlank c = false ∧ c ≠ ';' := by
  cases token with
  | word text =>
    have hword := h.2 c (List.mem_of_getLast? hc)
    refine ⟨isBlank_of_isWordChar hword, ?_⟩
    rintro rfl
    exact absurd hword (by decide)
  | identifier | literal =>
    simp [text, quoteIdentifier, quoteLiteral, Text.Quoted.write, List.getLast?_cons] at hc
    subst hc
    decide
  | symbol d =>
    cases hc
    refine ⟨h.1, ?_⟩
    rintro rfl
    exact hs rfl

end Token

theorem statementOf_ne_nil {tokens : List Token} (h : ∀ token ∈ tokens, token.Proper) (hne : tokens ≠ []) :
    statementOf tokens ≠ [] := by
  obtain ⟨token, more, rfl⟩ := List.exists_cons_of_ne_nil hne
  obtain ⟨rest, hrest⟩ := exists_statementOf token more
  rw [hrest]
  exact List.append_ne_nil_of_left_ne_nil (Token.text_ne_nil (h token (List.mem_cons_self ..))) rest

theorem isBlank_of_head?_statementOf {tokens : List Token} (h : ∀ token ∈ tokens, token.Proper) {c : Char}
    (hc : c ∈ (statementOf tokens).head?) : Text.isBlank c = false := by
  cases tokens with
  | nil => cases hc
  | cons token more =>
    have htoken := h token (List.mem_cons_self ..)
    obtain ⟨rest, hrest⟩ := exists_statementOf token more
    rw [hrest, List.head?_append,
      Option.or_of_isSome (List.isSome_head?.2 (Token.text_ne_nil htoken))] at hc
    exact Token.isBlank_of_head? htoken hc

theorem getLast?_statementOf {tokens : List Token} (h : ∀ token ∈ tokens, token.Proper)
    (hs : .symbol ';' ∉ tokens) {c : Char} (hc : c ∈ (statementOf tokens).getLast?) :
    Text.isBlank c = false ∧ c ≠ ';' := by
  induction tokens with
  | nil => cases hc
  | cons token tokens ih =>
    obtain ⟨htoken, htokens⟩ := List.forall_mem_cons.1 h
    obtain ⟨hsymbol, hsymbols⟩ := not_or.1 (mt List.mem_cons.2 hs)
    cases tokens with
    | nil => exact Token.getLast?_text htoken (Ne.symm hsymbol) hc
    | cons next more =>
      have hne := statementOf_ne_nil htokens (List.cons_ne_nil next more)
      rw [statementOf, ← List.append_assoc, List.getLast?_append,
        Option.or_of_isSome (List.getLast?_isSome.2 hne)] at hc
      exact ih htokens hsymbols hc

theorem Text.trim_eq_self {t : Text} (hfirst : ∀ c ∈ t.head?, isBlank c = false)
    (hlast : ∀ c ∈ t.getLast?, isBlank c = false) : t.trim = t := by
  have hstart : t.trimStart = t := by
    cases t with
    | nil => rfl
    | cons c more => exact List.dropWhile_cons_of_neg (by simp [hfirst c rfl])
  rw [trim, hstart, trimEnd, dropEnd_eq_self hlast]

/-- Of a statement that does not end in a semicolon, a request is the whole. -/
theorem requestBody_statementOf {tokens : List Token} {sent : Sent} (h : ∀ token ∈ tokens, token.Proper)
    (hs : .symbol ';' ∉ tokens) (hsql : sent.query.sql = statementOf tokens)
    (hpurpose : sent.purpose = .execute) : requestBody sent = statementOf tokens := by
  have htrim : (statementOf tokens).trim = statementOf tokens :=
    Text.trim_eq_self (fun _ => isBlank_of_head?_statementOf h) fun _ hc => (getLast?_statementOf h hs hc).1
  have hsemicolons : Text.dropEnd (· = ';') (statementOf tokens) = statementOf tokens :=
    Text.dropEnd_eq_self fun _ hc => decide_eq_false (getLast?_statementOf h hs hc).2
  rw [requestBody, Query.text, hsql, htrim, hsemicolons, hpurpose]

/-! ## Instructions -/

open Session (after)

/-- Paths that differ in nothing but the slashes at their ends. -/
def SameNode (path other : Text) : Prop :=
  ∃ m n, path ++ List.replicate m '/' = other ++ List.replicate n '/'

theorem nodePath_append_slashes (path : Text) (n : Nat) :
    nodePath (path ++ List.replicate n '/') = nodePath path :=
  Text.dropEnd_append fun _ hc => decide_eq_true (List.eq_of_mem_replicate hc)

theorem exists_nodePath (path : Text) : ∃ n, path = nodePath path ++ List.replicate n '/' := by
  obtain ⟨slashes, hpath, hslashes, -⟩ := Text.exists_dropEnd (· = '/') path
  have hrepeat : slashes = List.replicate slashes.length '/' :=
    List.eq_replicate_of_mem fun c hc => of_decide_eq_true (hslashes c hc)
  exact ⟨slashes.length, hrepeat ▸ hpath⟩

/-- No slash is left at the end of a path. -/
theorem getLast?_nodePath (path : Text) : (nodePath path).getLast? ≠ some '/' := by
  obtain ⟨slashes, -, -, hend⟩ := Text.exists_dropEnd (· = '/') path
  intro hslash
  exact absurd (hend '/' hslash) (by decide)

theorem nodePath_eq_iff {path other : Text} : nodePath path = nodePath other ↔ SameNode path other := by
  constructor
  · intro h
    obtain ⟨m, hm⟩ := exists_nodePath path
    obtain ⟨n, hn⟩ := exists_nodePath other
    refine ⟨n, m, ?_⟩
    rw [hm, hn, h, List.append_assoc, List.append_assoc, List.replicate_append_replicate,
      List.replicate_append_replicate, Nat.add_comm]
  · rintro ⟨m, n, h⟩
    rw [← nodePath_append_slashes path m, h, nodePath_append_slashes]

/-- A table's name as the tokens it is written in. -/
def TableName.tokens (table : TableName) : List Token :=
  [.identifier table.database, .symbol '.', .identifier table.table]

theorem TableName.eq_of_tokens_append {a b : TableName} {more more' : List Token}
    (h : a.tokens ++ more = b.tokens ++ more') : a = b ∧ more = more' := by
  simp only [tokens, List.cons_append, List.nil_append, List.cons.injEq, true_and,
    Token.identifier.injEq] at h
  obtain ⟨hdatabase, htable, hmore⟩ := h
  cases a
  cases b
  exact ⟨congr (congrArg TableName.mk hdatabase) htable, hmore⟩

/-- What the server is told to do with an object, by the names of the object. -/
inductive Instruction
  | detach (table : TableName) (permanently : Bool)
  | attach (table : TableName)
  | dropReplica (name root : Text)
deriving DecidableEq, Repr

namespace Instruction

/-- The statement for an instruction. -/
def statement : Instruction → Text
  | detach table permanently => detachStatement table permanently
  | attach table => attachStatement table
  | dropReplica name root => dropReplicaStatement name (nodePath root)

/-- How long the server may take for an instruction. -/
def timeout (limits : Timeouts) : Instruction → Duration
  | detach .. => limits.detachTable
  | attach _ => limits.attachTable
  | dropReplica .. => limits.system

/-- The query that gives an instruction. -/
def query (site : Site) (i : Instruction) : Query :=
  { sql := i.statement, timeout := some (i.timeout site.settings.server.timeouts) }

/-- The operation that gives an instruction. -/
def run (site : Site) : Instruction → Session Unit
  | detach table permanently => Session.detach site table permanently
  | attach table => Session.attach site table
  | dropReplica name root => Session.dropReplica site { root, name }

/-- The keywords of an instruction and the names among them. -/
def tokens : Instruction → List Token
  | detach table permanently =>
    .word "DETACH" :: .word "TABLE" ::
      (table.tokens ++ if permanently then [.word "PERMANENTLY"] else [])
  | attach table => .word "ATTACH" :: .word "TABLE" :: table.tokens
  | dropReplica name root =>
    [.word "SYSTEM", .word "DROP", .word "REPLICA", .literal name, .word "FROM", .word "ZKPATH",
      .literal (nodePath root)]

/-- The first keyword of an instruction. -/
def verb : Instruction → Text
  | detach .. => "DETACH"
  | attach _ => "ATTACH"
  | dropReplica .. => "SYSTEM"

/-- Instructions for the same, the slashes at the end of a path aside. -/
inductive Same : Instruction → Instruction → Prop
  | refl (i : Instruction) : Same i i
  | dropReplica (name : Text) {root other : Text} :
      SameNode root other → Same (.dropReplica name root) (.dropReplica name other)

theorem statement_eq (i : Instruction) : i.statement = statementOf i.tokens := by
  cases i with
  | detach table permanently =>
    have hstart : ("DETACH TABLE " : Text) = "DETACH" ++ ' ' :: ("TABLE" ++ [' ']) := by decide
    have hend : (" PERMANENTLY" : Text) = ' ' :: "PERMANENTLY" := by decide
    rw [statement]
    unfold detachStatement
    rw [hstart, TableName.quoted]
    cases permanently with
    | false => simp [tokens, TableName.tokens, statementOf, Token.gap, Token.isSymbol, Token.text]
    | true => simp [hend, tokens, TableName.tokens, statementOf, Token.gap, Token.isSymbol, Token.text]
  | attach table =>
    have hstart : ("ATTACH TABLE " : Text) = "ATTACH" ++ ' ' :: ("TABLE" ++ [' ']) := by decide
    rw [statement]
    unfold attachStatement
    rw [hstart, TableName.quoted]
    simp [tokens, TableName.tokens, statementOf, Token.gap, Token.isSymbol, Token.text]
  | dropReplica name root =>
    have hstart : ("SYSTEM DROP REPLICA " : Text) =
        "SYSTEM" ++ ' ' :: ("DROP" ++ ' ' :: ("REPLICA" ++ [' '])) := by decide
    have hmiddle : (" FROM ZKPATH " : Text) = ' ' :: ("FROM" ++ ' ' :: ("ZKPATH" ++ [' '])) := by decide
    rw [statement]
    unfold dropReplicaStatement
    rw [hstart, hmiddle]
    simp [tokens, statementOf, Token.gap, Token.isSymbol, Token.text]

theorem proper_tokens (i : Instruction) : ∀ token ∈ i.tokens, token.Proper := by
  cases i with
  | detach table permanently =>
    cases permanently
    all_goals
      simp [tokens, TableName.tokens, Token.Proper]
      decide
  | attach table =>
    simp [tokens, TableName.tokens, Token.Proper]
    decide
  | dropReplica name root =>
    simp [tokens, Token.Proper]
    decide

theorem semicolon_not_mem_tokens (i : Instruction) : .symbol ';' ∉ i.tokens := by
  cases i with
  | detach table permanently => cases permanently <;> simp [tokens, TableName.tokens]
  | attach | dropReplica => simp [tokens, TableName.tokens]

theorem head?_tokens (i : Instruction) : i.tokens.head? = some (.word i.verb) := by
  cases i <;> rfl

/-- The first token tells which instruction it is, the others what it is about. -/
theorem same_of_tokens_eq {i j : Instruction} (h : i.tokens = j.tokens) : i.Same j := by
  have hdetach : ("DETACH" : Text) ≠ "ATTACH" := by decide
  have hdrop : ("SYSTEM" : Text) ≠ "DETACH" ∧ ("SYSTEM" : Text) ≠ "ATTACH" := by decide
  have hverb : i.verb = j.verb := by
    have hfirst := congrArg List.head? h
    rw [head?_tokens, head?_tokens] at hfirst
    exact Token.word.inj (Option.some.inj hfirst)
  cases i with
  | detach table permanently =>
    cases j with
    | detach other again =>
      obtain ⟨rfl, hflags⟩ := TableName.eq_of_tokens_append (List.cons.inj (List.cons.inj h).2).2
      have hlength := congrArg List.length hflags
      have hflag : permanently = again := by
        cases permanently <;> cases again <;> first | rfl | cases hlength
      rw [hflag]
      exact .refl _
    | attach => exact absurd hverb hdetach
    | dropReplica => exact absurd hverb hdrop.1.symm
  | attach table =>
    cases j with
    | attach other =>
      have hnames : table.tokens ++ [] = other.tokens ++ [] :=
        congrArg (· ++ []) (List.cons.inj (List.cons.inj h).2).2
      obtain ⟨rfl, -⟩ := TableName.eq_of_tokens_append hnames
      exact .refl _
    | detach => exact absurd hverb hdetach.symm
    | dropReplica => exact absurd hverb hdrop.2.symm
  | dropReplica name root =>
    cases j with
    | dropReplica name' root' =>
      simp only [tokens, List.cons.injEq, true_and, and_true, Token.literal.injEq] at h
      obtain ⟨rfl, hnode⟩ := h
      exact .dropReplica name (nodePath_eq_iff.1 hnode)
    | detach => exact absurd hverb hdrop.1
    | attach => exact absurd hverb hdrop.2

theorem tokens_eq_iff {i j : Instruction} : i.tokens = j.tokens ↔ i.Same j := by
  refine ⟨same_of_tokens_eq, ?_⟩
  rintro (_ | ⟨name, hnode⟩)
  · rfl
  · rw [tokens, tokens, nodePath_eq_iff.2 hnode]

/-- Giving an instruction sends its query, and no other. -/
theorem sent_run (i : Instruction) (site : Site) (w : World) :
    (after (i.run site) w).sent = w.sent ++ [⟨.execute, i.query site⟩] := by
  cases i with
  | detach | attach | dropReplica => exact Session.sent_asTask_execute _ _ _ w

theorem tokens?_statement (i : Instruction) : tokens? i.statement = some i.tokens := by
  rw [statement_eq, tokens?_statementOf i.proper_tokens]

theorem requestBody_query (i : Instruction) (site : Site) :
    requestBody ⟨.execute, i.query site⟩ = i.statement := by
  have hsql : (i.query site).sql = statementOf i.tokens := i.statement_eq
  rw [statement_eq, requestBody_statementOf i.proper_tokens i.semicolon_not_mem_tokens hsql rfl]

end Instruction

theorem ServerSettings.body_of_request? {s : ServerSettings} {sent : Sent} {url : Url}
    {request : HttpRequest} (h : s.request? sent = some (url, request)) :
    request.body = requestBody sent := by
  unfold request? at h
  obtain ⟨address, -, h⟩ := Option.bind_eq_some_iff.1 h
  obtain ⟨-, -, h⟩ := Option.bind_eq_some_iff.1 h
  cases h
  rfl

/-- No name leads out of its quotes: in the statement of an instruction the server reads the keywords, and
among them the names as they are. So equal statements are of the same instruction, and giving one sends one
query, which reaches the server as the whole statement. -/
theorem names_stay_quoted :
    (∀ i : Instruction, tokens? i.statement = some i.tokens) ∧
    (∀ i j : Instruction, i.statement = j.statement ↔ i.Same j) ∧
    ∀ (i : Instruction) (site : Site) (w : World),
      (after (i.run site) w).sent = w.sent ++ [⟨.execute, i.query site⟩] ∧
      requestBody ⟨.execute, i.query site⟩ = i.statement ∧
      ∀ (s : ServerSettings) (url : Url) (request : HttpRequest),
        s.request? ⟨.execute, i.query site⟩ = some (url, request) → request.body = i.statement := by
  refine ⟨Instruction.tokens?_statement, fun i j => ?_, fun i site w => ?_⟩
  · refine ⟨fun h => Instruction.tokens_eq_iff.1 ?_, fun h => ?_⟩
    · have hread := i.tokens?_statement
      rw [h, j.tokens?_statement] at hread
      exact (Option.some.inj hread).symm
    · rw [i.statement_eq, j.statement_eq, Instruction.tokens_eq_iff.2 h]
  · have hbody := i.requestBody_query site
    exact ⟨i.sent_run site w, hbody, fun s url request h => (s.body_of_request? h).trans hbody⟩

/-- A table with a name that would close its quotes and detach another table. The server, at its usual
address, is sent one statement, about this table. -/
theorem names_stay_quoted_closing :
    let i : Instruction := .detach ⟨"db\x60.\x60t; DETACH TABLE \x60other", "it's\\"⟩ false
    let site : Site := ⟨{}, ServerSettings.server {} fun _ _ => .response 200 [], Rehearsal.remover [] []⟩
    tokens? i.statement = some [.word "DETACH", .word "TABLE",
        .identifier "db\x60.\x60t; DETACH TABLE \x60other", .symbol '.', .identifier "it's\\"] ∧
      (after (i.run site) { tree := { entries := [] } }).sent = [⟨.execute, i.query site⟩] ∧
      ∃ url request, site.settings.server.request? ⟨.execute, i.query site⟩ = some (url, request) ∧
        request.body = i.statement := by
  intro i site
  obtain ⟨hread, -, hrun⟩ := names_stay_quoted
  obtain ⟨hsent, -, hrequest⟩ := hrun i site { tree := { entries := [] } }
  have hsome : (site.settings.server.request? ⟨.execute, i.query site⟩).isSome = true := by
    decide +kernel
  obtain ⟨⟨url, request⟩, hfound⟩ := Option.isSome_iff_exists.1 hsome
  exact ⟨hread i, hsent, url, request, hfound, hrequest _ _ _ hfound⟩

end CatalogAdmin
