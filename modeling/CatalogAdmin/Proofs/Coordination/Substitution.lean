import CatalogAdmin.Proofs.Coordination.Expansion

/-!
# Expansion as one substitution

A template is cut at each opening brace and at the next closing brace behind it: into literal texts, in
which no opening brace stands, and names, in which no closing brace stands. A `Template` is a text cut in
this way, and every text is that of exactly one (`Template.exists_unique`). Expansion puts values in the
places of the names, once and from left to right, and changes nothing else.

Results:
1. `expandFrom_written`: placeholders whose names have values are done with before what follows is looked
   at.
2. `Template.expand_text_iff`: when a template expands and to what, and which of its faults is reported.
3. `expand_append`: what follows a template that expands makes no difference to it.
-/

namespace CatalogAdmin

/-! ## Texts cut at their placeholders -/

/-- A text cut at its placeholders. Names may hold opening braces and literal texts closing ones. -/
structure Template where
  /-- The names of the placeholders, each behind the literal text before it. -/
  placeholders : List (Text × Text)
  /-- The literal text behind the last placeholder. -/
  last : Text
  /-- What follows an opening brace that no brace closes. -/
  unclosed : Option Text
  literal_plain : ∀ p ∈ placeholders, '{' ∉ p.1
  name_plain : ∀ p ∈ placeholders, '}' ∉ p.2
  last_plain : '{' ∉ last
  unclosed_plain : ∀ rest ∈ unclosed, '}' ∉ rest

namespace Template

/-- Placeholders as they are written, each behind its literal text. -/
def written (placeholders : List (Text × Text)) : Text :=
  placeholders.flatMap fun p => p.1 ++ braced p.2

/-- What stands behind the placeholders. -/
def ending (last : Text) : Option Text → Text
  | none => last
  | some rest => last ++ '{' :: rest

/-- The text that was cut. -/
def text (t : Template) : Text := written t.placeholders ++ ending t.last t.unclosed

/-- The names that values are looked up for, in order. -/
def names (t : Template) : List Text := t.placeholders.map Prod.snd

/-- Placeholders with values in the places of the names. -/
def valued (lookup : Text → Option Text) (placeholders : List (Text × Text)) : Text :=
  placeholders.flatMap fun p => p.1 ++ (lookup p.2).getD []

/-- The literal texts and the values of the names, in order. -/
def filled (lookup : Text → Option Text) (t : Template) : Text :=
  valued lookup t.placeholders ++ t.last

/-- Every name has a value. -/
def Known (lookup : Text → Option Text) (names : List Text) : Prop :=
  ∀ name ∈ names, (lookup name).isSome = true

/-- The leftmost fault of a template: a name without a value, or the brace that is not closed. -/
inductive LeftmostFault (lookup : Text → Option Text) (t : Template) : CoordinationError → Prop
  | unknown {before after : List Text} {name : Text} : t.names = before ++ name :: after →
      Known lookup before → lookup name = none → LeftmostFault lookup t (.unknown name t.text)
  | unterminated {rest : Text} : t.unclosed = some rest → Known lookup t.names →
      LeftmostFault lookup t (.unterminated t.text)

/-! ### Every text is cut in one way -/

theorem written_cons (literal name : Text) (more : List (Text × Text)) (e : Text) :
    written ((literal, name) :: more) ++ e = literal ++ '{' :: (name ++ '}' :: (written more ++ e)) := by
  simp [written, braced]

theorem ending_inj {last last' : Text} {unclosed unclosed' : Option Text} (h : '{' ∉ last)
    (h' : '{' ∉ last') (he : ending last unclosed = ending last' unclosed') :
    last = last' ∧ unclosed = unclosed' := by
  have absent : ∀ {a b rest : Text}, '{' ∉ a → a = b ++ '{' :: rest → False := fun ha hab =>
    ha (hab ▸ by simp)
  cases unclosed with
  | none =>
    cases unclosed' with
    | none => exact ⟨he, rfl⟩
    | some rest' => exact (absent h he).elim
  | some rest =>
    cases unclosed' with
    | none => exact (absent h' he.symm).elim
    | some rest' =>
      obtain ⟨hlast, hrest⟩ := Text.eq_of_first h h' he
      exact ⟨hlast, congrArg some hrest⟩

/-- Behind the last placeholder there is none. -/
theorem ending_ne_written {last : Text} {unclosed : Option Text} (hlast : '{' ∉ last)
    (hunclosed : ∀ rest ∈ unclosed, '}' ∉ rest) {literal name more : Text} (h : '{' ∉ literal) :
    ending last unclosed ≠ literal ++ '{' :: (name ++ '}' :: more) := by
  intro he
  cases unclosed with
  | none =>
    have htext : last = literal ++ '{' :: (name ++ '}' :: more) := he
    exact hlast (htext ▸ by simp)
  | some rest =>
    obtain ⟨-, hrest⟩ := Text.eq_of_first hlast h he
    exact hunclosed rest rfl (hrest ▸ by simp)

theorem text_injective : Function.Injective text := by
  rintro ⟨ps, last, unclosed, hl, hn, hlast, hun⟩ ⟨ps', last', unclosed', hl', hn', hlast', hun'⟩ h
  have key : ps = ps' ∧ last = last' ∧ unclosed = unclosed' := by
    simp only [text] at h
    induction ps generalizing ps' with
    | nil =>
      cases ps' with
      | nil => exact ⟨rfl, ending_inj hlast hlast' h⟩
      | cons p' more' =>
        rw [written_cons] at h
        exact absurd h (ending_ne_written hlast hun (hl' p' (List.mem_cons_self ..)))
    | cons p more ih =>
      obtain ⟨hp, hmore⟩ := List.forall_mem_cons.1 hl
      obtain ⟨hpn, hmoren⟩ := List.forall_mem_cons.1 hn
      cases ps' with
      | nil =>
        rw [written_cons] at h
        exact absurd h.symm (ending_ne_written hlast' hun' hp)
      | cons p' more' =>
        obtain ⟨hp', hmore'⟩ := List.forall_mem_cons.1 hl'
        obtain ⟨hpn', hmoren'⟩ := List.forall_mem_cons.1 hn'
        rw [written_cons, written_cons] at h
        obtain ⟨hliteral, h⟩ := Text.eq_of_first hp hp' h
        obtain ⟨hname, h⟩ := Text.eq_of_first hpn hpn' h
        obtain ⟨hps, hrest⟩ := ih hmore hmoren more' hmore' hmoren' h
        exact ⟨by rw [hps, Prod.ext hliteral hname], hrest⟩
  obtain ⟨rfl, rfl, rfl⟩ := key
  rfl

/-- A template behind one more placeholder. -/
def behind (t : Template) (literal name : Text) (hl : '{' ∉ literal) (hn : '}' ∉ name) : Template where
  placeholders := (literal, name) :: t.placeholders
  last := t.last
  unclosed := t.unclosed
  literal_plain := List.forall_mem_cons.2 ⟨hl, t.literal_plain⟩
  name_plain := List.forall_mem_cons.2 ⟨hn, t.name_plain⟩
  last_plain := t.last_plain
  unclosed_plain := t.unclosed_plain

theorem text_behind (t : Template) {literal name : Text} (hl : '{' ∉ literal) (hn : '}' ∉ name) :
    (t.behind literal name hl hn).text = literal ++ '{' :: (name ++ '}' :: t.text) :=
  written_cons literal name t.placeholders _

/-- A template without placeholders. -/
def plain (last : Text) (unclosed : Option Text) (hlast : '{' ∉ last)
    (hunclosed : ∀ rest ∈ unclosed, '}' ∉ rest) : Template :=
  ⟨[], last, unclosed, nofun, nofun, hlast, hunclosed⟩

theorem exists_text (s : Text) : ∃ t : Template, t.text = s := by
  -- the rest behind a placeholder is shorter
  induction hlen : s.length using Nat.strongRecOn generalizing s with
  | ind n ih =>
    cases hopen : s.cut ['{'] with
    | none => exact ⟨plain s none (Text.cut_singleton_eq_none_iff.1 hopen) nofun, rfl⟩
    | some found =>
      obtain ⟨literal, after⟩ := found
      obtain ⟨rfl, hliteral⟩ := Text.cut_singleton_eq_some_iff.1 hopen
      cases hclose : after.cut ['}'] with
      | none =>
        have hafter := Text.cut_singleton_eq_none_iff.1 hclose
        have hunclosed : ∀ rest ∈ some after, '}' ∉ rest := fun rest hrest =>
          Option.mem_some.1 hrest ▸ hafter
        exact ⟨plain literal (some after) hliteral hunclosed, rfl⟩
      | some found =>
        obtain ⟨name, rest⟩ := found
        obtain ⟨rfl, hname⟩ := Text.cut_singleton_eq_some_iff.1 hclose
        have hshorter : rest.length < n := by
          rw [← hlen]
          simp only [List.length_append, List.length_cons]
          omega
        obtain ⟨t, rfl⟩ := ih _ hshorter rest rfl
        exact ⟨t.behind literal name hliteral hname, t.text_behind hliteral hname⟩

/-- Every text is cut in exactly one way. -/
theorem exists_unique (s : Text) : ∃ t : Template, t.text = s ∧ ∀ u : Template, u.text = s → u = t := by
  obtain ⟨t, rfl⟩ := exists_text s
  exact ⟨t, rfl, fun _ hu => text_injective hu⟩

end Template

/-! ## Expansion step by step -/

section Steps

open Template (Known written valued)

variable (lookup : Text → Option Text)

/-- Up to the brace that closes it, a name is only read. -/
theorem expandFrom_name {name : Text} (h : '}' ∉ name) (read rest : Text) :
    expandFrom lookup (some read) (name ++ '}' :: rest) =
      expandFrom lookup (some (read ++ name)) ('}' :: rest) := by
  induction name generalizing read with
  | nil => simp
  | cons c name ih =>
    obtain ⟨hc, hname⟩ := not_or.1 (mt List.mem_cons.2 h)
    rw [List.cons_append, expandFrom.eq_6 _ _ _ _ (Ne.symm hc), ih hname]
    simp

theorem expandFrom_unclosed {rest : Text} (h : '}' ∉ rest) (read : Text) :
    expandFrom lookup (some read) rest = .error .unterminated := by
  induction rest generalizing read with
  | nil => rfl
  | cons c rest ih =>
    obtain ⟨hc, hrest⟩ := not_or.1 (mt List.mem_cons.2 h)
    rw [expandFrom.eq_6 _ _ _ _ (Ne.symm hc), ih hrest]

variable {lookup} {placeholders : List (Text × Text)}

theorem expandFrom_of_unknown {literal name : Text} (hl : '{' ∉ literal) (hn : '}' ∉ name)
    (h : lookup name = none) (rest : Text) :
    expandFrom lookup none (literal ++ '{' :: (name ++ '}' :: rest)) = .error (.unknown name) := by
  rw [expandFrom_literal lookup hl, expandFrom, expandFrom_name lookup hn, List.nil_append, expandFrom, h]
  rfl

theorem expandFrom_of_known {literal name value : Text} (hl : '{' ∉ literal) (hn : '}' ∉ name)
    (h : lookup name = some value) (rest : Text) :
    expandFrom lookup none (literal ++ '{' :: (name ++ '}' :: rest)) =
      (expandFrom lookup none rest).map (literal ++ value ++ ·) := by
  rw [expandFrom_literal lookup hl, expandFrom, expandFrom_name lookup hn, List.nil_append, expandFrom, h]
  cases expandFrom lookup none rest <;> simp [Except.map]

/-- Placeholders whose names have values are done with before what follows is looked at. -/
theorem expandFrom_written (hl : ∀ p ∈ placeholders, '{' ∉ p.1) (hn : ∀ p ∈ placeholders, '}' ∉ p.2)
    (h : Known lookup (placeholders.map Prod.snd)) (rest : Text) :
    expandFrom lookup none (written placeholders ++ rest) =
      (expandFrom lookup none rest).map (valued lookup placeholders ++ ·) := by
  induction placeholders with
  | nil => cases hrest : expandFrom lookup none rest <;> simp [hrest, written, valued, Except.map]
  | cons p more ih =>
    obtain ⟨hp, hmore⟩ := List.forall_mem_cons.1 hl
    obtain ⟨hpn, hmoren⟩ := List.forall_mem_cons.1 hn
    obtain ⟨hknown, hknowns⟩ := List.forall_mem_cons.1 h
    obtain ⟨value, hvalue⟩ := Option.isSome_iff_exists.1 hknown
    rw [Template.written_cons, expandFrom_of_known hp hpn hvalue, ih hmore hmoren hknowns]
    cases expandFrom lookup none rest <;> simp [Except.map, valued, hvalue]

end Steps

/-! ## What a template expands to -/

namespace Template

variable {lookup : Text → Option Text} {t : Template}

/-- Where all names have values, expansion gets to what stands behind the placeholders. -/
theorem expandFrom_text_of_known (h : Known lookup t.names) :
    expandFrom lookup none t.text =
      (expandFrom lookup none (ending t.last t.unclosed)).map (valued lookup t.placeholders ++ ·) :=
  expandFrom_written t.literal_plain t.name_plain h _

theorem expand_text_of_known (h : t.unclosed = none ∧ Known lookup t.names) :
    expand lookup t.text = .ok (t.filled lookup) := by
  have hending : expandFrom lookup none (ending t.last t.unclosed) = .ok t.last := by
    rw [h.1, ending, expandFrom_of_not_mem lookup t.last_plain]
  rw [expand, expandFrom_text_of_known h.2, hending]
  rfl

theorem LeftmostFault.expand_text {e : CoordinationError} (h : LeftmostFault lookup t e) :
    expand lookup t.text = .error e := by
  cases h with
  | unknown hnames hknown hnone =>
    obtain ⟨done, more, hplaceholders, hdone, hmore⟩ := List.map_eq_append_iff.1 hnames
    obtain ⟨⟨literal, name⟩, rest, rfl, rfl, -⟩ := List.map_eq_cons_iff.1 hmore
    have hmem : (literal, name) ∈ t.placeholders := by simp [hplaceholders]
    -- the placeholders before this one are done with, then its name is looked up in vain
    have hfrom : expandFrom lookup none t.text = .error (.unknown name) := by
      have htext : t.text = written done ++ (literal ++ '{' :: (name ++ '}' ::
          (written rest ++ ending t.last t.unclosed))) := by
        rw [text, hplaceholders, ← written_cons]
        simp [written]
      have hdoneMem : ∀ p ∈ done, p ∈ t.placeholders := fun p hp => by simp [hplaceholders, hp]
      rw [htext, expandFrom_written (fun p hp => t.literal_plain p (hdoneMem p hp))
        (fun p hp => t.name_plain p (hdoneMem p hp)) (hdone ▸ hknown),
        expandFrom_of_unknown (t.literal_plain _ hmem) (t.name_plain _ hmem) hnone]
      rfl
    rw [expand, hfrom]
    rfl
  | @unterminated rest hunclosed hknown =>
    have hending : expandFrom lookup none (ending t.last t.unclosed) = .error .unterminated := by
      rw [hunclosed, ending, expandFrom_literal lookup t.last_plain, expandFrom,
        expandFrom_unclosed lookup (t.unclosed_plain rest hunclosed)]
      rfl
    rw [expand, expandFrom_text_of_known hknown, hending]
    rfl

theorem known_or_fault (lookup : Text → Option Text) (t : Template) :
    (t.unclosed = none ∧ Known lookup t.names) ∨ ∃ e, LeftmostFault lookup t e := by
  cases hfind : t.names.find? fun name => (lookup name).isNone with
  | some name =>
    obtain ⟨hnone, before, after, hnames, hbefore⟩ := List.find?_eq_some_iff_append.1 hfind
    refine .inr ⟨_, .unknown hnames (fun n hn => ?_) (Option.isNone_iff_eq_none.1 hnone)⟩
    simpa using hbefore n hn
  | none =>
    have hknown : Known lookup t.names := fun n hn => by
      simpa [Option.isSome_iff_ne_none] using List.find?_eq_none.1 hfind n hn
    cases hunclosed : t.unclosed with
    | none => exact .inl ⟨rfl, hknown⟩
    | some rest => exact .inr ⟨_, .unterminated hunclosed hknown⟩

/-- When a template expands and to what, and which of its faults is reported otherwise. -/
theorem expand_text_iff (lookup : Text → Option Text) (t : Template) :
    (∀ expanded, expand lookup t.text = .ok expanded ↔
      (t.unclosed = none ∧ Known lookup t.names) ∧ expanded = t.filled lookup) ∧
    ∀ e, expand lookup t.text = .error e ↔ LeftmostFault lookup t e := by
  refine Catalog.except_iff ?_ (fun _ => LeftmostFault.expand_text) ?_
  · rintro _ ⟨hknown, rfl⟩
    exact expand_text_of_known hknown
  · rcases known_or_fault lookup t with hknown | hfault
    · exact .inl ⟨_, hknown, rfl⟩
    · exact .inr hfault

end Template

/-! ## What follows a template -/

/-- A template that expands is done with before what follows it is looked at. -/
theorem expandFrom_append {lookup : Text → Option Text} {start expanded : Text}
    (h : expand lookup start = .ok expanded) (rest : Text) :
    expandFrom lookup none (start ++ rest) = (expandFrom lookup none rest).map (expanded ++ ·) := by
  obtain ⟨t, rfl⟩ := Template.exists_text start
  obtain ⟨⟨hclosed, hknown⟩, rfl⟩ := ((t.expand_text_iff lookup).1 expanded).1 h
  have htext : t.text ++ rest = Template.written t.placeholders ++ (t.last ++ rest) := by
    rw [Template.text, hclosed, Template.ending, List.append_assoc]
  rw [htext, expandFrom_written t.literal_plain t.name_plain hknown,
    expandFrom_literal lookup t.last_plain]
  cases expandFrom lookup none rest <;> simp [Except.map, Template.filled]

theorem expand_append {lookup : Text → Option Text} {start expanded : Text}
    (h : expand lookup start = .ok expanded) (rest whole : Text) :
    expand lookup (start ++ rest) = .ok whole ↔
      ∃ more, expand lookup rest = .ok more ∧ whole = expanded ++ more := by
  have hfrom := expandFrom_append h rest
  unfold expand
  rw [hfrom]
  cases expandFrom lookup none rest <;> simp [Except.map, eq_comm]

/-! ## Expansion -/

/-- Every template is cut in one way at its placeholders. It expands if and only if no brace is left open
and every name has a value, and then to its literal texts and those values in order; otherwise its leftmost
fault is reported. What follows a template that expands is expanded by itself. A template without
placeholders stands for itself whatever the values are, and the server is not asked for any. -/
theorem expand_substitutes :
    (∀ template : Text, ∃ t : Template, t.text = template ∧ ∀ u : Template, u.text = template → u = t) ∧
    (∀ (lookup : Text → Option Text) (t : Template),
      (∀ expanded, expand lookup t.text = .ok expanded ↔
        (t.unclosed = none ∧ Template.Known lookup t.names) ∧ expanded = t.filled lookup) ∧
      ∀ e, expand lookup t.text = .error e ↔ t.LeftmostFault lookup e) ∧
    (∀ (lookup : Text → Option Text) (start expanded : Text), expand lookup start = .ok expanded →
      ∀ rest whole, expand lookup (start ++ rest) = .ok whole ↔
        ∃ more, expand lookup rest = .ok more ∧ whole = expanded ++ more) ∧
    ∀ template : Text, '{' ∉ template → (∀ lookup, expand lookup template = .ok template) ∧
      ∀ (site : Site) (table : TableName) (uuid : Uuid) (w : World),
        Session.expandFor site template table uuid w = .ok template w := by
  refine ⟨Template.exists_unique, fun lookup t => t.expand_text_iff lookup,
    fun _ _ _ h rest whole => expand_append h rest whole, ?_⟩
  intro template hplain
  refine ⟨fun lookup => expand_of_not_mem lookup hplain, fun site table uuid w => ?_⟩
  rw [Session.expandFor, if_neg hplain]
  rfl

/-- A value for a name with a brace in it. The value looks like a placeholder itself. -/
def nestedLookup (name : Text) : Option Text :=
  if name = "sh\x7bard" then some "\x7breplica\x7d" else none

/-- A closing brace before any opening one and a value that looks like a placeholder are left as they
are, and so is the template behind them. -/
theorem expand_substitutes_nested :
    expand nestedLookup "\x7d/\x7bsh\x7bard\x7d" = .ok "\x7d/\x7breplica\x7d" ∧
    (∀ rest whole, expand nestedLookup ("\x7d/\x7bsh\x7bard\x7d" ++ rest) = .ok whole ↔
      ∃ more, expand nestedLookup rest = .ok more ∧ whole = "\x7d/\x7breplica\x7d" ++ more) ∧
    ∀ w, Session.expandFor shardedSite "/t\x7d" ⟨"db", "t"⟩ (Uuid.constant 0) w = .ok "/t\x7d" w := by
  obtain ⟨-, -, happend, hplain⟩ := expand_substitutes
  have hexpand : expand nestedLookup "\x7d/\x7bsh\x7bard\x7d" = .ok "\x7d/\x7breplica\x7d" := by decide
  exact ⟨hexpand, happend _ _ _ hexpand, (hplain "/t\x7d" (by decide)).2 _ _ _⟩

end CatalogAdmin
