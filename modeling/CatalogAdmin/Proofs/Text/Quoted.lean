import CatalogAdmin.Text.Quoted

/-!
# What quoted texts stand for

`Spells` says which text stands for which between two quotes. Reading takes the first such text that a
quote closes (`Spells.read`, `exists_of_read`). Writing is one pass that puts in the backslashes; two replacements, one
after the other, give the same (`escape_eq_replaceEach`).

Which quote closes can also be seen from the runs of backslashes alone, without reading from the start:
it is the first one that stands behind an even run (`read_eq_some_iff_closed`, `read_eq_none_iff`).
-/

namespace CatalogAdmin.Text.Quoted

/-- What stands between two quotes, and the text it stands for: a backslash takes the next character
as it is, whichever that is, and no quote stands without one. -/
inductive Spells (quote : Char) : Text → Text → Prop
  | nil : Spells quote [] []
  | escaped {c : Char} {inside value : Text} :
      Spells quote inside value → Spells quote ('\\' :: c :: inside) (c :: value)
  | plain {c : Char} {inside value : Text} :
      c ≠ '\\' → c ≠ quote → Spells quote inside value → Spells quote (c :: inside) (c :: value)

variable {quote : Char} {inside value left t : Text}

theorem Spells.read (hq : quote ≠ '\\') (h : Spells quote inside value) (left : Text) :
    Quoted.read quote (inside ++ quote :: left) = some (value, left) := by
  induction h with
  | nil => simp [Quoted.read, hq]
  | escaped _ ih => simp [Quoted.read, ih]
  | plain hb hc _ ih => simp [Quoted.read, hb, hc, ih]

theorem exists_of_read (h : Quoted.read quote t = some (value, left)) :
    ∃ inside, t = inside ++ quote :: left ∧ Spells quote inside value := by
  fun_induction Quoted.read quote t generalizing value left with
  | case1 => cases h
  | case2 => cases h
  | case3 c rest ih =>
    obtain ⟨⟨v, l⟩, hr, he⟩ := Option.map_eq_some_iff.1 h
    cases he
    obtain ⟨inside, rfl, hs⟩ := ih hr
    exact ⟨_, rfl, hs.escaped⟩
  | case4 rest =>
    cases h
    exact ⟨[], rfl, .nil⟩
  | case5 c rest hend hescape hc ih =>
    obtain ⟨⟨v, l⟩, hr, he⟩ := Option.map_eq_some_iff.1 h
    cases he
    obtain ⟨inside, rfl, hs⟩ := ih hr
    have hb : c ≠ '\\' := by
      rintro rfl
      -- a backslash would have taken the character behind it
      cases hi : inside ++ quote :: left with
      | nil => simp at hi
      | cons d more => exact hescape d more rfl hi
    exact ⟨c :: inside, rfl, hs.plain hb hc⟩

/-- A text with another one in the place of each `c`. -/
def replaceEach (c : Char) (other t : Text) : Text := t.flatMap fun d => if d = c then other else [d]

/-- Escaping is two replacements. The backslashes come first: behind the quotes, they would be those of
the quotes as well. -/
theorem escape_eq_replaceEach (hq : quote ≠ '\\') (t : Text) :
    escape quote t = replaceEach quote ['\\', quote] (replaceEach '\\' ['\\', '\\'] t) := by
  induction t with
  | nil => rfl
  | cons c t ih =>
    have hcons : ∀ (c : Char) (other : Text) (d : Char) (t : Text), replaceEach c other (d :: t) =
        (if d = c then other else [d]) ++ replaceEach c other t := fun _ _ _ _ => List.flatMap_cons
    rw [escape, ih, hcons]
    by_cases hc : c = '\\'
    · simp [hc, hcons, Ne.symm hq]
    · by_cases hd : c = quote
      · simp [hd, hq, hcons]
      · simp [hc, hd, hcons]

/-! ## Runs of backslashes -/

/-- A text that ends in an odd run of backslashes. The last one takes the character that follows. -/
def EndsInEscape (t : Text) : Prop := (t.reverse.takeWhile (· = '\\')).length % 2 = 1

instance (t : Text) : Decidable (EndsInEscape t) := inferInstanceAs (Decidable (_ = _))

/-- A text without the backslashes that take the next character, each told by what stands before it. -/
def withoutEscapes (before : Text) : Text → Text
  | [] => []
  | c :: rest =>
    if c = '\\' ∧ ¬ EndsInEscape before then withoutEscapes (before ++ [c]) rest
    else c :: withoutEscapes (before ++ [c]) rest

/-- The first quote in `t` that no backslash takes stands between `inside` and `left`. -/
structure Closed (quote : Char) (t inside left : Text) : Prop where
  split : t = inside ++ quote :: left
  closes : ¬ EndsInEscape inside
  first : ∀ earlier later, inside = earlier ++ quote :: later → EndsInEscape earlier

variable {before : Text} {c : Char}

theorem not_endsInEscape_nil : ¬ EndsInEscape [] := by decide

theorem endsInEscape_backslash : EndsInEscape (before ++ ['\\']) ↔ ¬ EndsInEscape before := by
  simp only [EndsInEscape, List.reverse_append, List.reverse_singleton, List.singleton_append,
    List.takeWhile_cons, decide_true, if_true, List.length_cons]
  omega

theorem not_endsInEscape_of_ne (before : Text) (hc : c ≠ '\\') :
    ¬ EndsInEscape (before ++ [c]) := by
  simp [EndsInEscape, hc]

/-- Behind a backslash that takes the next character, and that character, no escape is open. -/
theorem not_endsInEscape_taken (h : ¬ EndsInEscape before) :
    ¬ EndsInEscape (before ++ ['\\'] ++ [c]) := by
  by_cases hc : c = '\\'
  · rw [hc, endsInEscape_backslash]
    exact fun hne => hne (endsInEscape_backslash.2 h)
  · exact not_endsInEscape_of_ne _ hc

theorem withoutEscapes_taken (h : ¬ EndsInEscape before) (rest : Text) :
    withoutEscapes before ('\\' :: c :: rest) =
      c :: withoutEscapes (before ++ ['\\'] ++ [c]) rest := by
  have hopen : EndsInEscape (before ++ ['\\']) := endsInEscape_backslash.2 h
  rw [withoutEscapes, if_pos ⟨rfl, h⟩, withoutEscapes, if_neg fun hc => hc.2 hopen]

theorem withoutEscapes_plain (hc : c ≠ '\\') (rest : Text) :
    withoutEscapes before (c :: rest) = c :: withoutEscapes (before ++ [c]) rest := by
  rw [withoutEscapes, if_neg fun h => hc h.1]

/-- What spells a value leaves no escape open and holds no quote that would close it. The value is what
is left without the backslashes that escape. -/
theorem Spells.closed (hq : quote ≠ '\\') (h : Spells quote inside value)
    (hbefore : ¬ EndsInEscape before) :
    ¬ EndsInEscape (before ++ inside) ∧
      (∀ earlier later, inside = earlier ++ quote :: later → EndsInEscape (before ++ earlier)) ∧
      value = withoutEscapes before inside := by
  -- what stands before grows by what is passed, and never ends in an escape there
  induction h generalizing before with
  | nil => exact ⟨by rwa [List.append_nil], fun earlier later h => by simp at h, rfl⟩
  | @escaped c inside value _ ih =>
    obtain ⟨hend, hfirst, hvalue⟩ := ih (not_endsInEscape_taken (c := c) hbefore)
    refine ⟨by simpa using hend, ?_, ?_⟩
    · intro earlier later hsplit
      rcases earlier with _ | ⟨d, _ | ⟨d', earlier⟩⟩
      · exact absurd (List.cons.inj hsplit).1.symm hq
      · obtain ⟨rfl, -⟩ := List.cons.inj hsplit
        exact endsInEscape_backslash.2 hbefore
      · simp only [List.cons_append, List.cons.injEq] at hsplit
        obtain ⟨rfl, rfl, hsplit⟩ := hsplit
        simpa using hfirst earlier later hsplit
    · rw [withoutEscapes_taken hbefore, hvalue]
  | @plain c inside value hb hc _ ih =>
    obtain ⟨hend, hfirst, hvalue⟩ := ih (not_endsInEscape_of_ne before hb)
    refine ⟨by simpa using hend, ?_, ?_⟩
    · intro earlier later hsplit
      rcases earlier with _ | ⟨d, earlier⟩
      · exact absurd (List.cons.inj hsplit).1 hc
      · simp only [List.cons_append, List.cons.injEq] at hsplit
        obtain ⟨rfl, hsplit⟩ := hsplit
        simpa using hfirst earlier later hsplit
    · rw [withoutEscapes_plain hb, hvalue]

/-- Where nothing is read, a backslash takes every quote. -/
theorem endsInEscape_of_read_eq_none (hq : quote ≠ '\\') (h : Quoted.read quote t = none)
    (hbefore : ¬ EndsInEscape before) (ht : t = inside ++ quote :: left) :
    EndsInEscape (before ++ inside) := by
  fun_induction Quoted.read quote t generalizing before inside with
  | case1 => simp at ht
  | case2 =>
    rcases inside with _ | ⟨d, inside⟩
    · exact absurd (List.cons.inj ht).1.symm hq
    · simp at ht
  | case3 c rest ih =>
    have hrest := Option.map_eq_none_iff.1 h
    rcases inside with _ | ⟨d, _ | ⟨d', inside⟩⟩
    · exact absurd (List.cons.inj ht).1.symm hq
    · obtain ⟨rfl, -⟩ := List.cons.inj ht
      exact endsInEscape_backslash.2 hbefore
    · simp only [List.cons_append, List.cons.injEq] at ht
      obtain ⟨rfl, rfl, ht⟩ := ht
      simpa using ih hrest (not_endsInEscape_taken (c := c) hbefore) ht
  | case4 => cases h
  | case5 c rest hend hescape hc ih =>
    have hrest := Option.map_eq_none_iff.1 h
    have hb : c ≠ '\\' := by
      rintro rfl
      cases rest with
      | nil => exact hend rfl rfl
      | cons d more => exact hescape d more rfl rfl
    rcases inside with _ | ⟨d, inside⟩
    · exact absurd (List.cons.inj ht).1 hc
    · simp only [List.cons_append, List.cons.injEq] at ht
      obtain ⟨rfl, ht⟩ := ht
      simpa using ih hrest (not_endsInEscape_of_ne before hb) ht

theorem closed_of_read (hq : quote ≠ '\\') (h : Quoted.read quote t = some (value, left)) :
    ∃ inside, Closed quote t inside left ∧ value = withoutEscapes [] inside := by
  obtain ⟨inside, rfl, hs⟩ := exists_of_read h
  obtain ⟨hcloses, hfirst, hvalue⟩ := hs.closed hq not_endsInEscape_nil
  exact ⟨inside, ⟨rfl, hcloses, hfirst⟩, hvalue⟩

/-- There is one quote that closes. -/
theorem Closed.unique {inside' left' : Text} (h : Closed quote t inside left)
    (h' : Closed quote t inside' left') : inside = inside' ∧ left = left' := by
  have hsplit := h.split.symm.trans h'.split
  rcases List.append_eq_append_iff.1 hsplit with ⟨more, hinside', hleft⟩ | ⟨more, hinside, hleft⟩
  · rcases more with _ | ⟨d, more⟩
    · exact ⟨by simpa using hinside'.symm, by simpa using hleft⟩
    · obtain ⟨rfl, -⟩ := List.cons.inj hleft
      exact absurd (h'.first inside more hinside') h.closes
  · rcases more with _ | ⟨d, more⟩
    · exact ⟨by simpa using hinside, by simpa using hleft.symm⟩
    · obtain ⟨rfl, -⟩ := List.cons.inj hleft
      exact absurd (h.first inside' more hinside) h'.closes

/-- Nothing is read exactly where a backslash takes every quote. -/
theorem read_eq_none_iff (hq : quote ≠ '\\') : Quoted.read quote t = none ↔
    ∀ inside left, t = inside ++ quote :: left → EndsInEscape inside := by
  constructor
  · intro h inside left ht
    exact endsInEscape_of_read_eq_none hq h not_endsInEscape_nil ht
  · intro h
    cases hread : Quoted.read quote t with
    | none => rfl
    | some found =>
      obtain ⟨inside, hclosed, -⟩ := closed_of_read hq hread
      exact absurd (h inside _ hclosed.split) hclosed.closes

/-- What is read ends at the first quote that closes, and is what stands before it without the
backslashes that escape. -/
theorem read_eq_some_iff_closed (hq : quote ≠ '\\') : Quoted.read quote t = some (value, left) ↔
    ∃ inside, Closed quote t inside left ∧ value = withoutEscapes [] inside := by
  refine ⟨closed_of_read hq, ?_⟩
  rintro ⟨inside, hclosed, rfl⟩
  cases hread : Quoted.read quote t with
  | none => exact absurd ((read_eq_none_iff hq).1 hread _ _ hclosed.split) hclosed.closes
  | some found =>
    obtain ⟨inside', hclosed', hvalue⟩ := closed_of_read hq hread
    obtain ⟨rfl, hleft⟩ := hclosed.unique hclosed'
    rw [← hvalue, hleft]

end CatalogAdmin.Text.Quoted
