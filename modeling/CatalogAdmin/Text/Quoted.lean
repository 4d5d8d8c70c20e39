import CatalogAdmin.Text.Basic

/-!
# Quoted texts

A quoted text stands between two quote characters; inside, a backslash takes the next character as
it is. Writing puts a backslash before every backslash and every quote. Reading drops each
backslash that escapes something, so it also accepts a backslash before any other character.

* `read_write`: reading what was written gives the text back and leaves the rest unread.
-/

namespace CatalogAdmin.Text.Quoted

/-- A text with a backslash before each backslash and each `quote`. -/
def escape (quote : Char) : Text → Text
  | [] => []
  | c :: rest =>
    if c = '\\' || c = quote then '\\' :: c :: escape quote rest else c :: escape quote rest

/-- A text between two `quote` characters. -/
def write (quote : Char) (t : Text) : Text := quote :: (escape quote t ++ [quote])

/-- The text up to the closing `quote`, and what follows it; `none` when the quote is not closed
or the text ends in a backslash that escapes nothing. -/
def read (quote : Char) : Text → Option (Text × Text)
  | [] => none
  | ['\\'] => none
  | '\\' :: c :: rest => (read quote rest).map fun (value, left) => (c :: value, left)
  | c :: rest =>
    if c = quote then some ([], rest)
    else (read quote rest).map fun (value, left) => (c :: value, left)

/-- Reading what was written, from behind the opening quote, gives the text and leaves the rest. -/
theorem read_write (quote : Char) (t rest : Text) (hq : quote ≠ '\\') :
    read quote (escape quote t ++ quote :: rest) = some (t, rest) := by
  induction t with
  | nil => simp [escape, read, hq]
  | cons c t ih =>
    by_cases hb : c = '\\'
    · subst hb; simp [escape, read, ih]
    · by_cases hc : c = quote
      · subst hc; simp [escape, read, ih]
      · simp [escape, read, hb, hc, ih]

/-- What is left behind a quoted text is shorter than what was read from. -/
theorem length_of_read {quote : Char} {t value left : Text}
    (h : read quote t = some (value, left)) : left.length < t.length := by
  fun_induction read quote t generalizing value left with
  | case1 => simp at h
  | case2 => simp at h
  | case3 c rest ih =>
    obtain ⟨⟨v, l⟩, hr, he⟩ := Option.map_eq_some_iff.1 h
    cases he
    have := ih hr
    simp only [List.length_cons]; omega
  | case4 c rest =>
    cases h
    simp
  | case5 c rest _ _ _ ih =>
    obtain ⟨⟨v, l⟩, hr, he⟩ := Option.map_eq_some_iff.1 h
    cases he
    have := ih hr
    simp only [List.length_cons]; omega

end CatalogAdmin.Text.Quoted
