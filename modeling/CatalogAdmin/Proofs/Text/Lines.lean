import CatalogAdmin.Proofs.Text.Pieces

/-!
# Lines as they are written

`Written` says how lines stand in a text, with either kind of ending. A text is read as the lines that
are written in it (`written_lines`), and there is only one way to read it (`Written.lines_eq`).
-/

namespace CatalogAdmin.Text

/-- Lines as they stand in a text. Each closes with a line feed, and a carriage return right before
the line feed belongs to the ending. The last line may lack its ending, but then it is not empty. -/
inductive Written : List Text → Text → Prop
  | nil : Written [] []
  | last {line : Text} : line ≠ [] → '\n' ∉ line → Written [line] line
  | lf {line rest : Text} {more : List Text} :
      '\n' ∉ line → line.getLast? ≠ some '\r' → Written more rest →
      Written (line :: more) (line ++ '\n' :: rest)
  | crlf {line rest : Text} {more : List Text} :
      '\n' ∉ line → Written more rest → Written (line :: more) (line ++ '\r' :: '\n' :: rest)

theorem withoutEnding_lf {line : Text} (hn : '\n' ∉ line) (hr : line.getLast? ≠ some '\r') :
    withoutEnding (line ++ ['\n']) = line :=
  withoutEnding_append_ending hn hr ['\n']

theorem withoutEnding_crlf (line : Text) : withoutEnding (line ++ ['\r', '\n']) = line := by
  have closed : (line ++ ['\r', '\n']).endsWith "\r\n" = true :=
    endsWith_iff.2 (List.suffix_append line ['\r', '\n'])
  apply withoutEnding_of_append
  unfold ending
  rw [if_pos closed]
  rfl

theorem withoutEnding_of_not_mem {line : Text} (hn : '\n' ∉ line) : withoutEnding line = line := by
  have := withoutEnding_append line
  rwa [ending_of_not_mem hn, List.append_nil] at this

theorem lines_append {body : Text} (h : '\n' ∉ body) (rest : Text) :
    lines (body ++ '\n' :: rest) = withoutEnding (body ++ ['\n']) :: lines rest := by
  rw [lines, pieces_append h, List.map_cons, lines]

/-- What is written is read. -/
theorem Written.lines_eq {ls : List Text} {t : Text} (h : Written ls t) : t.lines = ls := by
  induction h with
  | nil => rfl
  | last hne hn => rw [lines, pieces_of_not_mem hne hn, List.map_singleton, withoutEnding_of_not_mem hn]
  | lf hn hr _ ih => rw [lines_append hn, withoutEnding_lf hn hr, ih]
  | @crlf line rest more hn _ ih =>
    have hbody : '\n' ∉ line ++ ['\r'] := by simp [hn]
    have := lines_append hbody rest
    simp only [List.append_assoc, List.cons_append, List.nil_append] at this
    rw [this, withoutEnding_crlf, ih]

theorem ArePieces.written {ps : List Text} (h : ArePieces ps) :
    Written (ps.map withoutEnding) ps.flatten := by
  induction h with
  | nil => exact .nil
  | @last body hne hn =>
    simpa [withoutEnding_of_not_mem hn] using Written.last hne hn
  | @cons body more hn _ ih =>
    rw [List.map_cons, List.flatten_cons]
    -- a carriage return at the end belongs to the ending
    by_cases hr : body.getLast? = some '\r'
    · obtain ⟨line, rfl⟩ := List.getLast?_eq_some_iff.1 hr
      have hline : '\n' ∉ line := fun hm => hn (List.mem_append_left _ hm)
      simpa [withoutEnding_crlf] using Written.crlf hline ih
    · simpa [withoutEnding_lf hn hr] using Written.lf hn hr ih

/-- Every text is made of the lines it is read as. -/
theorem written_lines (t : Text) : Written t.lines t := by
  have := (arePieces_pieces t).written
  rwa [flatten_pieces] at this

end CatalogAdmin.Text
