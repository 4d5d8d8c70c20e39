import CatalogAdmin.Text.Basic

/-!
# Pieces and their lines

A text is changed by its pieces and read by its lines. For the two to fit, changed pieces must come
back when the changed text is cut again, and a line must begin as its piece does.

Results:
1. `pieces_flatten`: pieces put together are cut where they were put together.
2. `withoutEnding_append_ending`: a line with the ending of any piece is read as that line, unless it
   closes with a carriage return of its own.
3. `startsWith_withoutEnding`: a piece begins with a mark if its line does.
-/

namespace CatalogAdmin.Text

/-! ## What pieces are -/

/-- The pieces of some text: each closes with the only line feed it holds. The last may lack it, but
is not empty. -/
inductive ArePieces : List Text → Prop
  | nil : ArePieces []
  | last {body : Text} : body ≠ [] → '\n' ∉ body → ArePieces [body]
  | cons {body : Text} {more : List Text} :
      '\n' ∉ body → ArePieces more → ArePieces ((body ++ ['\n']) :: more)

theorem pieces_of_not_mem {body : Text} (hne : body ≠ []) (h : '\n' ∉ body) :
    pieces body = [body] := by
  induction body with
  | nil => exact absurd rfl hne
  | cons c rest ih =>
    obtain ⟨hc, hr⟩ := not_or.1 (mt List.mem_cons.2 h)
    cases rest with
    | nil => simp [pieces, Ne.symm hc]
    | cons d more => rw [pieces, if_neg (Ne.symm hc), ih (by simp) hr]

theorem pieces_append {body : Text} (h : '\n' ∉ body) (rest : Text) :
    pieces (body ++ '\n' :: rest) = (body ++ ['\n']) :: pieces rest := by
  induction body with
  | nil => simp [pieces]
  | cons c more ih =>
    obtain ⟨hc, hm⟩ := not_or.1 (mt List.mem_cons.2 h)
    rw [List.cons_append, pieces, if_neg (Ne.symm hc), ih hm]
    rfl

/-- Pieces put together are cut where they were put together. -/
theorem pieces_flatten {ps : List Text} (h : ArePieces ps) : pieces ps.flatten = ps := by
  induction h with
  | nil => rfl
  | last hne hb => simpa using pieces_of_not_mem hne hb
  | cons hb _ ih =>
    rw [List.flatten_cons, List.append_assoc, List.singleton_append, pieces_append hb, ih]

theorem arePieces_pieces (t : Text) : ArePieces (pieces t) := by
  induction t with
  | nil => exact .nil
  | cons c rest ih =>
    by_cases hc : c = '\n'
    · rw [pieces, if_pos hc]
      exact .cons List.not_mem_nil ih
    rw [pieces, if_neg hc]
    -- the character goes to the front of the first piece
    have grown : ∀ {body : Text}, '\n' ∉ body → '\n' ∉ c :: body := fun hb =>
      mt List.mem_cons.1 (not_or.2 ⟨Ne.symm hc, hb⟩)
    generalize pieces rest = ps at ih
    cases ih with
    | nil => exact .last (by simp) (grown List.not_mem_nil)
    | last _ hb => exact .last (by simp) (grown hb)
    | cons hb hm => exact .cons (grown hb) hm

/-! ## Endings -/

theorem ending_cases (p : Text) : ending p = ['\r', '\n'] ∨ ending p = ['\n'] ∨ ending p = [] := by
  unfold ending
  split
  · exact .inl rfl
  · split
    · exact .inr (.inl rfl)
    · exact .inr (.inr rfl)

theorem endsWith_iff {t mark : Text} : t.endsWith mark = true ↔ mark <:+ t := by
  unfold endsWith
  exact List.isSuffixOf_iff_suffix

theorem startsWith_iff {t mark : Text} : t.startsWith mark = true ↔ mark <+: t := by
  unfold startsWith
  exact List.isPrefixOf_iff_prefix

theorem ending_of_not_mem {body : Text} (h : '\n' ∉ body) : ending body = [] := by
  have absent : ∀ mark : Text, '\n' ∈ mark → ¬ body.endsWith mark = true :=
    fun mark hm hs => h ((endsWith_iff.1 hs).subset hm)
  unfold ending
  rw [if_neg (absent _ (by decide)), if_neg (absent _ (by decide))]

/-- A closed piece has an ending, whose line feed is the last character. -/
theorem exists_ending (body : Text) :
    ∃ e, '\n' ∉ e ∧ ending (body ++ ['\n']) = e ++ ['\n'] := by
  have closed : (body ++ ['\n']).endsWith "\n" = true :=
    endsWith_iff.2 (List.suffix_append body ['\n'])
  unfold ending
  rw [if_pos closed]
  split
  · exact ⟨['\r'], by decide, rfl⟩
  · exact ⟨[], by decide, rfl⟩

theorem ending_suffix (p : Text) : ending p <:+ p := by
  unfold ending
  split
  · next h => exact endsWith_iff.1 h
  · split
    · next h => exact endsWith_iff.1 h
    · exact List.nil_suffix

theorem withoutEnding_append (p : Text) : withoutEnding p ++ ending p = p := by
  obtain ⟨body, hbody⟩ := ending_suffix p
  have hlen : p.length - (ending p).length = body.length := by
    have := congrArg List.length hbody
    rw [List.length_append] at this
    omega
  have htake : withoutEnding p = body := by
    unfold withoutEnding
    rw [hlen]
    exact List.prefix_iff_eq_take.1 ⟨_, hbody⟩ |>.symm
  rw [htake, hbody]

theorem withoutEnding_of_append {line e : Text} (h : ending (line ++ e) = e) :
    withoutEnding (line ++ e) = line := by
  have := withoutEnding_append (line ++ e)
  rw [h] at this
  exact List.append_cancel_right this

/-- A line with the ending of any piece is read as that line, unless it closes with a carriage
return of its own. -/
theorem withoutEnding_append_ending {line : Text} (hn : '\n' ∉ line)
    (hr : line.getLast? ≠ some '\r') (p : Text) : withoutEnding (line ++ ending p) = line := by
  apply withoutEnding_of_append
  rcases ending_cases p with h | h | h <;> rw [h]
  · have closed : (line ++ ['\r', '\n']).endsWith "\r\n" = true :=
      endsWith_iff.2 (List.suffix_append line ['\r', '\n'])
    unfold ending
    rw [if_pos closed]
    rfl
  · -- behind a line that closes with a carriage return the line feed would become part of it
    have bare : ¬ (line ++ ['\n']).endsWith "\r\n" = true := by
      intro hs
      obtain ⟨before, hb⟩ := endsWith_iff.1 hs
      have hcut : before ++ ['\r'] = line := by
        have : before ++ ['\r'] ++ ['\n'] = line ++ ['\n'] := by rw [List.append_assoc]; exact hb
        exact List.append_cancel_right this
      exact hr (by rw [← hcut, List.getLast?_concat])
    have closed : (line ++ ['\n']).endsWith "\n" = true :=
      endsWith_iff.2 (List.suffix_append line ['\n'])
    unfold ending
    rw [if_neg bare, if_pos closed]
    rfl
  · rw [List.append_nil, ending_of_not_mem hn]

theorem ending_chars {p : Text} {c : Char} (h : c ∈ ending p) : c = '\r' ∨ c = '\n' := by
  rcases ending_cases p with e | e | e <;> rw [e] at h <;> simp at h <;> simp [h]

/-- No mark reaches into what holds none of its characters. -/
theorem startsWith_append {t e mark : Text} (h : ∀ c ∈ e, c ∉ mark) :
    (t ++ e).startsWith mark = t.startsWith mark := by
  rw [Bool.eq_iff_iff, startsWith_iff, startsWith_iff]
  constructor
  · intro hp
    by_cases hlen : mark.length ≤ t.length
    · exact List.prefix_of_prefix_length_le hp (List.prefix_append _ _) hlen
    -- otherwise the mark goes on behind `t`
    obtain ⟨beyond, hbeyond⟩ :=
      List.prefix_of_prefix_length_le (List.prefix_append t e) hp (by omega)
    have hrest : beyond <+: e := by
      rw [← hbeyond] at hp
      exact (List.prefix_append_right_inj _).1 hp
    cases beyond with
    | nil =>
      have hmark : t = mark := by rw [← hbeyond, List.append_nil]
      exact hmark ▸ List.prefix_refl t
    | cons c more =>
      have hc : c ∈ mark := by
        rw [← hbeyond]
        simp
      exact absurd hc (h c (hrest.subset (List.mem_cons_self ..)))
  · exact fun hp => hp.trans (List.prefix_append _ _)

/-- A piece begins with a mark if its line does: no mark reaches into an ending. -/
theorem startsWith_withoutEnding {mark : Text} (hr : '\r' ∉ mark) (hn : '\n' ∉ mark) (p : Text) :
    (withoutEnding p).startsWith mark = p.startsWith mark := by
  have happ : (withoutEnding p ++ ending p).startsWith mark = (withoutEnding p).startsWith mark := by
    apply startsWith_append
    intro c hc
    rcases ending_chars hc with rfl | rfl
    · exact hr
    · exact hn
  rw [withoutEnding_append] at happ
  exact happ.symm

end CatalogAdmin.Text
