import CatalogAdmin.Uuid
import CatalogAdmin.Proofs.Path.Components

/-!
# Written UUIDs

A UUID is written in five groups of digits, with a hyphen between neighbours (`text_eq_join`). What is
written is read as the UUID (`parse?_text`).
-/

namespace CatalogAdmin.Uuid

/-- A UUID of one digit throughout. -/
def constant (d : Nat) : Uuid :=
  ⟨List.replicate 32 ⟨d % 16, Nat.mod_lt d (by decide)⟩, List.length_replicate⟩

/-! ## Writing -/

/-- The digits of a UUID as they are written, without hyphens. -/
def written (u : Uuid) : Text := u.digits.map Text.hexChar

/-- Digits in five groups. -/
def groupsOf (digits : Text) : List Text :=
  [digits.take 8, (digits.drop 8).take 4, (digits.drop 12).take 4, (digits.drop 16).take 4,
    digits.drop 20]

theorem length_written (u : Uuid) : u.written.length = 32 := by
  rw [written, List.length_map, u.length_digits]

theorem mem_written {u : Uuid} {c : Char} (h : c ∈ u.written) : ∃ d, c = Text.hexChar d := by
  obtain ⟨d, _, rfl⟩ := List.mem_map.1 h
  exact ⟨d, rfl⟩

theorem flatten_groupsOf (digits : Text) : (groupsOf digits).flatten = digits := by
  have joined : ∀ n, (digits.drop n).take 4 ++ digits.drop (n + 4) = digits.drop n := by
    intro n
    rw [← List.drop_drop, List.take_append_drop]
  simp only [groupsOf, List.flatten_cons, List.flatten_nil, List.append_nil]
  rw [joined 16, joined 12, joined 8, List.take_append_drop]

theorem mem_of_mem_groupsOf {digits group : Text} {c : Char} (hg : group ∈ groupsOf digits)
    (hc : c ∈ group) : c ∈ digits := by
  rw [← flatten_groupsOf digits]
  exact List.mem_flatten_of_mem hg hc

theorem text_eq_join (u : Uuid) : u.text = Text.join ['-'] (groupsOf u.written) := by
  simp only [text, written, groupsOf, Text.join, List.append_assoc, List.cons_append,
    List.nil_append]

theorem length_text (u : Uuid) : u.text.length = 36 := by
  simp only [text_eq_join, groupsOf, Text.join, List.length_append, List.length_take,
    List.length_drop, length_written, List.length_cons, List.length_nil]
  decide

theorem mem_text {u : Uuid} {c : Char} (h : c ∈ u.text) : c = '-' ∨ ∃ d, c = Text.hexChar d := by
  by_cases hc : c = '-'
  · exact .inl hc
  · have inGroup : c ∈ (groupsOf u.written).flatten := by
      rw [text_eq_join] at h
      simpa [groupsOf, Text.join, hc] using h
    rw [flatten_groupsOf] at inGroup
    exact .inr (mem_written inGroup)

/-! ## Reading -/

theorem hexChar_ne_hyphen (d : Fin 16) : Text.hexChar d ≠ '-' := by
  revert d
  decide

theorem fields_text (u : Uuid) : u.text.fields '-' = groupsOf u.written := by
  rw [text_eq_join]
  refine Text.fields_join (groupsOf u.written) (List.cons_ne_nil _ _) fun group hg hc => ?_
  obtain ⟨d, hd⟩ := mem_written (mem_of_mem_groupsOf hg hc)
  exact hexChar_ne_hyphen d hd.symm

theorem readPlain?_written (u : Uuid) : readPlain? u.written = some u := by
  have hread : u.written.mapM Text.hexDigit? = some u.digits := by
    rw [written]
    induction u.digits with
    | nil => rfl
    | cons d rest ih => simp [Text.hexDigit?_hexChar, ih]
  rw [readPlain?, hread, Option.bind_some, ofDigits?, dif_pos u.length_digits]

/-- A written UUID is read as that UUID. -/
theorem parse?_text (u : Uuid) : parse? u.text = some u := by
  have hlengths : (groupsOf u.written).map List.length = groupLengths := by
    simp only [groupsOf, groupLengths, List.map_cons, List.map_nil, List.length_take,
      List.length_drop, length_written]
    decide
  have hread : readHyphenated? u.text = some u := by
    simp only [readHyphenated?, fields_text, hlengths, if_true, flatten_groupsOf, readPlain?_written]
  rw [parse?, u.length_text, if_neg (by decide), if_pos rfl, hread]

/-- Different UUIDs are written differently. -/
theorem text_injective {u v : Uuid} (h : u.text = v.text) : u = v := by
  have hread := u.parse?_text
  rw [h, v.parse?_text] at hread
  exact (Option.some.inj hread).symm

end CatalogAdmin.Uuid
