import CatalogAdmin.Proofs.UuidChange.Course

/-!
# Validation guards every change

A change of UUID that detaches the table, or leaves any file other than it was, has been found valid
before. `Course.guarded` shows it for each way a run may end; `changeUuid_guarded` is the statement
about whole runs.
-/

namespace CatalogAdmin

open Session

/-- A query that detaches a table. -/
def Sent.IsDetach (s : Sent) : Prop := s.query.sql.startsWith "DETACH" = true

instance (s : Sent) : Decidable s.IsDetach := inferInstanceAs (Decidable (_ = true))

theorem Sent.not_isDetach_of_select {s : Sent} (h : s.query.sql.startsWith "SELECT" = true) :
    ¬ s.IsDetach := by
  intro hd
  rcases List.prefix_or_prefix_of_prefix (Text.startsWith_iff.1 h) (Text.startsWith_iff.1 hd) with
    hp | hp
  · exact absurd hp (by decide)
  · exact absurd hp (by decide)

theorem exists_quoted (table : TableName) : ∃ front, table.quoted = front ++ ['\x60'] := by
  unfold TableName.quoted quoteIdentifier Text.Quoted.write
  refine ⟨'\x60' :: (Text.Quoted.escape '\x60' table.database ++ ['\x60']) ++
    '.' :: '\x60' :: Text.Quoted.escape '\x60' table.table, ?_⟩
  simp only [List.append_assoc, List.cons_append, List.nil_append]

/-- A table's quoted name ends in a quote, so the statement that detaches it does not end in the word
that would make this permanent. -/
theorem not_permanently (table : TableName) :
    ¬ (detachStatement table false).endsWith " PERMANENTLY" = true := by
  have hstatement : detachStatement table false = "DETACH TABLE ".toList ++ table.quoted := by
    unfold detachStatement
    simp only [Bool.false_eq_true, if_false]
    exact List.append_nil _
  obtain ⟨front, hfront⟩ := exists_quoted table
  have hword : (" PERMANENTLY" : Text) = " PERMANENTL".toList ++ ['Y'] := by decide
  intro h
  obtain ⟨before, hbefore⟩ := Text.endsWith_iff.1 h
  -- the two last characters differ
  rw [hstatement, hfront, hword, ← List.append_assoc, ← List.append_assoc] at hbefore
  have := (List.append_inj' hbefore rfl).2
  cases this

variable {answers : List Sent → Sent → Except ClientError (List Row)} {site : Site}
  {table : TableName} {newUuid : Uuid} {w : World}

/-- However a run ends: it sent `SELECT` queries and at most one `DETACH`, of a table the server
reported. Unless it changed nothing, the change was found valid. -/
theorem Course.guarded (hs : site.server = .ofAnswers answers)
    {r : EStateM.Result UuidChangeFailure World UuidChangeReport}
    (h : Course site table newUuid w r) :
    ∃ asked detaching : List Sent, (endState r).sent = w.sent ++ (asked ++ detaching) ∧
      (∀ s ∈ asked, s.query.sql.startsWith "SELECT" = true) ∧
      (detaching = [] ∧ (endState r).tree = w.tree ∨
        ∃ info record, Validated answers site table newUuid w (endState r) info record ∧
          detaching = Prepared.detaching site table info) := by
  cases h with
  | unanswered hinfo =>
    obtain ⟨asked, rfl, hasked⟩ := (selects_tableInfo? hs table).error hinfo
    exact ⟨asked, [], by simp [endState], hasked, .inl ⟨rfl, rfl⟩⟩
  | invalid hinfo hvalid =>
    obtain ⟨asked, rfl, hasked⟩ := ((selects_tableInfo? hs table).ok hinfo).trans
      ((selects_validateUuidChange hs table _ newUuid).error hvalid)
    exact ⟨asked, [], by simp [endState], hasked, .inl ⟨rfl, rfl⟩⟩
  | @notDetached info record e v₁ v₂ v hinfo hvalid hdetach =>
    obtain ⟨⟨asked, rfl, hasked⟩, hvalidated⟩ := validated_of_ok hs hinfo hvalid
    obtain ⟨-, rfl⟩ := detach_of_error hs hdetach
    refine ⟨asked, [detachRequest site table], ?_, hasked, .inr ⟨some info, record, ?_, rfl⟩⟩
    · simp [endState, World.asking, World.telling]
    · exact hvalidated.extend [detachRequest site table] rfl
  | @notChanged info record _ _ _ hp _ | @notRelocated info record _ _ _ _ _ hp _ _ =>
    obtain ⟨hvalidated, asked, hasked, rfl⟩ := hp.world hs
    refine ⟨asked, _, ?_, hasked, .inr ⟨info, record, ?_, rfl⟩⟩
    · simp [endState]
    · exact hvalidated.extend [] (List.append_nil _).symm
  | @changed info record _ _ _ _ _ hp _ hsent =>
    obtain ⟨hvalidated, asked, hasked, rfl⟩ := hp.world hs
    refine ⟨asked, _, ?_, hasked, .inr ⟨info, record, ?_, rfl⟩⟩
    · rw [endState, hsent, List.append_assoc]
    · exact hvalidated.extend [] (by rw [endState, hsent, List.append_nil])

/-- A change of UUID sends what its attempt sends, and leaves the tree that its attempt leaves. -/
theorem after_changeUuid (site : Site) (table : TableName) (newUuid : Uuid) (w : World) :
    (after (changeUuid site table newUuid) w).sent =
        (endState (attemptUuidChange site table newUuid w)).sent ∧
      (after (changeUuid site table newUuid) w).tree =
        (endState (attemptUuidChange site table newUuid w)).tree := by
  unfold after changeUuid
  cases attemptUuidChange site table newUuid w with
  | ok report v => exact ⟨rfl, rfl⟩
  | error failure v => exact ⟨rfl, rfl⟩

/-- A run that detaches the table or leaves another tree has been found valid: the catalog file of
the table has another UUID, and the replicas of a replicated table agree on the new one. A table is
detached at most once, never permanently, and only if the server has a row for it. -/
theorem changeUuid_guarded (settings : Settings)
    (answers : List Sent → Sent → Except ClientError (List Row)) (remover : Remover)
    (table : TableName) (newUuid : Uuid) (w : World) :
    let site : Site := ⟨settings, .ofAnswers answers, remover⟩
    let w' := after (changeUuid site table newUuid) w
    ∃ asked, w'.sent = w.sent ++ asked ∧
      ((∃ s ∈ asked, s.IsDetach) ∨ w'.tree ≠ w.tree →
        ∃ info record, Validated answers site table newUuid w w' info record) ∧
      asked.countP (·.IsDetach) ≤ 1 ∧
      ∀ s ∈ asked, s.IsDetach →
        s.query.sql = detachStatement table false ∧
        ¬ s.query.sql.endsWith " PERMANENTLY" = true ∧
        ∃ info, Reported answers site table w w' (some info) := by
  intro site w'
  obtain ⟨hsent, htree⟩ := after_changeUuid site table newUuid w
  obtain ⟨asked, detaching, hend, hselects, hcases⟩ :=
    Course.guarded rfl (course_attemptUuidChange site table newUuid w)
  have hnone : ∀ s ∈ asked, ¬ s.IsDetach := fun s hs =>
    Sent.not_isDetach_of_select (hselects s hs)
  have hcount : asked.countP (·.IsDetach) = 0 :=
    List.countP_eq_zero.2 fun s hs => by simpa using hnone s hs
  refine ⟨asked ++ detaching, hsent.trans hend, ?_⟩
  rcases hcases with ⟨rfl, hsame⟩ | ⟨info, record, hvalidated, rfl⟩
  · -- a run that was not found valid did nothing that needs it
    rw [List.append_nil]
    refine ⟨?_, by omega, fun s hs hd => absurd hd (hnone s hs)⟩
    rintro (⟨s, hs, hd⟩ | hne)
    · exact absurd hd (hnone s hs)
    · exact absurd (htree.trans hsame) hne
  · have hvalidated : Validated answers site table newUuid w w' info record :=
      hvalidated.extend [] (hsent.trans (List.append_nil _).symm)
    refine ⟨fun _ => ⟨info, record, hvalidated⟩, ?_, ?_⟩
    · rw [List.countP_append, hcount, Nat.zero_add]
      cases info with
      | none => exact Nat.zero_le 1
      | some info => exact List.countP_le_length
    · intro s hs hd
      rcases List.mem_append.1 hs with hs | hs
      · exact absurd hd (hnone s hs)
      cases info with
      | none => cases hs
      | some info =>
        obtain rfl := List.mem_singleton.1 hs
        exact ⟨rfl, not_permanently table, info, hvalidated.reported⟩

end CatalogAdmin
