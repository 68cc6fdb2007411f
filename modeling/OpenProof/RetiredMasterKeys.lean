import OpenProof.MasterKeyChains

namespace OpenProof.RetiredMasterKeys
open Foundation SqlTransactions MasterKeyRotations MasterKeyChains PostgresMasterKeyRotator

variable {Row : Type}

def Forward (t : Tables Row) (turn : Turn Row) : Prop :=
  ∀ currentVersion currentFingerprint replacementVersion replacementFingerprint,
    turn.call = .rotate currentVersion currentFingerprint replacementVersion replacementFingerprint false →
      ∀ row ∈ t.journal,row.fromFingerprint ≠ replacementFingerprint

section
variable {start : Tables Row} {turns : List (Turn Row)}

theorem journal_grows (more : List (Turn Row)) (inside : row ∈ (after start turns).journal) :
    row ∈ (after start (turns ++ more)).journal := by
  induction more using List.reverseRecOn with
  | nil => simpa using inside
  | append_singleton more turn ih =>
    rw [← List.append_assoc,after_concat]
    rcases serve_cases turn (after start (turns ++ more)) with same | ⟨_,_,_,_,_,-,-,committed⟩
    · rw [same]
      exact ih
    · obtain ⟨added,appended,-⟩ := committed.recorded
      rw [appended]
      exact List.mem_append_left _ ih

theorem run_retired (empty : start.journal = []) (forward : Throughout Forward start turns) :
    ∀ row ∈ (after start turns).journal,∀ version fingerprint,
      active (after start turns).journal = some (version,fingerprint) → row.fromFingerprint ≠ fingerprint := by
  induction turns using List.reverseRecOn with
  | nil =>
    change ∀ row ∈ start.journal,_
    rw [empty]
    simp
  | append_singleton turns turn ih =>
    have ordered := run_ordered empty (turns ++ [turn])
    rw [after_concat] at ordered ⊢
    rcases serve_cases turn (after start turns) with same | ⟨_,_,_,_,_,asked,-,committed⟩
    · rw [same]
      exact ih forward.earlier
    · have fresh := forward.last _ _ _ _ asked
      obtain ⟨added,appended,⟨-,from_⟩,⟨-,to_⟩,-⟩ := committed.recorded
      intro row inside version fingerprint head
      rw [active,head_last ordered,appended,List.getLast?_concat] at head
      cases head
      rw [appended] at inside
      rw [to_]
      rcases List.mem_append.mp inside with before | now
      · exact fresh row before
      · cases List.mem_singleton.mp now
        rw [from_]
        exact committed.apart

end

section
variable {turn : Turn Row} {currentVersion replacementVersion : Nat}
  {currentFingerprint replacementFingerprint : Sha256Digest}

theorem rotated_committed
    (asked : turn.call = .rotate currentVersion currentFingerprint replacementVersion replacementFingerprint false)
    (done : (turn.serve t).1 = .ok report) : ∃ row ∈ (turn.serve t).2.journal,row.fromFingerprint = currentFingerprint := by
  unfold Turn.serve at done ⊢
  rw [asked] at done ⊢
  rcases rotate_outcome turn.lease currentVersion currentFingerprint replacementVersion replacementFingerprint false t
    turn.verdicts with ⟨dry | ⟨e,failed⟩,-⟩ | ⟨-,made,-,committed⟩
  · cases dry
  · have lost := (congrArg (Except.map some) failed).symm.trans done
    cases lost
  · obtain ⟨row,appended,⟨-,from_⟩,-⟩ := committed.recorded
    exact ⟨row,appended ▸ List.mem_append_right _ (by simp),from_⟩

theorem verified_active (asked : turn.call = .verifyActive version currentFingerprint)
    (done : (turn.serve t).1 = .ok report) :
    activeVersion version currentFingerprint (active t.journal) = .ok () := by
  unfold Turn.serve at done
  rw [asked] at done
  apply (verifyActive_run turn.lease turn.verdicts).2
  dsimp only at done
  cases answered : ((verifyActive turn.lease version currentFingerprint).run (Server.exec meaning)
      ⟨t,none,turn.verdicts⟩).1 with
  | error e =>
    rw [answered] at done
    cases done
  | ok none_ => rfl

end

theorem retired_never_active {start : Tables Row} (empty : start.journal = []) {turns : List (Turn Row)}
    (forward : Throughout Forward start turns) : ∀ before turn middle asked rest currentVersion currentFingerprint
      replacementVersion replacementFingerprint report version, turns = before ++ turn :: (middle ++ asked :: rest) →
      turn.call = .rotate currentVersion currentFingerprint replacementVersion replacementFingerprint false →
      (turn.serve (after start before)).1 = .ok report → asked.call = .verifyActive version currentFingerprint →
        ∃ e,(asked.serve (after start (before ++ turn :: middle))).1 = .error e := by
  intro before turn middle asked rest currentVersion currentFingerprint replacementVersion replacementFingerprint report
    version split rotates done asks
  have earlier : Throughout Forward start (before ++ turn :: middle) := by
    rw [← List.cons_append,← List.append_assoc] at split
    rw [split] at forward
    exact forward.earlier
  obtain ⟨row,recorded,moved⟩ := rotated_committed rotates done
  have there : row ∈ (after start (before ++ turn :: middle)).journal := by
    rw [← after_concat] at recorded
    simpa using journal_grows middle recorded
  cases answered : (asked.serve (after start (before ++ turn :: middle))).1 with
  | error e => exact ⟨e,rfl⟩
  | ok other =>
    have verified := verified_active asks answered
    have retired := run_retired empty earlier row there
    cases head : active (after start (before ++ turn :: middle)).journal with
    | none =>
      rw [active,head_last (run_ordered empty _),Option.map_eq_none_iff,List.getLast?_eq_none_iff] at head
      rw [head] at there
      cases there
    | some now =>
      obtain ⟨nowVersion,nowFingerprint⟩ := now
      rw [head] at verified
      obtain ⟨same,-⟩ := passed verified
      rw [not_or,not_not,not_not] at same
      exact absurd (moved.trans same.2.symm) (retired nowVersion nowFingerprint head)

theorem retired_returned : ((demoRotate 1 10 2 11).serve demoStart).1.isOk = true ∧
    ((demoRotate 2 11 3 10).serve (after demoStart [demoRotate 1 10 2 11])).1.isOk = true ∧
    ((demoVerify 3 10).serve (after demoStart [demoRotate 1 10 2 11,demoRotate 2 11 3 10])).1 = .ok none := by
  decide

theorem retired_never_active_pair :
    ∃ e,((demoVerify 2 10).serve (after demoStart [demoRotate 1 10 2 11])).1 = .error e := by
  have forward : Throughout Forward demoStart [demoRotate 1 10 2 11,demoVerify 2 10] := by
    intro before turn rest split
    cases before with
    | nil => exact fun _ _ _ _ _ row inside => by cases inside
    | cons one before =>
      obtain ⟨rfl,split⟩ := List.cons.inj split
      cases before with
      | nil =>
        cases split
        intro _ _ _ _ asked
        cases asked
      | cons two before =>
        have short := congrArg List.length split
        simp at short
  exact retired_never_active rfl forward [] (demoRotate 1 10 2 11) [] (demoVerify 2 10) [] 1 10 2 11 _ 2 rfl rfl rfl rfl

end OpenProof.RetiredMasterKeys
