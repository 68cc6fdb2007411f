import Mathlib.Data.List.Chain
import Mathlib.Data.List.Induction
import OpenProof.MasterKeyRotations

namespace OpenProof.MasterKeyChains
open AtomicPrograms Foundation SqlTransactions MasterKeyRotations PostgresMasterKeyRotator

variable {Row : Type}

def active (journal : List RotationRow) : Option (Nat × Sha256Digest) :=
  (journalHead journal).map fun row => (row.toVersion,row.toFingerprint)

def cleared (derived : DerivedTable → List Row) (tables : List DerivedTable) : DerivedTable → List Row :=
  fun table => if table ∈ tables then [] else derived table

def held (derived : DerivedTable → List Row) (tables : List (DerivedTable × Text)) : Counts :=
  tables.map fun removal => (removal.1,(derived removal.1).length)

section
variable {t : Tables Row}

theorem cleared_update : cleared (Function.update t.derived table []) later = cleared t.derived (table :: later) := by
  funext other
  by_cases same : other = table
  · subst same
    simp [cleared]
  · simp [cleared,same]

theorem cleared_all : cleared t.derived (removals.map Prod.fst) = fun _ => [] := by
  funext table
  cases table <;> rfl

theorem removals_distinct : (removals.map Prod.fst).Nodup := by decide

theorem delete_within (table : DerivedTable) (operation : Text) :
    Within meaning (sql (.delete table) operation) t fun count left =>
      count = (t.derived table).length ∧ left = { t with derived := Function.update t.derived table [] } := by
  apply Within.statement
  intro chosen count left done
  cases done
  exact ⟨rfl,rfl⟩

theorem removeAll_within (tables : List (DerivedTable × Text)) (distinct : (tables.map Prod.fst).Nodup) :
    Within meaning (removeAll tables) t fun removed left => ∀ counts,countAll removed = .ok counts →
      counts = held t.derived tables ∧ left = { t with derived := cleared t.derived (tables.map Prod.fst) } := by
  induction tables generalizing t with
  | nil =>
    apply Within.ret
    intro counts done
    cases done
    exact ⟨rfl,rfl⟩
  | cons removal later ih =>
    obtain ⟨table,operation⟩ := removal
    obtain ⟨apart,onward⟩ := List.nodup_cons.mp distinct
    apply Within.bind (delete_within table operation).attempt
    intro removed left answered
    apply Within.bind (ih onward)
    intro rest left' emptied
    apply Within.ret
    intro counts done
    obtain ⟨count,gone,done⟩ := bind_ok done
    obtain ⟨others,counted,done⟩ := bind_ok done
    cases done
    obtain ⟨rfl,rfl⟩ := answered count gone
    obtain ⟨rfl,rfl⟩ := emptied others counted
    refine ⟨?_,by rw [cleared_update,List.map_cons]⟩
    unfold held
    rw [List.map_cons]
    congr 1
    apply List.map_congr_left
    intro other among
    have elsewhere : other.1 ≠ table := by
      intro same
      rw [← same] at apart
      exact apart (List.mem_map.mpr ⟨other,among,rfl⟩)
    simp [elsewhere]

structure Cleared (currentVersion : Nat) (currentFingerprint : Sha256Digest) (replacementVersion : Nat)
    (before : Tables Row) (counts : Counts) (left : Tables Row) : Prop where
  fresh : ∀ row ∈ before.journal,row.toVersion ≠ replacementVersion
  current : headMismatch currentVersion currentFingerprint (active before.journal) = false
  exact_ : counts = held before.derived removals
  emptied : left.derived = fun _ => []
  journal : left.journal = before.journal

theorem invalidate_within :
    Within meaning (invalidate currentVersion currentFingerprint replacementVersion dryRun) t fun report left =>
      report.dryRun = dryRun ∧ Cleared currentVersion currentFingerprint replacementVersion t report.counts left := by
  apply Within.bind (.reads fun _ => rfl)
  rintro _ left ⟨-,rfl⟩
  apply Within.bind (.reads fun _ => rfl)
  rintro _ left ⟨-,rfl⟩
  apply Within.bind (.reads fun _ => rfl)
  rintro _ left ⟨-,rfl⟩
  apply Within.bind (.reads fun _ => rfl)
  rintro duplicates left ⟨rfl,rfl⟩
  apply Within.refuseIf
  intro fresh
  apply Within.bind (.reads fun _ => rfl)
  rintro previous left ⟨rfl,rfl⟩
  apply Within.refuseIf
  intro current
  apply Within.bind (removeAll_within removals removals_distinct)
  intro removed left emptied
  apply Within.check
  intro counts counted
  apply Within.ret
  obtain ⟨rfl,rfl⟩ := emptied counts counted
  refine ⟨rfl,?_,current,rfl,cleared_all,rfl⟩
  intro row inside same
  simp only [ne_eq,decide_not,Bool.not_eq_false',decide_eq_true_eq,List.countP_eq_zero] at fresh
  exact fresh row inside same

theorem nextSequence_above {journal : List RotationRow} (inside : row ∈ journal) :
    row.sequence < nextSequence journal skipped := by
  have most : ∀ (sequences : List Nat) (least : Nat),least ≤ sequences.foldl max least ∧
      ∀ sequence ∈ sequences,sequence ≤ sequences.foldl max least := by
    intro sequences
    induction sequences with
    | nil => simp
    | cons first rest ih =>
      intro least
      obtain ⟨kept,others⟩ := ih (max least first)
      rw [List.foldl_cons]
      refine ⟨by omega,?_⟩
      intro sequence among
      rcases List.mem_cons.mp among with rfl | further
      · omega
      · exact others sequence further
  have bound := (most (journal.map RotationRow.sequence) 0).2 row.sequence (List.mem_map_of_mem inside)
  unfold nextSequence
  omega

-- What a committed rotation has done, and what it has found before.
structure Committed (currentVersion : Nat) (currentFingerprint : Sha256Digest) (replacementVersion : Nat)
    (replacementFingerprint : Sha256Digest) (before after : Tables Row) (report : MasterKeyRotationReport) : Prop where
  rising : 0 < currentVersion ∧ currentVersion < replacementVersion
  apart : currentFingerprint ≠ replacementFingerprint
  fresh : ∀ row ∈ before.journal,row.toVersion ≠ replacementVersion
  current : headMismatch currentVersion currentFingerprint (active before.journal) = false
  real : report.dryRun = false
  counts : report.counts = held before.derived removals
  emptied : ∀ table,after.derived table = []
  recorded : ∃ row : RotationRow,after.journal = before.journal ++ [row] ∧
    (row.fromVersion = currentVersion ∧ row.fromFingerprint = currentFingerprint) ∧
    (row.toVersion = replacementVersion ∧ row.toFingerprint = replacementFingerprint) ∧
    row.counts = report.counts ∧ ∀ other ∈ before.journal,other.sequence < row.sequence

variable {currentVersion replacementVersion : Nat} {currentFingerprint replacementFingerprint : Sha256Digest}

theorem replace_within (rising : 0 < currentVersion ∧ currentVersion < replacementVersion)
    (apart : currentFingerprint ≠ replacementFingerprint) :
    Within meaning (replace currentVersion currentFingerprint replacementVersion replacementFingerprint) t
      fun report left =>
        Committed currentVersion currentFingerprint replacementVersion replacementFingerprint t left report := by
  apply Within.bind (invalidate_within)
  rintro report left ⟨real,found⟩
  have inserted : Within meaning (sql (.insertRotation currentVersion replacementVersion currentFingerprint
      replacementFingerprint report.counts) "record master-key rotation") left fun _ later =>
      Committed currentVersion currentFingerprint replacementVersion replacementFingerprint t later report := by
    apply Within.statement
    intro chosen answer later done
    change insertRotation currentVersion replacementVersion currentFingerprint replacementFingerprint report.counts chosen
      left = .ok (answer,later) at done
    unfold insertRotation at done
    split_ifs at done
    cases done
    refine ⟨rising,apart,found.fresh,found.current,real,found.exact_,fun table => by rw [found.emptied],?_⟩
    refine ⟨_,congrArg (· ++ [_]) found.journal,⟨rfl,rfl⟩,⟨rfl,rfl⟩,rfl,?_⟩
    intro other inside
    rw [← found.journal] at inside
    exact nextSequence_above inside
  exact inserted.bind fun _ _ committed => .ret committed

theorem rotate_outcome (lease : Result Unit) (currentVersion : Nat) (currentFingerprint : Sha256Digest)
    (replacementVersion : Nat) (replacementFingerprint : Sha256Digest) (dryRun : Bool) (t : Tables Row)
    (verdicts : List (Verdict (Option Text) Chosen)) :
    let ran := (rotate lease currentVersion currentFingerprint replacementVersion replacementFingerprint dryRun).run
      (Server.exec meaning) ⟨t,none,verdicts⟩
    (dryRun = true ∨ ∃ e,ran.1 = .error e) ∧ ran.2.tables = t ∨
      dryRun = false ∧ ∃ report,ran.1 = .ok report ∧
        Committed currentVersion currentFingerprint replacementVersion replacementFingerprint t ran.2.tables report := by
  unfold rotate Prog.refuseIf
  split
  · exact .inl ⟨.inr ⟨_,rfl⟩,rfl⟩
  · rename_i rising
    split
    · exact .inl ⟨.inr ⟨_,rfl⟩,rfl⟩
    · rename_i apart
      cases lease with
      | error e => exact .inl ⟨.inr ⟨_,rfl⟩,rfl⟩
      | ok leased =>
        have positive : 0 < currentVersion ∧ currentVersion < replacementVersion := by
          simp only [Bool.or_eq_true,decide_eq_true_eq,not_or] at rising
          omega
        have distinct : currentFingerprint ≠ replacementFingerprint := by simpa using apart
        cases dryRun with
        | true =>
          have kept : ((inTransaction currentVersion currentFingerprint replacementVersion replacementFingerprint
              true).run (Server.exec meaning) ⟨t,none,verdicts⟩).2.tables = t :=
            (rehearse_settled rfl (invalidate_within)).2.1
          exact .inl ⟨.inl rfl,kept⟩
        | false =>
          have settled : Settled t (fun report left => Committed currentVersion currentFingerprint
              replacementVersion replacementFingerprint t left report) ((inTransaction currentVersion
                currentFingerprint replacementVersion replacementFingerprint false).run (Server.exec meaning)
              ⟨t,none,verdicts⟩) := transact_settled rfl (replace_within positive distinct)
          obtain ⟨-,⟨e,failed,kept⟩ | ⟨report,done,committed⟩⟩ := settled
          · exact .inl ⟨.inr ⟨e,failed⟩,kept⟩
          · exact .inr ⟨rfl,report,done,committed⟩

end

inductive MasterCall (Row : Type) where
  | rotate (currentVersion : Nat) (currentFingerprint : Sha256Digest) (replacementVersion : Nat)
      (replacementFingerprint : Sha256Digest) (dryRun : Bool)
  | verifyActive (version : Nat) (fingerprint : Sha256Digest)
  -- What other transactions make of the derived tables between two calls.
  | elsewhere (derived : DerivedTable → List Row)

-- A call, the connection it gets, and what the server makes of its statements. Rotations wait for each
-- other at their advisory lock.
structure Turn (Row : Type) where
  lease : Result Unit
  verdicts : List (Verdict (Option Text) Chosen)
  call : MasterCall Row

def Turn.serve (turn : Turn Row) (t : Tables Row) : Result (Option MasterKeyRotationReport) × Tables Row :=
  match turn.call with
  | .rotate currentVersion currentFingerprint replacementVersion replacementFingerprint dryRun =>
    let ran := (rotate turn.lease currentVersion currentFingerprint replacementVersion replacementFingerprint dryRun).run
      (Server.exec meaning) ⟨t,none,turn.verdicts⟩
    (ran.1.map some,ran.2.tables)
  | .verifyActive version fingerprint =>
    let ran := (verifyActive turn.lease version fingerprint).run (Server.exec meaning) ⟨t,none,turn.verdicts⟩
    (ran.1.map fun _ => none,ran.2.tables)
  | .elsewhere derived => (.ok none,{ t with derived := derived })

def after (start : Tables Row) (turns : List (Turn Row)) : Tables Row :=
  turns.foldl (fun t turn => (turn.serve t).2) start

-- `verifyActive` with a connection and a server that turns nothing down.
def Verifies (t : Tables Row) (version : Nat) (fingerprint : Sha256Digest) : Prop :=
  ((verifyActive (.ok ()) version fingerprint).run (Server.exec meaning) ⟨t,none,[]⟩).1 = .ok ()

section
variable {start t : Tables Row} {turn : Turn Row} {turns : List (Turn Row)}

theorem after_concat : after start (turns ++ [turn]) = (turn.serve (after start turns)).2 := by
  simp [after]

theorem head_read : (sql .journalHead operation).run (Server.exec meaning) ⟨t,none,verdicts⟩ =
      ((Server.verdict ⟨t,none,verdicts⟩).refusal.elim (.ok (active t.journal)) fun state =>
          .error (Postgres.databaseError state operation),Server.next ⟨t,none,verdicts⟩) :=
  statement_reads rfl fun _ => rfl

theorem verifyActive_run (lease : Result Unit) (verdicts : List (Verdict (Option Text) Chosen)) :
    ((verifyActive lease version fingerprint).run (Server.exec meaning) ⟨t,none,verdicts⟩).2.tables = t ∧
      (((verifyActive lease version fingerprint).run (Server.exec meaning) ⟨t,none,verdicts⟩).1 = .ok () →
        activeVersion version fingerprint (active t.journal) = .ok ()) := by
  unfold verifyActive Prog.refuseIf
  split
  · exact ⟨rfl,nofun⟩
  · cases lease with
    | error e => exact ⟨rfl,nofun⟩
    | ok leased =>
      change (((sql .journalHead "verify active master-key journal").bind fun head =>
          Prog.check (activeVersion version fingerprint head)).run (Server.exec meaning) ⟨t,none,verdicts⟩).2.tables = t ∧
        ((((sql .journalHead "verify active master-key journal").bind fun head =>
          Prog.check (activeVersion version fingerprint head)).run (Server.exec meaning) ⟨t,none,verdicts⟩).1 = .ok () → _)
      rw [Prog.run_bind,head_read]
      cases (Server.verdict ⟨t,none,verdicts⟩).refusal with
      | some state => exact ⟨rfl,nofun⟩
      | none =>
        dsimp only [Option.elim_none]
        rw [Prog.run_check]
        exact ⟨rfl,id⟩

theorem verifies_iff : Verifies t version fingerprint ↔
    version ≠ 0 ∧ activeVersion version fingerprint (active t.journal) = .ok () := by
  unfold Verifies verifyActive Prog.refuseIf
  split
  · rename_i zero
    have none_ : version = 0 := by simpa using zero
    constructor
    · intro done
      cases done
    · intro verified
      exact absurd none_ verified.1
  · rename_i named
    change (((sql .journalHead "verify active master-key journal").bind fun head =>
        Prog.check (activeVersion version fingerprint head)).run (Server.exec meaning) ⟨t,none,[]⟩).1 = .ok () ↔ _
    rw [Prog.run_bind,head_read]
    change ((Prog.check (activeVersion version fingerprint (active t.journal)) : Call Unit).run (Server.exec meaning)
      ⟨t,none,[]⟩).1 = .ok () ↔ _
    rw [Prog.run_check]
    simpa using fun _ => named

theorem serve_cases (turn : Turn Row) (t : Tables Row) : (turn.serve t).2.journal = t.journal ∨
    ∃ currentVersion currentFingerprint replacementVersion replacementFingerprint report,
      turn.call = .rotate currentVersion currentFingerprint replacementVersion replacementFingerprint false ∧
      (turn.serve t).1 = .ok (some report) ∧
      Committed currentVersion currentFingerprint replacementVersion replacementFingerprint t (turn.serve t).2 report := by
  unfold Turn.serve
  split
  · rename_i currentVersion currentFingerprint replacementVersion replacementFingerprint dryRun asked
    rcases rotate_outcome turn.lease currentVersion currentFingerprint replacementVersion replacementFingerprint dryRun t
      turn.verdicts with ⟨-,kept⟩ | ⟨rfl,report,done,committed⟩
    · exact .inl (congrArg Tables.journal kept)
    · exact .inr ⟨_,_,_,_,report,asked,congrArg (Except.map some) done,committed⟩
  · rename_i version fingerprint asked
    exact .inl (congrArg Tables.journal (verifyActive_run turn.lease turn.verdicts).1)
  · exact .inl rfl

end

def Ordered (journal : List RotationRow) : Prop := journal.Pairwise fun a b => a.sequence < b.sequence

section
variable {start : Tables Row} {turns : List (Turn Row)} {journal : List RotationRow}

theorem head_last (ordered : Ordered journal) : journalHead journal = journal.getLast? := by
  induction journal using List.reverseRecOn with
  | nil => rfl
  | append_singleton journal row ih =>
    obtain ⟨earlier,-,below⟩ := List.pairwise_append.mp ordered
    have before := ih earlier
    unfold journalHead at before ⊢
    rw [List.foldl_append,before,List.getLast?_concat]
    cases last : journal.getLast? with
    | none => rfl
    | some best =>
      have less := below best (List.mem_of_getLast? last) row (by simp)
      simp [less]

theorem Committed.ordered {currentVersion replacementVersion : Nat} {currentFingerprint replacementFingerprint : Sha256Digest}
    {before later : Tables Row} {report : MasterKeyRotationReport}
    (committed : Committed currentVersion currentFingerprint replacementVersion replacementFingerprint before later report)
    (ordered : Ordered before.journal) : Ordered later.journal := by
  obtain ⟨row,appended,-,-,-,above⟩ := committed.recorded
  rw [appended]
  apply List.pairwise_append.mpr
  exact ⟨ordered,List.pairwise_singleton _ _,fun other inside last now => List.mem_singleton.mp now ▸ above other inside⟩

theorem run_ordered (empty : start.journal = []) (turns : List (Turn Row)) : Ordered (after start turns).journal := by
  induction turns using List.reverseRecOn with
  | nil =>
    change Ordered start.journal
    rw [empty]
    exact .nil
  | append_singleton turns turn ih =>
    rw [after_concat]
    rcases serve_cases turn (after start turns) with same | ⟨_,_,_,_,_,-,-,committed⟩
    · rw [same]
      exact ih
    · exact committed.ordered ih

end

structure Chained (journal : List RotationRow) : Prop where
  first : ∀ row,journal.head? = some row → row.fromVersion = 1
  linked : journal.IsChain fun a b => b.fromVersion = a.toVersion ∧ b.fromFingerprint = a.toFingerprint
  upward : ∀ row ∈ journal,row.fromVersion < row.toVersion
  rising : journal.Pairwise fun a b => a.toVersion < b.toVersion

def Starts (t : Tables Row) (turn : Turn Row) : Prop :=
  ∀ currentVersion currentFingerprint replacementVersion replacementFingerprint,
    turn.call = .rotate currentVersion currentFingerprint replacementVersion replacementFingerprint false →
      t.journal = [] → currentVersion = 1

section
variable {start t : Tables Row} {currentVersion replacementVersion : Nat}
  {currentFingerprint replacementFingerprint : Sha256Digest} {later : Tables Row} {report : MasterKeyRotationReport}

theorem matched (current : headMismatch currentVersion currentFingerprint (some head) = false) :
    head = (currentVersion,currentFingerprint) := by
  obtain ⟨version,fingerprint⟩ := head
  simpa [headMismatch] using current

theorem Committed.chained (committed : Committed currentVersion currentFingerprint replacementVersion
    replacementFingerprint t later report) (ordered : Ordered t.journal) (starts : t.journal = [] → currentVersion = 1)
    (chained : Chained t.journal) : Chained later.journal := by
  obtain ⟨row,appended,⟨from_,fromKey⟩,⟨to_,toKey⟩,-,-⟩ := committed.recorded
  have current := committed.current
  rw [active,head_last ordered] at current
  have linked : ∀ last ∈ t.journal.getLast?,last.toVersion = currentVersion ∧ last.toFingerprint = currentFingerprint := by
    intro last found
    rw [Option.mem_def.mp found] at current
    exact Prod.mk.inj (matched current)
  have below : ∀ other ∈ t.journal,other.toVersion < replacementVersion := by
    intro other inside
    obtain ⟨last,found⟩ := Option.ne_none_iff_exists'.mp (mt List.getLast?_eq_none_iff.mp (List.ne_nil_of_mem inside))
    have highest : other.toVersion ≤ last.toVersion := by
      obtain ⟨earlier,same⟩ := List.getLast?_eq_some_iff.mp found
      have rising := chained.rising
      rw [same] at inside rising
      rcases List.mem_append.mp inside with before | now
      · exact Nat.le_of_lt ((List.pairwise_append.mp rising).2.2 other before last (by simp))
      · exact (List.mem_singleton.mp now ▸ Nat.le_refl _)
    have reached := (linked last found).1
    have upward := committed.rising.2
    omega
  rw [appended]
  constructor
  · intro first found
    cases earlier : t.journal with
    | nil =>
      rw [earlier] at found
      cases found
      rw [from_,starts earlier]
    | cons one rest =>
      rw [earlier] at found
      cases found
      exact chained.first first (by rw [earlier]; rfl)
  · apply List.isChain_append.mpr
    refine ⟨chained.linked,.singleton _,?_⟩
    intro last found next same
    cases same
    rw [from_,fromKey,(linked last found).1,(linked last found).2]
    exact ⟨rfl,rfl⟩
  · intro other inside
    rcases List.mem_append.mp inside with before | now
    · exact chained.upward other before
    · cases List.mem_singleton.mp now
      rw [from_,to_]
      exact committed.rising.2
  · apply List.pairwise_append.mpr
    refine ⟨chained.rising,List.pairwise_singleton _ _,?_⟩
    intro other inside last now
    cases List.mem_singleton.mp now
    rw [to_]
    exact below other inside

theorem Committed.verifies (committed : Committed currentVersion currentFingerprint replacementVersion
    replacementFingerprint t later report) (ordered : Ordered t.journal) (starts : t.journal = [] → currentVersion = 1) :
    Verifies t currentVersion currentFingerprint := by
  have current := committed.current
  have positive := committed.rising.1
  rw [verifies_iff]
  refine ⟨by omega,?_⟩
  cases head : active t.journal with
  | none =>
    have empty : t.journal = [] := by
      rwa [active,Option.map_eq_none_iff,head_last ordered,List.getLast?_eq_none_iff] at head
    rw [starts empty]
    rfl
  | some head_ =>
    rw [head] at current
    rw [matched current]
    simp [activeVersion]

end

def Throughout (suits : Tables Row → Turn Row → Prop) (start : Tables Row) (turns : List (Turn Row)) : Prop :=
  ∀ before turn rest,turns = before ++ turn :: rest → suits (after start before) turn

section
variable {suits : Tables Row → Turn Row → Prop} {start : Tables Row} {turns : List (Turn Row)} {turn : Turn Row}

theorem Throughout.earlier (all : Throughout suits start (turns ++ more)) : Throughout suits start turns := by
  intro before turn rest split
  exact all before turn (rest ++ more) (by simp [split])

theorem Throughout.last (all : Throughout suits start (turns ++ [turn])) : suits (after start turns) turn :=
  all turns turn [] rfl

theorem run_chained (empty : start.journal = []) (starts : Throughout Starts start turns) :
    Chained (after start turns).journal := by
  induction turns using List.reverseRecOn with
  | nil =>
    change Chained start.journal
    rw [empty]
    exact ⟨by simp,.nil,by simp,.nil⟩
  | append_singleton turns turn ih =>
    rw [after_concat]
    rcases serve_cases turn (after start turns) with same | ⟨_,_,_,_,_,asked,-,committed⟩
    · rw [same]
      exact ih starts.earlier
    · exact committed.chained (run_ordered empty turns) (starts.last _ _ _ _ asked) (ih starts.earlier)

end

theorem rotations_chained {start : Tables Row} (empty : start.journal = []) {turns : List (Turn Row)}
    (starts : Throughout Starts start turns) :
    Chained (after start turns).journal ∧ Ordered (after start turns).journal ∧
    ∀ before turn rest currentVersion currentFingerprint replacementVersion replacementFingerprint dryRun,
      turns = before ++ turn :: rest →
      turn.call = .rotate currentVersion currentFingerprint replacementVersion replacementFingerprint dryRun →
        (dryRun = true ∨ ∃ e,(turn.serve (after start before)).1 = .error e) ∧
          (turn.serve (after start before)).2 = after start before ∨
        dryRun = false ∧ ∃ report,(turn.serve (after start before)).1 = .ok (some report) ∧
          Verifies (after start before) currentVersion currentFingerprint ∧
          Committed currentVersion currentFingerprint replacementVersion replacementFingerprint (after start before)
            (turn.serve (after start before)).2 report := by
  refine ⟨run_chained empty starts,run_ordered empty turns,?_⟩
  intro before turn rest currentVersion currentFingerprint replacementVersion replacementFingerprint dryRun split asked
  have suits := starts before turn rest split
  unfold Turn.serve
  rw [asked]
  rcases rotate_outcome turn.lease currentVersion currentFingerprint replacementVersion replacementFingerprint dryRun
    (after start before) turn.verdicts with ⟨dry | ⟨e,failed⟩,kept⟩ | ⟨rfl,report,done,committed⟩
  · exact .inl ⟨.inl dry,kept⟩
  · exact .inl ⟨.inr ⟨e,congrArg (Except.map some) failed⟩,kept⟩
  · exact .inr ⟨rfl,report,congrArg (Except.map some) done,
      committed.verifies (run_ordered empty before) (suits _ _ _ _ asked),committed⟩

def demoStart : Tables Unit := ⟨fun _ => [],[]⟩

def demoRotate (currentVersion : Nat) (currentFingerprint : Sha256Digest) (replacementVersion : Nat)
    (replacementFingerprint : Sha256Digest) : Turn Unit :=
  ⟨.ok (),[],.rotate currentVersion currentFingerprint replacementVersion replacementFingerprint false⟩

def demoVerify (version : Nat) (fingerprint : Sha256Digest) : Turn Unit := ⟨.ok (),[],.verifyActive version fingerprint⟩

theorem unstarted_committed : (∃ report,((demoRotate 5 10 6 11).serve demoStart).1 = .ok (some report)) ∧
    ¬Verifies demoStart 5 10 ∧ ¬Chained ((demoRotate 5 10 6 11).serve demoStart).2.journal := by
  refine ⟨⟨_,rfl⟩,?_,?_⟩
  · intro verified
    have answered := (verifies_iff.mp verified).2
    revert answered
    decide
  · intro chained
    have first : ((demoRotate 5 10 6 11).serve demoStart).2.journal.head?.map RotationRow.fromVersion = some 5 := by
      decide
    cases head : ((demoRotate 5 10 6 11).serve demoStart).2.journal.head? with
    | none =>
      rw [head] at first
      cases first
    | some row =>
      rw [head] at first
      have one := chained.first row head
      rw [Option.map_some,one] at first
      cases first

theorem rotations_chained_pair : Chained (after demoStart [demoRotate 1 10 2 11,demoRotate 2 11 4 12]).journal ∧
    (after demoStart [demoRotate 1 10 2 11,demoRotate 2 11 4 12]).journal.map RotationRow.toVersion = [2,4] := by
  have starts : Throughout Starts demoStart [demoRotate 1 10 2 11,demoRotate 2 11 4 12] := by
    intro before turn rest split
    cases before with
    | nil =>
      cases split
      intro _ _ _ _ asked _
      cases asked
      rfl
    | cons one before =>
      intro _ _ _ _ asked bare
      obtain ⟨rfl,split⟩ := List.cons.inj split
      cases before with
      | nil => cases bare
      | cons two before =>
        have short := congrArg List.length split
        simp at short
  exact ⟨(rotations_chained rfl starts).1,by decide⟩

end OpenProof.MasterKeyChains
