import OpenProof.CallLogs
import OpenProof.AuthenticationTraces

namespace OpenProof.AuthenticationRuns
open AtomicPrograms CallTraces CallLogs Foundation AuthenticationTransactions ExternalIdentities
open AuthenticationWorld AuthenticationService AuthenticationTraces Identities

-- What the calls on one transaction store come back with.
inductive Reply where
  | authenticated (v : VerifiedAuthentication)
  | connected (external : ExternalIdentityRef)
  | started (start : AuthenticationStart)
  | other

def completing (a : Authenticator) (transactionId : TransactionId) (continuationToken : Text) (binding : BindingDigest)
    (response : AuthenticationResponse) : AuthCall Reply :=
  (complete a transactionId continuationToken binding response).bind fun v => .ret (.authenticated v)

def starting (a : Authenticator) (request : AuthenticationRequest) (binding : BindingDigest) (correlation : Text)
    (connectionTarget : Option IdentityId) : AuthCall Reply :=
  (beginInternal a request binding correlation connectionTarget).bind fun start => .ret (.started start)

def stage (sha256 : Text → Result Sha256Digest) : Stage AuthOp AuthOp.Ret AuthState where
  exec := exec sha256
  drift before after := after.transactions = before.transactions

abbrev AuthFloor := Floor AuthOp AuthOp.Ret Error Reply AuthState
abbrev AuthEntry := Entry AuthOp AuthOp.Ret AuthState

def Consumes (id : TransactionId) (exchange : Exchange AuthOp AuthOp.Ret) : Prop :=
  ∃ presentedNonce presentedBinding now transaction,
    exchange = ⟨.consume id presentedNonce presentedBinding now,.ok transaction⟩

def Brings (id : TransactionId) (exchange : Exchange AuthOp AuthOp.Ret) (transaction : AuthenticationTransaction) :
    Prop := transaction.id = id ∧ exchange = ⟨.begin_ transaction,.ok ()⟩

def Begins (id : TransactionId) (exchange : Exchange AuthOp AuthOp.Ret) : Prop :=
  ∃ transaction,Brings id exchange transaction

section
variable {sha256 : Text → Result Sha256Digest}

theorem consumed_once (id : TransactionId) : Once (stage sha256) (Consumes id) (Begins id)
    fun w => Settled id w.transactions where
  spends op w taken := by
    obtain ⟨presentedNonce,presentedBinding,now,transaction,same⟩ := taken
    obtain ⟨rfl,answer⟩ := Sigma.mk.inj same
    exact settled_of_redeemed (eq_of_heq answer)
  lasts op w settled unrenewed := by
    cases op with
    | begin_ transaction =>
      apply settled_begin settled
      intro done same
      exact unrenewed ⟨transaction,same,congrArg (Sigma.mk (AuthOp.begin_ transaction)) done⟩
    | consume other presentedNonce presentedBinding now => exact settled_consume settled
    | purgeExpired now => exact settled_purge settled
    | _ => exact settled
  still w w' same settled := by
    rw [show w'.transactions = w.transactions from same]
    exact settled

def Waits (id : TransactionId) (w : AuthState) (transaction : AuthenticationTransaction) : Prop :=
  w.transactions[id]? = some transaction ∧ transaction.state = .pending

theorem begun_waits (id : TransactionId) : Stocked (stage sha256) (Brings id) (Waits id) where
  brought op w transaction waits := by
    obtain ⟨found,pending⟩ := waits
    cases op with
    | begin_ begun =>
      rcases found_begun found with old | ⟨rfl,same,done⟩
      · exact .inl ⟨old,pending⟩
      · exact .inr ⟨same,congrArg (Sigma.mk (AuthOp.begin_ begun)) done⟩
    | consume other presentedNonce presentedBinding now => exact .inl ⟨found_consumed found pending,pending⟩
    | purgeExpired now => exact .inl ⟨found_purged found,pending⟩
    | _ => exact .inl ⟨found,pending⟩
  still w w' transaction same waits := by
    rw [Waits,show w'.transactions = w.transactions from same] at waits
    exact waits

end

structure Completion where
  stored : AuthenticationTransaction
  now : Instant
  operator : AssuranceLevel
  declared : AssuranceLevel
  completedAt : Instant
  looked : AuthEntry
  redemption : AuthEntry
  declaration : AuthEntry
  verification : AuthEntry
  finish : AuthEntry
  resolution : AuthEntry
  checks : List AuthEntry

def Completion.entries (m : Completion) : List AuthEntry :=
  [m.looked,m.redemption,m.declaration,m.verification,m.finish,m.resolution] ++ m.checks

-- The transaction behind an authentication: it waited, in time, for the token and the
-- agent that were shown, and somebody had begun it.
structure RedeemedIn (sha256 : Text → Result Sha256Digest) (transactionId : TransactionId) (continuationToken : Text)
    (binding : BindingDigest) (initial : AuthState) (log : List AuthEntry) (m : Completion) : Prop where
  looked : m.looked.exchange = ⟨.now,m.now⟩
  found : m.redemption.found.transactions[transactionId]? = some m.stored
  redeemed : m.redemption.exchange =
    ⟨.consume transactionId continuationToken binding m.now,.ok { m.stored with state := .consumed }⟩
  pending : m.stored.state = .pending
  unexpired : m.now < m.stored.expiresAt
  nonce : sha256 continuationToken = .ok m.stored.nonceDigest
  binding : binding = m.stored.binding
  begun : initial.transactions[transactionId]? = some m.stored ∨
    ∃ entry,[entry,m.redemption].Sublist log ∧ Brings transactionId entry.exchange m.stored

structure Verified (a : Authenticator) (response : AuthenticationResponse) (outcome : AuthenticationOutcome)
    (m : Completion) : Prop where
  challenge : m.stored.metadata[kChallengeIdMetadata]? = some response.challengeId.value
  provider : outcome.provider = m.stored.provider
  answered : m.verification.exchange =
    ⟨.completeAuthentication m.stored.provider response,.returned (.ok outcome)⟩
  configured : a.trustPolicy.maximumFor m.stored.provider = some m.operator
  declared : m.declaration.exchange = ⟨.maximumClaimableAssurance m.stored.provider,m.declared⟩
  capped : outcome.claimedAssurance.rank ≤ min m.declared.rank m.operator.rank
  requested : ∀ requested,m.stored.metadata[kRequestedAssuranceMetadata]? = some requested →
    ∃ level,parseAssurance requested = some level ∧ level.rank ≤ outcome.claimedAssurance.rank
  finished : m.finish.exchange = ⟨.now,m.completedAt⟩
  window : m.stored.createdAt ≤ outcome.verifiedAt ∧ outcome.verifiedAt ≤ m.completedAt

structure Owned (sha256 : Text → Result Sha256Digest) (a : Authenticator) (key : ExternalKey) (identity : IdentityId)
    (m : Completion) : Prop where
  resolved : Resolves key identity m.resolution.exchange
  owner : (exec sha256 m.resolution.exchange.1 m.resolution.found).2.directory.owners[key]? = some identity
  admitted : Admits a identity (m.checks.map Entry.exchange)
  active : ∀ check ∈ m.checks,∃ record,
    check.found.identities.findById a.organization identity = some record ∧ record.canAuthenticate = true

def Meets (floor : AuthFloor) (outcome : AuthenticationOutcome) (m : Completion) : Prop :=
  ∀ entry ∈ floor.log,entry.exchange = ⟨.begin_ m.stored,.ok ()⟩ →
    ∀ a request binding correlation connectionTarget rest,
      floor.members[entry.caller]? = some ⟨starting a request binding correlation connectionTarget,rest⟩ →
        connectionTarget = none ∧ request.provider = outcome.provider ∧
          ∀ level,request.requestedAssurance = some level → level.rank ≤ outcome.claimedAssurance.rank

section
variable {α : Type} {sha256 : Text → Result Sha256Digest} {initial : AuthState}
  {floor : Floor AuthOp AuthOp.Ret Error α AuthState} {entry : AuthEntry} {transactionId : TransactionId}
  {continuationToken : Text} {binding : BindingDigest}

theorem redemption_found (played : Plays (stage sha256) initial floor) (inside : entry ∈ floor.log)
    (redeemed : entry.exchange = ⟨.consume transactionId continuationToken binding now,.ok transaction⟩) :
    ∃ stored,entry.found.transactions[transactionId]? = some stored ∧
      Redeemed (sha256 continuationToken) binding now stored transaction := by
  have answered := played.answered entry inside
  obtain ⟨caller,found,exchange⟩ := entry
  cases redeemed
  exact store_consume_redeems answered.symm

theorem waiting_begun (played : Plays (stage sha256) initial floor) (inside : entry ∈ floor.log)
    (waits : Waits transactionId entry.found stored) : initial.transactions[transactionId]? = some stored ∨
      ∃ earlier,[earlier,entry].Sublist floor.log ∧ Brings transactionId earlier.exchange stored := by
  obtain ⟨first,rest,split⟩ := List.append_of_mem inside
  rcases (begun_waits transactionId).before played first entry rest split waits with old | ⟨earlier,member,brought⟩
  · exact .inl old.1
  · refine .inr ⟨earlier,?_,brought⟩
    rw [split]
    exact (List.singleton_sublist.mpr member).append (.cons_cons _ (List.nil_sublist rest))

end

section
variable {sha256 : Text → Result Sha256Digest} {initial : AuthState} {floor : AuthFloor} {entry : AuthEntry}
  {a : Authenticator} {transactionId : TransactionId} {continuationToken : Text} {binding : BindingDigest}
  {response : AuthenticationResponse}

theorem resolves_owner (resolves : Resolves key identity ⟨op,(exec sha256 op w).1⟩) :
    (exec sha256 op w).2.directory.owners[key]? = some identity := by
  generalize shape : (⟨op,(exec sha256 op w).1⟩ : Exchange AuthOp AuthOp.Ret) = step at resolves
  cases resolves with
  | known same =>
    cases same
    cases (Sigma.mk.inj shape).1
    have answered := eq_of_heq (Sigma.mk.inj shape).2
    exact Except.ok.inj answered
  | attached owner same =>
    cases same
    cases owner
    cases (Sigma.mk.inj shape).1
    exact Directory.attach_owner (eq_of_heq (Sigma.mk.inj shape).2)

theorem resolution_owner (played : Plays (stage sha256) initial floor) (inside : entry ∈ floor.log)
    (resolves : Resolves key identity entry.exchange) :
    (exec sha256 entry.exchange.1 entry.found).2.directory.owners[key]? = some identity := by
  have answered := played.answered entry inside
  obtain ⟨caller,found,⟨op,answer⟩⟩ := entry
  have answered : answer = (exec sha256 op found).1 := answered
  subst answered
  exact resolves_owner resolves

theorem check_active {checked : List AuthEntry} (played : Plays (stage sha256) initial floor)
    (inside : ∀ check ∈ checked,check ∈ floor.log) (admits : Admits a identity (checked.map Entry.exchange)) :
    ∀ check ∈ checked,∃ record,
      check.found.identities.findById a.organization identity = some record ∧ record.canAuthenticate = true := by
  intro check member
  have among : check.exchange ∈ checked.map Entry.exchange := List.mem_map_of_mem member
  have answered := played.answered check (inside check member)
  generalize checked.map Entry.exchange = trace at admits among
  obtain ⟨caller,found,exchange⟩ := check
  cases admits with
  | ungated absent => cases among
  | @active record active =>
    cases List.mem_singleton.mp among
    exact ⟨record,(Except.ok.inj answered).symm,active⟩

theorem completing_yields : Yields (completing a transactionId continuationToken binding response)
    fun trace reply => ∀ v,reply = .authenticated v → ∃ c resolution checks,Sound a response false v.outcome c ∧
      Resolves ⟨v.outcome.provider,v.outcome.subject⟩ v.identity resolution ∧ Admits a v.identity checks ∧
      (c.steps transactionId continuationToken binding response v.outcome ++ resolution :: checks).Sublist trace := by
  refine .bind complete_yields fun trace v known => .ret ?_
  intro w same
  cases same
  rw [List.append_nil]
  exact known

theorem starting_only :
    (starting a request binding correlation connectionTarget).Only (Records request connectionTarget) :=
  beginInternal_only.bind fun _ => trivial

theorem started_meets (played : Plays (stage sha256) initial floor)
    (honoured : Honoured m.stored maximum completedAt false outcome) : Meets floor outcome m := by
  intro entry inside brought b request shown correlation connectionTarget rest member
  have recorded := played.only member starting_only entry inside rfl
  rw [brought] at recorded
  refine ⟨?_,recorded.provider.symm.trans honoured.provider.symm,?_⟩
  · have purpose := honoured.purpose
    rw [recorded.target] at purpose
    simpa using purpose
  · intro level asked
    have stored : m.stored.metadata[kRequestedAssuranceMetadata]? = some (Identities.assuranceLevelName level) := by
      rw [recorded.requested,asked,Option.map_some]
    obtain ⟨parsed,same,enough⟩ := honoured.requested _ stored
    rw [parseAssurance_name] at same
    cases same
    exact enough

theorem entries_split {c : Ceremony} {entries : List AuthEntry} (same : entries.map Entry.exchange =
      c.steps transactionId continuationToken binding response outcome ++ resolution :: checks) :
    ∃ looked redemption declaration verification finish,∃ resolved : AuthEntry,∃ checked,
      entries = [looked,redemption,declaration,verification,finish,resolved] ++ checked ∧
      looked.exchange = ⟨.now,c.now⟩ ∧
      redemption.exchange = ⟨.consume transactionId continuationToken binding c.now,.ok c.transaction⟩ ∧
      declaration.exchange = ⟨.maximumClaimableAssurance c.transaction.provider,c.declared⟩ ∧
      verification.exchange = ⟨.completeAuthentication c.transaction.provider response,.returned (.ok outcome)⟩ ∧
      finish.exchange = ⟨.now,c.completedAt⟩ ∧ resolved.exchange = resolution ∧
      checked.map Entry.exchange = checks := by
  simp only [Ceremony.steps,Ceremony.verification,List.cons_append,List.nil_append,List.map_eq_cons_iff] at same
  obtain ⟨looked,_,rfl,one,redemption,_,rfl,two,declaration,_,rfl,three,verification,_,rfl,four,finish,_,rfl,five,
    resolved,checked,rfl,six,seven⟩ := same
  exact ⟨looked,redemption,declaration,verification,finish,resolved,checked,rfl,one,two,three,four,five,six,seven⟩

end

-- Calls of every kind take their turns over one store of transactions. A transaction
-- is redeemed at most once, unless its identifier is begun again; and what a sign-in
-- returns has been redeemed, verified and resolved on the way.
theorem completions_vouched {sha256 : Text → Result Sha256Digest} {initial : AuthState} {floor : AuthFloor}
    (played : Plays (stage sha256) initial floor) :
    (∀ id before (one : Entry _ _ _) (between : List (Entry _ _ _)) (two : Entry _ _ _) after,floor.log = before ++ one :: (between ++ two :: after) →
      Consumes id one.exchange → Consumes id two.exchange → ∃ entry ∈ between,Begins id entry.exchange) ∧
    ∀ (i : Nat) a transactionId continuationToken binding response v,
      floor.members[i]? = some ⟨completing a transactionId continuationToken binding response,.ret (.authenticated v)⟩ →
        ∃ m : Completion,m.entries.Sublist floor.log ∧ (∀ entry ∈ m.entries,entry.caller = i) ∧
          RedeemedIn sha256 transactionId continuationToken binding initial floor.log m ∧
          Verified a response v.outcome m ∧ Meets floor v.outcome m ∧
          Owned sha256 a ⟨v.outcome.provider,v.outcome.subject⟩ v.identity m := by
  refine ⟨fun id => (consumed_once id).twice played,?_⟩
  intro i a transactionId continuationToken binding response v finished
  obtain ⟨c,resolution,checks,sound,resolves,admits,steps⟩ := completing_yields _ _ (played.returned finished) v rfl
  obtain ⟨entries,told,mine,same⟩ := sublist_own steps
  obtain ⟨looked,redemption,declaration,verification,finish,resolved,checked,rfl,one,two,three,four,five,rfl,rfl⟩ :=
    entries_split same
  obtain ⟨stored,found,redeemed⟩ := redemption_found played (told.subset (by simp)) two
  obtain ⟨now,transaction,operator,declared,completedAt⟩ := c
  cases redeemed.consumed
  have honoured : Honoured stored (lower operator declared) completedAt false v.outcome :=
    ⟨sound.honoured.provider,sound.honoured.capped,sound.honoured.requested,sound.honoured.started,
      sound.honoured.finished,sound.honoured.purpose⟩
  let m : Completion := ⟨stored,now,operator,declared,completedAt,looked,redemption,declaration,verification,finish,
    resolved,checked⟩
  have inside : ∀ entry ∈ m.entries,entry ∈ floor.log := fun entry member => told.subset member
  refine ⟨m,told,mine,?_,?_,started_meets played honoured,?_⟩
  · exact ⟨one,found,two,redeemed.pending,redeemed.alive,redeemed.nonce,redeemed.binding,
      waiting_begun played (inside redemption (by simp [m,Completion.entries])) ⟨found,redeemed.pending⟩⟩
  · refine ⟨sound.challenge,honoured.provider,four,sound.operator,three,?_,honoured.requested,five,
      honoured.started,honoured.finished⟩
    have capped := honoured.capped
    rwa [lower_rank,min_comm] at capped
  · refine ⟨resolves,resolution_owner played (inside resolved (by simp [m,Completion.entries])) resolves,admits,
      check_active played (fun check member => inside check (List.mem_append_right _ member)) admits⟩

def demoProvider : AuthenticationProvider where
  interactionModel := .redirect
  maximumClaimableAssurance := .ial2
  beginAuthentication _ := .returned (.ok ⟨⟨"c"⟩,1000,∅⟩)
  completeAuthentication _ :=
    .returned (.ok ⟨⟨"mail"⟩,⟨"ann"⟩,⟨∅⟩,.ial1,⟨Identities.AuthenticationFactor.knowledge,false⟩,∅,5,⟨by decide,by decide⟩⟩)

def demoSha256 (text : Text) : Result Sha256Digest := .ok (BitVec.ofNat 256 text.length)

def demoAuthenticator : Authenticator where
  trustPolicy := ⟨Std.ExtTreeMap.insert ∅ ⟨"mail"⟩ .ial3,Std.ExtTreeMap.insert ∅ ⟨"mail"⟩ true⟩
  maximumTransactionLifetime := 600
  lifecycleRepository := true
  organization := ⟨"org"⟩
  profileRepository := true
  sha256 := demoSha256
  positive := by decide

def demoWorld : AuthState where
  clock := 5
  randomness _ := .ok "token"
  providers id := if id = ⟨"mail"⟩ then some demoProvider else none
  transactions := ∅
  directory := ⟨∅,∅⟩
  identities := ∅
  profiles := ∅

def demoRequest : AuthenticationRequest := ⟨⟨"mail"⟩,⟨[],[]⟩,some .ial1,∅⟩

def demoStart : AuthCall Reply := starting demoAuthenticator demoRequest 0 "flow" none

def demoResponse : AuthenticationResponse := ⟨⟨"c"⟩,⟨[],[]⟩,∅⟩

def demoCompletion : AuthCall Reply := completing demoAuthenticator ⟨"token"⟩ "token" 0 demoResponse

def demoBegun : AuthState := (demoStart.run (exec demoSha256) demoWorld).2

theorem completing_returns {sha256 : Text → Result Sha256Digest} {a : Authenticator} {transactionId : TransactionId}
    {continuationToken : Text} {binding : BindingDigest} {response : AuthenticationResponse}
    (done : ((completing a transactionId continuationToken binding response).run (exec sha256) w).1.isOk = true) :
    ∃ v,((completing a transactionId continuationToken binding response).run (exec sha256) w).1 =
      .ok (.authenticated v) := by
  unfold completing at done ⊢
  rw [Prog.run_bind] at done ⊢
  split at done
  · rename_i v later ran
    exact ⟨v,rfl⟩
  · cases done

theorem completions_vouched_newcomer : ∃ (floor : AuthFloor) (v : VerifiedAuthentication) (m : Completion),
    floor.members[1]? = some ⟨demoCompletion,.ret (.authenticated v)⟩ ∧ m.entries.Sublist floor.log ∧
      RedeemedIn demoSha256 ⟨"token"⟩ "token" 0 demoWorld floor.log m ∧
      Verified demoAuthenticator demoResponse v.outcome m ∧ Meets floor v.outcome m ∧
      Owned demoSha256 demoAuthenticator ⟨v.outcome.provider,v.outcome.subject⟩ v.identity m := by
  have opened : Plays (stage demoSha256) demoWorld (⟨demoWorld,[],[]⟩ : AuthFloor) := .start
  have begun := (opened.move (.enter demoStart)).finish (i:=0) demoStart rfl
  have ended := (begun.move (.enter demoCompletion)).finish (i:=1) demoCompletion rfl
  obtain ⟨v,returned⟩ := completing_returns (show (demoCompletion.run (exec demoSha256) demoBegun).1.isOk = true by
    decide)
  have finished := congrArg (fun r => some (Member.mk demoCompletion (settled r))) returned
  obtain ⟨m,told,mine,redeemed,verified,meets,owned⟩ := (completions_vouched ended).2 1 _ _ _ _ _ v finished
  refine ⟨_,v,m,?_,told,redeemed,verified,meets,owned⟩
  exact finished

end OpenProof.AuthenticationRuns
