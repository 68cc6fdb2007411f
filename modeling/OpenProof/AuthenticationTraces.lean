import OpenProof.CallTraces
import OpenProof.AuthenticationService

namespace OpenProof.AuthenticationTraces
open AtomicPrograms CallTraces Foundation AuthenticationTransactions ExternalIdentities Option
open AuthenticationWorld AuthenticationService Identities

abbrev AuthTrace := List (Exchange AuthOp AuthOp.Ret)

structure Honoured (transaction : AuthenticationTransaction) (maximum : AssuranceLevel) (completedAt : Instant)
    (requireConnection : Bool) (outcome : AuthenticationOutcome) : Prop where
  provider : outcome.provider = transaction.provider
  capped : outcome.claimedAssurance.rank ≤ maximum.rank
  requested : ∀ requested,transaction.metadata[kRequestedAssuranceMetadata]? = some requested →
    ∃ level,parseAssurance requested = some level ∧ level.rank ≤ outcome.claimedAssurance.rank
  started : transaction.createdAt ≤ outcome.verifiedAt
  finished : outcome.verifiedAt ≤ completedAt
  purpose : transaction.metadata[kConnectionIdentityMetadata]?.isSome = requireConnection

structure Ceremony where
  now : Instant
  transaction : AuthenticationTransaction
  operator : AssuranceLevel
  declared : AssuranceLevel
  completedAt : Instant

def connectionTargetOf (transaction : AuthenticationTransaction) : Option IdentityId :=
  transaction.metadata[kConnectionIdentityMetadata]?.map StrongId.mk

structure Sound (a : Authenticator) (response : AuthenticationResponse) (requireConnection : Bool)
    (outcome : AuthenticationOutcome) (c : Ceremony) : Prop where
  challenge : c.transaction.metadata[kChallengeIdMetadata]? = some response.challengeId.value
  operator : a.trustPolicy.maximumFor c.transaction.provider = some c.operator
  honoured : Honoured c.transaction (lower c.operator c.declared) c.completedAt requireConnection outcome

def Ceremony.verification (c : Ceremony) (response : AuthenticationResponse) (outcome : AuthenticationOutcome) :
    AuthTrace :=
  [⟨.maximumClaimableAssurance c.transaction.provider,c.declared⟩,
    ⟨.completeAuthentication c.transaction.provider response,.returned (.ok outcome)⟩,⟨.now,c.completedAt⟩]

def Ceremony.steps (c : Ceremony) (transactionId : TransactionId) (continuationToken : Text) (binding : BindingDigest)
    (response : AuthenticationResponse) (outcome : AuthenticationOutcome) : AuthTrace :=
  [⟨.now,c.now⟩,⟨.consume transactionId continuationToken binding c.now,.ok c.transaction⟩] ++
    c.verification response outcome

inductive Resolves (key : ExternalKey) (identity : IdentityId) : Exchange AuthOp AuthOp.Ret → Prop where
  | known {external : ExternalIdentityRef} (same : external.key = key) :
      Resolves key identity ⟨.ownerOf external,.ok (some identity)⟩
  | attached {link : IdentityLink} (owner : link.owner = identity) (same : link.external.key = key) :
      Resolves key identity ⟨.attach link,.ok ()⟩

inductive Admits (a : Authenticator) (identity : IdentityId) : AuthTrace → Prop where
  | ungated (absent : a.lifecycleRepository = false) : Admits a identity []
  | active {record : Identities.Identity} (active : record.canAuthenticate = true) :
      Admits a identity [⟨.findById a.organization identity,.ok (some record)⟩]

theorem lower_rank (one two : AssuranceLevel) : (lower one two).rank = min one.rank two.rank := by
  unfold lower
  split <;> omega

section
variable {a : Authenticator} {transaction : AuthenticationTransaction} {outcome : AuthenticationOutcome}
  {requireConnection : Bool} {exchange : CompletedExchange} {response : AuthenticationResponse}
  {transactionId : TransactionId} {continuationToken : Text} {binding : BindingDigest}

theorem accepted_honours (accepted : accepted transaction maximum outcome requireConnection completedAt = .ok exchange) :
    exchange.outcome = outcome ∧ exchange.connectionTarget = connectionTargetOf transaction ∧
      Honoured transaction maximum completedAt requireConnection outcome := by
  obtain ⟨provider,accepted⟩ := passed accepted
  obtain ⟨capped,accepted⟩ := passed accepted
  obtain ⟨requested,accepted⟩ := passed accepted
  obtain ⟨window,accepted⟩ := passed accepted
  obtain ⟨purpose,accepted⟩ := passed accepted
  cases accepted
  simp only [Bool.or_eq_true,decide_eq_true_eq,not_or,Int.not_lt] at window
  simp only [ne_eq,Bool.or_eq_true,decide_eq_true_eq,not_or,not_not] at purpose
  refine ⟨rfl,rfl,not_not.mp provider,by simpa [meetsAssurance] using capped,?_,window.1,window.2,purpose.1⟩
  intro text stored
  rw [stored] at requested
  cases parsed : parseAssurance text with
  | none => simp [parsed] at requested
  | some level => exact ⟨level,rfl,by simpa [parsed,meetsAssurance] using requested⟩

theorem answered_spec (returned : answered answer = .ok outcome) : answer = .returned (.ok outcome) := by
  unfold answered at returned
  split at returned
  · cases returned
    rfl
  · cases returned
  · cases returned

theorem effectiveMaximum_yields :
    Yields (effectiveMaximum a providerId) fun trace found => ∀ maximum,found = some maximum →
      ∃ operator declared,a.trustPolicy.maximumFor providerId = some operator ∧ maximum = lower operator declared ∧
        trace = [⟨.maximumClaimableAssurance providerId,declared⟩] := by
  unfold effectiveMaximum
  split
  · exact .ret nofun
  · rename_i operator configured
    refine .ask fun declared => .ret ?_
    intro maximum same
    cases same
    exact ⟨operator,declared,configured,rfl,rfl⟩

theorem completeConsumed_yields : Yields (completeConsumed a transaction response requireConnection)
    fun trace exchange => ∃ c : Ceremony,c.now = now ∧ c.transaction = transaction ∧
      Sound a response requireConnection exchange.outcome c ∧
      exchange.connectionTarget = connectionTargetOf c.transaction ∧
      (c.verification response exchange.outcome).Sublist trace := by
  refine .refuseIf fun matching => .ask fun registered => .refuseIf fun _ => ?_
  refine .bind effectiveMaximum_yields fun first found capped => ?_
  cases found with
  | none => exact .fail
  | some maximum =>
    obtain ⟨operator,declared,configured,rfl,rfl⟩ := capped maximum rfl
    refine .ask fun answer => .check fun outcome returned => .ask fun completedAt => .checked ?_
    intro exchange accepted
    obtain ⟨rfl,target,honoured⟩ := accepted_honours accepted
    refine ⟨⟨now,transaction,operator,declared,completedAt⟩,rfl,rfl,⟨?_,configured,honoured⟩,target,?_⟩
    · simp only [Bool.not_eq_false'] at matching
      obtain ⟨expected,stored,same⟩ := (any_eq_true _ _).mp matching
      rw [stored,beq_iff_eq.mp same]
    · rw [answered_spec returned]
      exact .cons _ (.refl _)

theorem completeExchange_yields :
    Yields (completeExchange a transactionId continuationToken binding response requireConnection)
      fun trace exchange => ∃ c : Ceremony,Sound a response requireConnection exchange.outcome c ∧
        exchange.connectionTarget = connectionTargetOf c.transaction ∧
        (c.steps transactionId continuationToken binding response exchange.outcome).Sublist trace := by
  refine .ask fun now => .ask fun answer => .check fun transaction consumed => ?_
  cases consumed
  refine (@completeConsumed_yields a transaction requireConnection response now).mono fun trace exchange known => ?_
  obtain ⟨c,rfl,rfl,sound,target,inside⟩ := known
  exact ⟨c,sound,target,.cons_cons _ (.cons_cons _ inside)⟩

theorem request_spec (requested : IdentityLink.request identity external requestedAt lifetime = .ok link) :
    link.owner = identity ∧ link.external = external := by
  obtain ⟨_,requested⟩ := passed requested
  obtain ⟨_,requested⟩ := passed requested
  obtain ⟨_,requested⟩ := passed requested
  cases requested
  exact ⟨rfl,rfl⟩

theorem verifiedLink_spec (verified : verifiedLink identity external verifiedAt = .ok link) : link.owner = identity ∧ link.external = external := by
  obtain ⟨_,requested,further⟩ := bind_ok verified
  obtain ⟨_,required,further⟩ := bind_ok further
  obtain ⟨_,marked,completed⟩ := bind_ok further
  cases IdentityLink.transitionTo_spec completed
  cases IdentityLink.transitionTo_spec marked
  cases IdentityLink.transitionTo_spec required
  have same := request_spec requested
  exact same

def Resolved (external : ExternalIdentityRef) (trace : AuthTrace) (identity : IdentityId) : Prop :=
  ∃ step ∈ trace,Resolves external.key identity step

theorem Resolved.later (before : AuthTrace) (resolved : Resolved external trace identity) :
    Resolved external (before ++ trace) identity := by
  obtain ⟨step,inside,resolves⟩ := resolved
  exact ⟨step,List.mem_append_right before inside,resolves⟩

theorem Resolved.earlier (after : AuthTrace) (resolved : Resolved external trace identity) :
    Resolved external (trace ++ after) identity := by
  obtain ⟨step,inside,resolves⟩ := resolved
  exact ⟨step,List.mem_append_left after inside,resolves⟩

theorem attachVerified_yields :
    Yields (attachVerified identity external verifiedAt) fun trace _ => Resolved external trace identity := by
  refine .check fun link verified => .ask fun answer => .checked ?_
  intro done attached
  obtain ⟨owner,same⟩ := verifiedLink_spec verified
  refine ⟨_,List.mem_cons_self,?_⟩
  cases attached
  exact .attached owner (by rw [same])

theorem convergeOn_yields : Yields (convergeOn external completedAt candidates blocked) fun trace found =>
      ∀ identity,found = some identity → Resolved external trace identity := by
  refine .refuseIf fun _ => ?_
  cases candidates with
  | nil => exact .refuseIf fun _ => .ret nofun
  | cons first others =>
    refine .bind attachVerified_yields fun trace done resolved => .ret ?_
    intro identity same
    cases same
    exact resolved.earlier []

theorem converge_yields : Yields (converge a outcome external completedAt) fun trace found =>
    ∀ identity,found = some identity → Resolved external trace identity := by
  unfold converge
  split
  · split
    · exact .ret nofun
    · refine .ask fun answer => .check fun candidates _ => .bind .any fun counted tallied _ => ?_
      refine convergeOn_yields.mono fun trace found resolved identity same => ?_
      exact (resolved identity same).later (_ :: counted)
  · exact .ret nofun

theorem undoing_yields (holds : Yields step post) : Yields (undoing a identity step) post := by
  refine .bind holds.attempt fun trace result known => ?_
  cases result with
  | error e => exact .ask fun _ => .fail
  | ok done =>
    apply Yields.ret
    rw [List.append_nil]
    exact known done rfl

theorem provision_yields : Yields (provision a outcome external completedAt) (Resolved external) := by
  have attached : ∀ identity,Yields ((undoing a identity (attachVerified identity external completedAt)).bind
      fun _ => .ret identity) (Resolved external) := by
    intro identity
    refine .bind (undoing_yields attachVerified_yields) fun trace done resolved => .ret ?_
    exact resolved.earlier []
  refine .refuseIf fun _ => .ask fun answer => .check fun generated _ => .check fun canonical _ => .ask fun added =>
    .check fun _ _ => ?_
  split
  · refine .bind .any fun first done _ => ?_
    exact (attached _).mono fun trace identity resolved => resolved.later (_ :: _ :: first)
  · exact (attached _).mono fun trace identity resolved => resolved.later [_,_]

theorem resolveIdentity_yields : Yields (resolveIdentity a outcome external completedAt) (Resolved external) := by
  refine .ask fun answer => ?_
  cases answer with
  | error e => exact .fail
  | ok owner =>
    cases owner with
    | some owner => exact .ret ⟨_,List.mem_cons_self,.known rfl⟩
    | none =>
      refine .bind converge_yields fun first found converged => ?_
      cases found with
      | some identity => exact .ret (((converged identity rfl).earlier []).later [_])
      | none => exact provision_yields.mono fun trace identity resolved => resolved.later (_ :: first)

theorem requireActiveIdentity_yields :
    Yields (requireActiveIdentity a identity) fun trace _ => Admits a identity trace := by
  unfold requireActiveIdentity
  split
  · rename_i absent
    exact .ret (.ungated (by simpa using absent))
  · split
    · exact .fail
    · refine .ask fun canonical => ?_
      cases canonical with
      | error e => exact .fail
      | ok canonical =>
        cases canonical with
        | none => exact .fail
        | some record =>
          intro trace done path
          cases active : record.canAuthenticate with
          | true =>
            simp only [any_some,active] at path
            cases path
            exact .active active
          | false =>
            simp only [any_some,active] at path
            cases path

theorem complete_yields : Yields (complete a transactionId continuationToken binding response) fun trace v =>
    ∃ c resolution checks,Sound a response false v.outcome c ∧
      Resolves ⟨v.outcome.provider,v.outcome.subject⟩ v.identity resolution ∧ Admits a v.identity checks ∧
      (c.steps transactionId continuationToken binding response v.outcome ++ resolution :: checks).Sublist trace := by
  refine .bind completeExchange_yields fun first exchange sound => ?_
  obtain ⟨c,sound,-,ceremony⟩ := sound
  refine .bind resolveIdentity_yields fun second identity resolved => ?_
  obtain ⟨resolution,inside,resolves⟩ := resolved
  refine .bind requireActiveIdentity_yields fun checks done admits => ?_
  refine .ask fun updated => .check fun _ _ => .bind .any fun third _ _ => .ret ?_
  refine ⟨c,resolution,checks,sound,resolves,admits,ceremony.append ?_⟩
  exact (List.singleton_sublist.mpr inside).append (List.sublist_append_left checks _)

end

-- A transaction as the request it is begun for wants it.
structure Recorded (request : AuthenticationRequest) (connectionTarget : Option IdentityId)
    (transaction : AuthenticationTransaction) : Prop where
  provider : transaction.provider = request.provider
  pending : transaction.state = .pending
  requested : transaction.metadata[kRequestedAssuranceMetadata]? = request.requestedAssurance.map assuranceLevelName
  challenge : ∃ challenge : ChallengeId,transaction.metadata[kChallengeIdMetadata]? = some challenge.value
  target : transaction.metadata[kConnectionIdentityMetadata]? = connectionTarget.map StrongId.value

def Records (request : AuthenticationRequest) (connectionTarget : Option IdentityId) : AuthOp → Prop
  | .begin_ transaction => Recorded request connectionTarget transaction
  | _ => True

section
variable {a : Authenticator} {connectionTarget : Option IdentityId} {transaction : AuthenticationTransaction}
  {binding : BindingDigest}

theorem create_spec {id : TransactionId}
    (created : AuthenticationTransaction.create id provider model nonce nonceDigest binding correlation createdAt
      lifetime = .ok transaction) :
    transaction.provider = provider ∧ transaction.state = .pending ∧ transaction.metadata = ∅ := by
  obtain ⟨_,created⟩ := passed created
  obtain ⟨_,created⟩ := passed created
  obtain ⟨_,created⟩ := passed created
  split at created
  · cases created
  · split at created
    · cases created
    · cases created
      exact ⟨rfl,rfl,rfl⟩

theorem metadataOf_recorded (provider : transaction.provider = request.provider)
    (pending : transaction.state = .pending) (fresh : transaction.metadata = ∅) :
    Recorded request connectionTarget (metadataOf request challenge connectionTarget transaction) := by
  have apart : kRequestedAssuranceMetadata ≠ kChallengeIdMetadata ∧ kConnectionIdentityMetadata ≠ kChallengeIdMetadata ∧
      kConnectionIdentityMetadata ≠ kRequestedAssuranceMetadata := by decide
  obtain ⟨one,two,three⟩ := apart
  unfold metadataOf
  cases asked : request.requestedAssurance <;> cases connectionTarget <;> (
    refine ⟨provider,pending,?_,⟨challenge.id,?_⟩,?_⟩ <;>
    simp only [asked,fresh,elim_none,elim_some,AuthenticationTransaction.setMetadata,Map.find_insert,
      Std.ExtTreeMap.getElem?_empty,one,two,three,one.symm,two.symm,three.symm,if_true,if_false,map_none,
      map_some])

def Begun (P : AuthenticationTransaction → Prop) : AuthOp → Prop
  | .begin_ transaction => P transaction
  | _ => True

theorem effectiveMaximum_only (declared : P (.maximumClaimableAssurance providerId)) : (effectiveMaximum a providerId).Only P := by
  unfold effectiveMaximum
  split
  · trivial
  · exact .bind (.perform declared) fun _ => trivial

theorem beginInternal_begun
    (written : ∀ (challenge : AuthenticationChallenge) (transaction : AuthenticationTransaction),
      transaction.provider = request.provider → transaction.state = .pending → transaction.metadata = ∅ →
        P (metadataOf request challenge connectionTarget transaction)) :
    (beginInternal a request binding correlation connectionTarget).Only (Begun P) := by
  refine .bind (.perform trivial) fun registered => .bind (.refuseIf _ _ _) fun _ =>
    .bind (effectiveMaximum_only trivial) fun found => ?_
  cases found with
  | none => trivial
  | some maximum =>
    refine .bind (.refuseIf _ _ _) fun _ => .bind (.perform trivial) fun answer => .bind (.check _ _) fun challenge =>
      .bind (.perform trivial) fun now => .bind (.refuseIf _ _ _) fun _ => .bind (.perform trivial) fun generated =>
        .bind (.check _ _) fun id => .bind (.perform trivial) fun nonce => .bind (.check _ _) fun continuationToken =>
          .bind (.perform trivial) fun model => ?_
    cases created : AuthenticationTransaction.create ⟨id⟩ request.provider model continuationToken
        (a.sha256 continuationToken) binding correlation now
        (min (challenge.expiresAt - now) a.maximumTransactionLifetime) with
    | error e => trivial
    | ok transaction =>
      obtain ⟨provider,pending,fresh⟩ := create_spec created
      have allowed : Begun P (.begin_ (metadataOf request challenge connectionTarget transaction)) :=
        written challenge transaction provider pending fresh
      exact (Prog.Only.perform allowed).bind fun answer => .bind (.check _ _) fun _ => trivial

theorem beginInternal_only :
    (beginInternal a request binding correlation connectionTarget).Only (Records request connectionTarget) := by
  refine (beginInternal_begun fun challenge transaction => metadataOf_recorded).weaken ?_
  intro op begun
  cases op <;> exact begun

end

def Plain : AuthOp → Prop
  | .begin_ _ | .consume .. | .purgeExpired _ | .add .. | .changeStatus .. => False
  | _ => True

def Onward : AuthOp → Prop
  | .begin_ _ | .consume .. | .purgeExpired _ => False
  | _ => True

theorem Plain.onward (op : AuthOp) (plain : Plain op) : Onward op := by
  cases op <;> first | exact plain | trivial

def Quiet : AuthOp → Prop
  | .saveProfile _ | .findVerifiedByEmail _ => False
  | op => Plain op

theorem Quiet.plain (op : AuthOp) (quiet : Quiet op) : Plain op := by
  cases op <;> first | exact quiet | trivial

section
variable {a : Authenticator} {transaction : AuthenticationTransaction} {response : AuthenticationResponse}
  {requireConnection : Bool} {outcome : AuthenticationOutcome}

theorem requireActiveIdentity_quiet : (requireActiveIdentity a identity).Only Quiet := by
  unfold requireActiveIdentity
  split
  · trivial
  · split
    · trivial
    · refine .bind (.perform trivial) fun canonical => ?_
      cases canonical with
      | error e => trivial
      | ok canonical => exact .refuseIf _ _ _

theorem completeConsumed_quiet : (completeConsumed a transaction response requireConnection).Only Quiet := by
  refine .bind (.refuseIf _ _ _) fun _ => .bind (.perform trivial) fun registered => .bind (.refuseIf _ _ _) fun _ =>
    .bind (effectiveMaximum_only trivial) fun found => ?_
  cases found with
  | none => trivial
  | some maximum =>
    exact .bind (.perform trivial) fun answer => .bind (.check _ _) fun outcome => .bind (.perform trivial) fun _ =>
      .check _ _

theorem attachVerified_quiet : (attachVerified identity external instant).Only Quiet :=
  .bind (.check _ _) fun _ => .bind (.perform trivial) fun _ => .check _ _

theorem requireActiveIdentity_plain : (requireActiveIdentity a identity).Only Plain :=
  requireActiveIdentity_quiet.weaken Quiet.plain

theorem completeConsumed_plain : (completeConsumed a transaction response requireConnection).Only Plain :=
  completeConsumed_quiet.weaken Quiet.plain

theorem attachVerified_plain : (attachVerified identity external instant).Only Plain :=
  attachVerified_quiet.weaken Quiet.plain

theorem refreshProfile_plain : (refreshProfile a identity claims instant fill).Only Plain := by
  unfold refreshProfile
  split
  · trivial
  · refine .bind (.perform trivial) fun answer => .bind (.check _ _) fun stored => ?_
    cases stored with
    | none =>
      exact .bind (.check _ _) fun _ => .bind (.check _ _) fun _ => .bind (.perform trivial) fun _ => .check _ _
    | some profile => exact .bind (.check _ _) fun _ => .bind (.perform trivial) fun _ => .check _ _

theorem connect_plain {exchange : CompletedExchange} : (connect a identity exchange).Only Plain := by
  have shows : ((ask (.updatePresentation (externalFromOutcome exchange.outcome))).bind fun updated =>
      (Prog.check updated).bind fun _ => (refreshProfile a identity exchange.outcome.claims exchange.completedAt
        IdentityProfiles.IdentityProfile.refreshPresentationClaims).bind fun _ =>
          (.ret (externalFromOutcome exchange.outcome) : AuthCall _)).Only Plain :=
    .bind (.perform trivial) fun _ => .bind (.check _ _) fun _ => .bind refreshProfile_plain fun _ => trivial
  refine .bind requireActiveIdentity_plain fun _ => .bind (.perform trivial) fun answer => .bind (.check _ _) fun owner =>
    .bind (.refuseIf _ _ _) fun _ => ?_
  split
  · exact .bind attachVerified_plain fun _ => shows
  · exact shows

theorem tally_quiet (candidates active : List IdentityId) (blocked : Nat) :
    (tally a candidates active blocked).Only Quiet := by
  induction candidates generalizing active blocked with
  | nil => trivial
  | cons candidate rest ih =>
    refine .bind (.perform trivial) fun answer => .bind (.check _ _) fun canonical => ?_
    cases canonical with
    | none => exact ih active blocked
    | some canonical =>
      dsimp only
      split
      · exact ih _ _
      · split <;> exact ih _ _

theorem convergeOn_quiet : (convergeOn external instant active blocked).Only Quiet := by
  refine .bind (.refuseIf _ _ _) fun _ => ?_
  split
  · exact .bind (.refuseIf _ _ _) fun _ => trivial
  · exact .bind attachVerified_quiet fun _ => trivial

theorem converge_plain : (converge a outcome external instant).Only Plain := by
  unfold converge
  split
  · split
    · trivial
    · exact .bind (.perform trivial) fun answer => .bind (.check _ _) fun candidates =>
        .bind ((tally_quiet candidates [] 0).weaken Quiet.plain) fun counted => convergeOn_quiet.weaken Quiet.plain
  · trivial

theorem undoing_onward (only : step.Only Plain) : (undoing a identity step).Only Onward := by
  refine .bind (only.weaken Plain.onward).attempt fun outcome => ?_
  cases outcome with
  | ok done => trivial
  | error e => exact .bind (.perform trivial) fun _ => trivial

theorem provision_onward : (provision a outcome external instant).Only Onward := by
  have attaches : ∀ identity,((undoing a identity (attachVerified identity external instant)).bind
      fun _ => (.ret identity : AuthCall IdentityId)).Only Onward :=
    fun identity => .bind (undoing_onward attachVerified_plain) fun _ => trivial
  refine .bind (.refuseIf _ _ _) fun _ => .bind (.perform trivial) fun answer => .bind (.check _ _) fun generated =>
    .bind (.check _ _) fun canonical => .bind (.perform trivial) fun added => .bind (.check _ _) fun _ => ?_
  split
  · refine .bind (undoing_onward ?_) fun _ => attaches _
    exact .bind (.check _ _) fun _ => .bind (.check _ _) fun _ => .bind (.perform trivial) fun _ => .check _ _
  · exact attaches _

theorem resolveIdentity_onward : (resolveIdentity a outcome external instant).Only Onward := by
  refine .bind (.perform trivial) fun answer => ?_
  cases answer with
  | error e => trivial
  | ok owner =>
    cases owner with
    | some owner => trivial
    | none =>
      refine .bind (converge_plain.weaken Plain.onward) fun found => ?_
      cases found with
      | some identity => trivial
      | none => exact provision_onward

end

end OpenProof.AuthenticationTraces
