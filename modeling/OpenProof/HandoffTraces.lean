import OpenProof.AuthenticationRuns
import OpenProof.HandoffTexts

namespace OpenProof.HandoffTraces
open AtomicPrograms CallTraces Foundation AuthenticationTransactions ExternalIdentities
open AuthenticationWorld AuthenticationService AuthenticationTraces AuthenticationHandoffs HandoffTexts Identities

-- The ceremonies that share one store of transactions.
inductive Purpose where
  | login
  | connection
  | connectionHandoff
  | authenticationPublisher
  | authenticationResult
  deriving DecidableEq

def marks : List Text :=
  [kChallengeIdMetadata,kConnectionIdentityMetadata,kHandoffIdentityMetadata,kAuthenticationHandoffResultIdMetadata,
    kAuthenticationHandoffIdentityMetadata]

def Purpose.marks : Purpose → List Text
  | .login => [kChallengeIdMetadata]
  | .connection => [kChallengeIdMetadata,kConnectionIdentityMetadata]
  | .connectionHandoff => [kHandoffIdentityMetadata]
  | .authenticationPublisher => [kAuthenticationHandoffResultIdMetadata]
  | .authenticationResult => [kAuthenticationHandoffIdentityMetadata]

def Marked (p : Purpose) (metadata : AttributeMap) : Prop :=
  ∀ key ∈ marks,metadata.holds key = p.marks.contains key

def Wanted : Purpose → AttributeMap → Prop
  | .login,metadata =>
    metadata.holds kChallengeIdMetadata = true ∧ metadata.holds kConnectionIdentityMetadata = false
  | .connection,metadata =>
    metadata.holds kChallengeIdMetadata = true ∧ metadata.holds kConnectionIdentityMetadata = true
  | .connectionHandoff,metadata => metadata.holds kHandoffIdentityMetadata = true
  | .authenticationPublisher,metadata => metadata.holds kAuthenticationHandoffResultIdMetadata = true
  | .authenticationResult,metadata => metadata.holds kAuthenticationHandoffIdentityMetadata = true

theorem purpose_unique (marked : Marked p metadata) (wanted : Wanted q metadata) : p = q := by
  have challenge := marked kChallengeIdMetadata (by decide)
  have connection := marked kConnectionIdentityMetadata (by decide)
  have handoff := marked kHandoffIdentityMetadata (by decide)
  have result := marked kAuthenticationHandoffResultIdMetadata (by decide)
  have identity := marked kAuthenticationHandoffIdentityMetadata (by decide)
  cases q with
  | login =>
    obtain ⟨one,two⟩ := wanted
    rw [challenge] at one
    rw [connection] at two
    cases p <;> first | rfl | exact absurd one (by decide) | exact absurd two (by decide)
  | connection =>
    obtain ⟨one,two⟩ := wanted
    rw [connection] at two
    cases p <;> first | rfl | exact absurd two (by decide)
  | connectionHandoff =>
    have wanted : metadata.holds kHandoffIdentityMetadata = true := wanted
    rw [handoff] at wanted
    cases p <;> first | rfl | exact absurd wanted (by decide)
  | authenticationPublisher =>
    have wanted : metadata.holds kAuthenticationHandoffResultIdMetadata = true := wanted
    rw [result] at wanted
    cases p <;> first | rfl | exact absurd wanted (by decide)
  | authenticationResult =>
    have wanted : metadata.holds kAuthenticationHandoffIdentityMetadata = true := wanted
    rw [identity] at wanted
    cases p <;> first | rfl | exact absurd wanted (by decide)

theorem marked_of (checked : marks.all (fun key =>
    metadata.holds key == p.marks.contains key) = true) : Marked p metadata := by
  intro key inside
  exact beq_iff_eq.mp (List.all_eq_true.mp checked key inside)

section

theorem login_marked (fresh : transaction.metadata = ∅) :
    Marked .login (metadataOf request challenge none transaction).metadata := by
  apply marked_of
  unfold metadataOf
  cases request.requestedAssurance <;>
    simp +decide [fresh,AuthenticationTransaction.setMetadata,Map.holds,marks,Purpose.marks]

theorem connection_marked (fresh : transaction.metadata = ∅) :
    Marked .connection (metadataOf request challenge (some identity) transaction).metadata := by
  apply marked_of
  unfold metadataOf
  cases request.requestedAssurance <;>
    simp +decide [fresh,AuthenticationTransaction.setMetadata,Map.holds,marks,Purpose.marks]

theorem result_marked : Marked .authenticationResult (resultMetadata authentication) := by
  apply marked_of
  simp +decide [resultMetadata,Map.holds,marks,Purpose.marks]

def Opened (p : Purpose) (transaction : AuthenticationTransaction) : Prop := Marked p transaction.metadata

theorem begin_opened {binding : BindingDigest} :
    (begin_ a request binding correlation).Only (Begun (Opened .login)) :=
  beginInternal_begun fun _ _ _ _ fresh => login_marked fresh

theorem beginConnection_opened {binding : BindingDigest} :
    (beginConnection a request binding correlation identity).Only (Begun (Opened .connection)) := by
  have plain : ∀ op,Plain op → Begun (Opened .connection) op := by
    intro op plain
    cases op <;> trivial
  refine .bind (.refuseIf _ _ _) fun _ => .bind (requireActiveIdentity_plain.weaken plain) fun _ => ?_
  exact beginInternal_begun fun _ _ _ _ fresh => connection_marked fresh

def connectionState (identity : IdentityId) (providerId : ProviderId) (returnTarget : Text)
    (transaction : AuthenticationTransaction) : AuthenticationTransaction :=
  ((transaction.setMetadata kHandoffIdentityMetadata identity.value).setMetadata kHandoffProviderMetadata
    providerId.value).setMetadata kHandoffReturnMetadata returnTarget

theorem issueConnection_opened : (issueBrowserConnectionHandoff a identity providerId returnTarget correlation).Only
      (Begun (Opened .connectionHandoff)) := by
  have plain : ∀ op,Plain op → Begun (Opened .connectionHandoff) op := by
    intro op plain
    cases op <;> trivial
  refine .bind (.refuseIf _ _ _) fun _ => .bind (requireActiveIdentity_plain.weaken plain) fun _ =>
    .bind (.perform trivial) fun generatedId => .bind (.perform trivial) fun generatedSecret =>
      .bind (.check _ _) fun id => .bind (.check _ _) fun secret => .bind (.perform trivial) fun now => ?_
  cases created : AuthenticationTransaction.create ⟨id⟩ ⟨kHandoffProvider⟩ .redirect secret (a.sha256 secret) 0
      correlation now (handoffLifetime a) with
  | error e => trivial
  | ok transaction =>
    obtain ⟨-,-,fresh⟩ := create_spec created
    have allowed : Begun (Opened .connectionHandoff)
        (.begin_ (connectionState identity providerId returnTarget transaction)) := by
      apply marked_of
      simp +decide [connectionState,fresh,AuthenticationTransaction.setMetadata,Map.holds,marks,Purpose.marks]
    exact (Prog.Only.perform allowed).bind fun answer => .bind (.check _ _) fun _ => trivial

theorem issueAuthentication_opened :
    (issueBrowserAuthenticationHandoff a providerId correlation).Only (Begun (Opened .authenticationPublisher)) := by
  refine .bind (.refuseIf _ _ _) fun _ => .bind (.perform trivial) fun registered => .bind (.refuseIf _ _ _) fun _ =>
    .bind (.perform trivial) fun model => .bind (.refuseIf _ _ _) fun _ => .bind (.perform trivial) fun one =>
    .bind (.perform trivial) fun two => .bind (.perform trivial) fun three => .bind (.perform trivial) fun four =>
    .bind (.check _ _) fun publisherId => .bind (.check _ _) fun publisherSecret => .bind (.check _ _) fun resultId =>
    .bind (.check _ _) fun redeemSecret => .bind (.check _ _) fun redeemDigest => .bind (.perform trivial) fun now => ?_
  cases created : AuthenticationTransaction.create ⟨publisherId⟩ ⟨kAuthenticationHandoffProvider⟩ .redirect
      publisherSecret (a.sha256 publisherSecret) 0 correlation now (handoffLifetime a) with
  | error e => trivial
  | ok transaction =>
    obtain ⟨-,-,fresh⟩ := create_spec created
    have allowed : Begun (Opened .authenticationPublisher) (.begin_
        (((transaction.setMetadata kHandoffProviderMetadata providerId.value).setMetadata
          kAuthenticationHandoffResultIdMetadata resultId).setMetadata kAuthenticationHandoffRedeemDigestMetadata
            (digestHex redeemDigest))) := by
      apply marked_of
      simp +decide [fresh,AuthenticationTransaction.setMetadata,Map.holds,marks,Purpose.marks]
    exact (Prog.Only.perform allowed).bind fun answer => .bind (.check _ _) fun _ => trivial

theorem restore_spec {id : TransactionId}
    {binding : BindingDigest} (restored : AuthenticationTransaction.restore id provider model nonceDigest
      binding correlation state createdAt expiresAt metadata = .ok transaction) :
    transaction.id = id ∧ transaction.provider = provider ∧ transaction.nonceDigest = nonceDigest ∧
      transaction.binding = binding ∧ transaction.state = state ∧ transaction.expiresAt = expiresAt ∧
        transaction.metadata = metadata := by
  unfold AuthenticationTransaction.restore at restored
  split at restored
  · obtain ⟨-,restored⟩ := passed restored
    cases restored
    exact ⟨rfl,rfl,rfl,rfl,rfl,rfl,rfl⟩
  · cases restored

structure Carries (authentication : VerifiedAuthentication) (transaction : AuthenticationTransaction) : Prop where
  provider : transaction.provider.value = kAuthenticationHandoffResultProvider
  binding : transaction.binding = 0
  pending : transaction.state = .pending
  metadata : transaction.metadata = resultMetadata authentication

theorem publish_begun {ticket : Text} : (publishBrowserAuthenticationHandoff ticket authentication).Only
    (Begun (Carries authentication)) := by
  unfold publishBrowserAuthenticationHandoff
  split
  · trivial
  · refine .bind (.perform trivial) fun now => .bind (.perform trivial) fun answer => .bind (.check _ _) fun consumed =>
      .bind (.refuseIf _ _ _) fun _ => ?_
    split
    · trivial
    · refine .bind (.refuseIf _ _ _) fun _ => ?_
      split
      · trivial
      · rename_i redeemDigest read
        refine .bind (.perform trivial) fun now => .bind (.refuseIf _ _ _) fun _ => ?_
        cases restored : AuthenticationTransaction.restore ⟨_⟩ ⟨kAuthenticationHandoffResultProvider⟩ .redirect redeemDigest
            0 consumed.correlation .pending now consumed.expiresAt (resultMetadata authentication) with
        | error e => trivial
        | ok result =>
          obtain ⟨-,provider,-,binding,pending,-,metadata⟩ := restore_spec restored
          have allowed : Begun (Carries authentication) (.begin_ result) :=
            ⟨congrArg StrongId.value provider,binding,pending,metadata⟩
          exact (Prog.Only.perform allowed).bind fun answer => .check _ _

end

def Redeemless : AuthOp → Prop
  | .consume .. => False
  | _ => True

-- A call looks at the clock, redeems one transaction, as `Q` wants it, and no other.
inductive Redemption (Q : AuthenticationTransaction → Prop) (id : TransactionId) (nonce : Text) (binding : BindingDigest) :
    AuthTrace → Prop where
  | redeemed {now : Instant} {transaction : AuthenticationTransaction} {rest : AuthTrace} (wanted : Q transaction)
      (redeemless : ∀ exchange ∈ rest,Redeemless exchange.1) :
      Redemption Q id nonce binding (⟨.now,now⟩ :: ⟨.consume id nonce binding now,.ok transaction⟩ :: rest)

section
variable {α : Type} {id : TransactionId}

theorem redeems {f : Instant → Result AuthenticationTransaction → AuthCall α} {Q : AuthenticationTransaction → α → Prop}
    (refused : ∀ now e,Yields (f now (.error e)) fun _ _ => False)
    (redeemless : ∀ now transaction,(f now (.ok transaction)).Only Redeemless)
    (wanted : ∀ now transaction,Yields (f now (.ok transaction)) fun _ value => Q transaction value) :
    Yields ((ask .now).bind fun now => (ask (.consume id nonce binding now)).bind (f now)) fun trace value =>
      Redemption (Q · value) id nonce binding trace := by
  refine .ask fun now => .ask fun answer => ?_
  cases answer with
  | error e => exact (refused now e).mono fun _ _ impossible => impossible.elim
  | ok transaction =>
    intro trace value path
    exact .redeemed (wanted now transaction trace value path) (path.only (redeemless now transaction))

theorem redeemless_of_onward {p : AuthCall α} (only : p.Only Onward) : p.Only Redeemless := by
  refine only.weaken fun op onward => ?_
  cases op <;> first | exact onward | trivial

theorem redeemless_of_plain {p : AuthCall α} (only : p.Only Plain) : p.Only Redeemless :=
  redeemless_of_onward (only.weaken Plain.onward)

theorem completeExchange_redeems {requireConnection : Bool} :
    Yields (completeExchange a id nonce binding response requireConnection) fun trace _ =>
      Redemption (fun transaction => transaction.metadata.holds kChallengeIdMetadata = true ∧
        transaction.metadata.holds kConnectionIdentityMetadata = requireConnection) id nonce binding trace := by
  refine redeems (Q:=fun transaction _ => transaction.metadata.holds kChallengeIdMetadata = true ∧
    transaction.metadata.holds kConnectionIdentityMetadata = requireConnection) ?_ ?_ ?_
  · intro now e
    exact .fail
  · intro now transaction
    exact redeemless_of_plain completeConsumed_plain
  · intro now transaction
    refine (@completeConsumed_yields a transaction requireConnection response now).mono ?_
    rintro trace exchange ⟨c,-,rfl,sound,-,-⟩
    exact ⟨by rw [Map.holds,sound.challenge]; rfl,sound.honoured.purpose⟩

section
variable (redemption : Redemption Q id nonce binding trace)
include redemption

theorem Redemption.more (redeemless : ∀ exchange ∈ after,Redeemless exchange.1) :
    Redemption Q id nonce binding (trace ++ after) := by
  cases redemption with
  | redeemed wanted before =>
    refine .redeemed wanted fun exchange inside => ?_
    rcases List.mem_append.mp inside with early | late
    · exact before exchange early
    · exact redeemless exchange late

theorem Redemption.mono (weaken : ∀ transaction,Q transaction → R transaction) :
    Redemption R id nonce binding trace := by
  cases redemption with
  | redeemed wanted redeemless => exact .redeemed (weaken _ wanted) redeemless

theorem Redemption.unique (inside : ⟨.consume other shown agent now,.ok after⟩ ∈ trace) :
    other = id ∧ shown = nonce ∧ agent = binding ∧ ⟨.now,now⟩ ∈ trace ∧ Q after := by
  cases redemption with
  | redeemed wanted redeemless =>
    rcases List.mem_cons.mp inside with clock | inside
    · cases clock
    · rcases List.mem_cons.mp inside with same | later
      · cases same
        exact ⟨rfl,rfl,rfl,List.mem_cons_self,wanted⟩
      · exact (redeemless _ later).elim

end

theorem bind_redeems {f : α → AuthCall β} (first : Yields p fun trace _ => Redemption Q id nonce binding trace)
    (rest : ∀ value,(f value).Only Redeemless) :
    Yields (p.bind f) fun trace _ => Redemption Q id nonce binding trace := by
  refine .bind first fun trace value redemption => ?_
  intro after result path
  exact redemption.more (path.only (rest value))

theorem complete_redeems : Yields (complete a id nonce binding response) fun trace _ =>
    Redemption (fun transaction => Wanted .login transaction.metadata) id nonce binding trace := by
  refine bind_redeems completeExchange_redeems fun exchange => ?_
  exact .bind (redeemless_of_onward resolveIdentity_onward) fun identity =>
    .bind (redeemless_of_plain requireActiveIdentity_plain) fun _ => .bind (.perform trivial) fun updated =>
      .bind (.check _ _) fun _ => .bind (redeemless_of_plain refreshProfile_plain) fun _ => trivial

theorem completeConnection_redeems : Yields (completeConnection a id nonce binding response) fun trace _ =>
    Redemption (fun transaction => Wanted .connection transaction.metadata) id nonce binding trace := by
  refine bind_redeems completeExchange_redeems fun exchange => ?_
  split
  · trivial
  · exact redeemless_of_plain connect_plain

theorem holds_of_named (found : named metadata key = some value) : metadata.holds key = true := by
  rw [Map.holds,(Option.filter_eq_some_iff.mp found).1]
  rfl

theorem consumeConnection_redeems : Yields (consumeBrowserConnectionHandoff a ticket) fun trace _ =>
    ∃ id nonce,Redemption (fun transaction => Wanted .connectionHandoff transaction.metadata) id nonce 0 trace := by
  unfold consumeBrowserConnectionHandoff
  split
  · exact .fail
  · rename_i id secret _
    refine Yields.mono (redeems (Q:=fun transaction _ => Wanted .connectionHandoff transaction.metadata) ?_ ?_ ?_)
      fun trace target redemption => ⟨⟨id⟩,secret,redemption⟩
    · intro now e
      exact .fail
    · intro now consumed
      refine .bind (.refuseIf _ _ _) fun _ => ?_
      split
      · exact .bind (redeemless_of_plain requireActiveIdentity_plain) fun _ => trivial
      · trivial
    · intro now consumed
      refine .refuseIf fun _ => ?_
      split
      · rename_i found _ _
        exact fun _ _ _ => holds_of_named found
      · exact .fail

structure Publishes (authentication : VerifiedAuthentication) (consumed result : AuthenticationTransaction) : Prop where
  provider : consumed.provider.value = kAuthenticationHandoffProvider
  state : ∃ digest,publisherState consumed.metadata = some (authentication.outcome.provider.value,result.id.value,digest) ∧
    parseDigestHex digest = some result.nonceDigest
  expiresAt : result.expiresAt = consumed.expiresAt
  carries : Carries authentication result

theorem publish_yields : Yields (publishBrowserAuthenticationHandoff ticket authentication) fun trace _ =>
    ∃ id nonce now later consumed result,parseTicket ticket = some (id,nonce) ∧
      trace = [⟨.now,now⟩,⟨.consume ⟨id⟩ nonce 0 now,.ok consumed⟩,⟨.now,later⟩,⟨.begin_ result,.ok ()⟩] ∧
        Publishes authentication consumed result := by
  unfold publishBrowserAuthenticationHandoff
  split
  · exact .fail
  · rename_i id secret parsed
    refine .ask fun now => .ask fun answer => .check fun consumed redeemed => .refuseIf fun named => ?_
    cases redeemed
    split
    · exact .fail
    · rename_i providerId resultId digest state
      refine .refuseIf fun same => ?_
      split
      · exact .fail
      · rename_i redeemDigest read
        refine .ask fun later => .refuseIf fun alive => .check fun result restored => .ask fun answer => .checked ?_
        intro done begun
        cases begun
        obtain ⟨identified,provider,digested,binding,pending,expiresAt,metadata⟩ := restore_spec restored
        have mine : authentication.outcome.provider.value = providerId := by simpa using same
        refine ⟨id,secret,now,later,consumed,result,parsed,rfl,by simpa using named,⟨digest,?_,?_⟩,expiresAt,?_⟩
        · rw [state,mine,identified]
        · rw [read,digested]
        · exact ⟨congrArg StrongId.value provider,binding,pending,metadata⟩

theorem publisherState_wanted (found : publisherState metadata = some state) : Wanted .authenticationPublisher metadata := by
  unfold publisherState at found
  split at found
  · rename_i held _
    rw [Wanted,Map.holds,held]
    rfl
  · cases found

theorem publish_redeems : Yields (publishBrowserAuthenticationHandoff ticket authentication) fun trace _ =>
    ∃ id nonce,Redemption (fun transaction => Wanted .authenticationPublisher transaction.metadata) id nonce 0 trace := by
  refine publish_yields.mono ?_
  rintro trace done ⟨id,nonce,now,later,consumed,result,-,rfl,publishes⟩
  obtain ⟨digest,state,-⟩ := publishes.state
  refine ⟨⟨id⟩,nonce,.redeemed (publisherState_wanted state) ?_⟩
  simp [Redeemless]

structure Promises (handoff : BrowserAuthenticationHandoff) (sha256 : Text → Result Sha256Digest)
    (transaction : AuthenticationTransaction) (resultId redeemSecret : Text) : Prop where
  ticket : handoff.redeemTicket = ticketOf resultId redeemSecret
  expiresAt : handoff.expiresAt = transaction.expiresAt
  named : transaction.metadata[kAuthenticationHandoffResultIdMetadata]? = some resultId
  digested : ∃ digest,sha256 redeemSecret = .ok digest ∧
    transaction.metadata[kAuthenticationHandoffRedeemDigestMetadata]? = some (digestHex digest)

theorem create_expiry {correlation : Text} (created : AuthenticationTransaction.create transactionId provider model
      nonce nonceDigest binding correlation createdAt lifetime = .ok transaction) :
    transaction.expiresAt = createdAt+lifetime := by
  obtain ⟨-,created⟩ := passed created
  obtain ⟨-,created⟩ := passed created
  obtain ⟨-,created⟩ := passed created
  split at created
  · cases created
  · split at created
    · cases created
    · cases created
      rfl

theorem issue_yields {providerId : ProviderId} {correlation : Text} :
    Yields (issueBrowserAuthenticationHandoff a providerId correlation) fun trace handoff =>
      ∃ resultId redeemSecret,∀ transaction,⟨.begin_ transaction,.ok ()⟩ ∈ trace →
        Promises handoff a.sha256 transaction resultId redeemSecret := by
  refine .refuseIf fun _ => .ask fun registered => .refuseIf fun _ => .ask fun model => .refuseIf fun _ =>
    .ask fun one => .ask fun two => .ask fun three => .ask fun four => .check fun publisherId _ =>
    .check fun publisherSecret _ => .check fun resultId _ => .check fun redeemSecret _ => .check fun redeemDigest digested =>
    .ask fun now => .check fun transaction created => .ask fun answer => .check fun done _ => .ret ?_
  refine ⟨resultId,redeemSecret,?_⟩
  intro begun inside
  obtain ⟨-,-,fresh⟩ := create_spec created
  have same : begun = ((transaction.setMetadata kHandoffProviderMetadata providerId.value).setMetadata
      kAuthenticationHandoffResultIdMetadata resultId).setMetadata kAuthenticationHandoffRedeemDigestMetadata
        (digestHex redeemDigest) := by
    simp at inside
    exact inside.1
  rw [same]
  refine ⟨rfl,(create_expiry created).symm,?_,redeemDigest,digested,?_⟩
  · rw [AuthenticationTransaction.setMetadata,Std.ExtTreeMap.getElem?_insert,if_neg (by decide),
      AuthenticationTransaction.setMetadata,Std.ExtTreeMap.getElem?_insert_self]
  · exact Std.ExtTreeMap.getElem?_insert_self

structure Restores (authentication : VerifiedAuthentication) (transaction : AuthenticationTransaction) : Prop where
  provider : transaction.provider.value = kAuthenticationHandoffResultProvider
  read : readResult transaction.metadata = .ok (carried authentication)

theorem readResult_wanted (read : readResult metadata = .ok result) : Wanted .authenticationResult metadata := by
  unfold readResult at read
  split at read
  · rename_i held _ _ _ _ _ _
    rw [Wanted,Map.holds,held]
    rfl
  · cases read

theorem redeemResult_plain : (redeemResult a result).Only Plain := by
  refine .bind ?_ fun maximum => .bind (.refuseIf _ _ _) fun _ => .bind requireActiveIdentity_plain fun _ =>
    .bind (.perform trivial) fun owner => .bind (.refuseIf _ _ _) fun _ => .bind (.check _ _) fun outcome => trivial
  refine .bind (.perform trivial) fun registered => ?_
  split
  · exact effectiveMaximum_only trivial
  · trivial

theorem redeemResult_yields : Yields (redeemResult a result) fun _ value => carried value = result := by
  refine .bind .any fun _ maximum _ => .refuseIf fun _ => .bind .any fun _ _ _ => .ask fun owner => .refuseIf fun _ =>
    .check fun outcome created => .ret ?_
  unfold AuthenticationOutcome.create at created
  split at created
  · cases created
  · split at created
    · cases created
    · cases created
      rfl

theorem redeem_redeems : Yields (redeemBrowserAuthenticationHandoff a ticket) fun trace value =>
    ∃ id nonce,parseTicket ticket = some (id,nonce) ∧ Redemption (Restores value) ⟨id⟩ nonce 0 trace := by
  unfold redeemBrowserAuthenticationHandoff
  split
  · exact .fail
  · rename_i id secret parsed
    refine Yields.mono (redeems (Q:=fun transaction value => Restores value transaction) ?_ ?_ ?_)
      fun trace value redemption => ⟨id,secret,parsed,redemption⟩
    · intro now e
      exact .fail
    · intro now consumed
      exact .bind (.check _ _) fun consumed => .bind (.refuseIf _ _ _) fun _ => .bind (.check _ _) fun result =>
        redeemless_of_plain redeemResult_plain
    · intro now consumed
      refine .refuseIf fun named => .check fun result read => ?_
      refine redeemResult_yields.mono fun trace value same => ⟨by simpa using named,?_⟩
      rw [read,same]

end

end OpenProof.HandoffTraces
