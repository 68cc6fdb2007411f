import OpenProof.HandoffTraces

namespace OpenProof.HandoffRuns
open AtomicPrograms CallTraces CallLogs Foundation AuthenticationTransactions ExternalIdentities
open AuthenticationWorld AuthenticationService AuthenticationTraces AuthenticationRuns
open AuthenticationHandoffs HandoffTexts HandoffTraces Identities

inductive HandoffReply where
  | started (start : AuthenticationStart)
  | authenticated (v : VerifiedAuthentication)
  | connected (external : ExternalIdentityRef)
  | issuedConnection (handoff : BrowserConnectionHandoff)
  | target (target : BrowserConnectionTarget)
  | issued (handoff : BrowserAuthenticationHandoff)
  | published
  | redeemed (v : VerifiedAuthentication)

abbrev HandoffFloor := Floor AuthOp AuthOp.Ret Error HandoffReply AuthState

def replying (reply : α → HandoffReply) (p : AuthCall α) : AuthCall HandoffReply := p.bind fun value => .ret (reply value)

def issuing (a : Authenticator) (providerId : ProviderId) (correlation : Text) : AuthCall HandoffReply :=
  replying .issued (issueBrowserAuthenticationHandoff a providerId correlation)

def publishing (ticket : Text) (authentication : VerifiedAuthentication) : AuthCall HandoffReply :=
  replying (fun _ => .published) (publishBrowserAuthenticationHandoff ticket authentication)

def redeeming (a : Authenticator) (ticket : Text) : AuthCall HandoffReply :=
  replying .redeemed (redeemBrowserAuthenticationHandoff a ticket)

-- The operations that begin a transaction of some purpose.
inductive Opens : Purpose → AuthCall HandoffReply → Prop where
  | login (a : Authenticator) (request : AuthenticationRequest) (binding : BindingDigest) (correlation : Text) :
      Opens .login (replying .started (begin_ a request binding correlation))
  | connection (a : Authenticator) (request : AuthenticationRequest) (binding : BindingDigest) (correlation : Text)
      (identity : IdentityId) :
      Opens .connection (replying .started (beginConnection a request binding correlation identity))
  | connectionHandoff (a : Authenticator) (identity : IdentityId) (providerId : ProviderId)
      (returnTarget correlation : Text) : Opens .connectionHandoff
        (replying .issuedConnection (issueBrowserConnectionHandoff a identity providerId returnTarget correlation))
  | authenticationPublisher (a : Authenticator) (providerId : ProviderId) (correlation : Text) :
      Opens .authenticationPublisher (issuing a providerId correlation)
  | authenticationResult (ticket : Text) (authentication : VerifiedAuthentication) :
      Opens .authenticationResult (publishing ticket authentication)

inductive Closes : Purpose → AuthCall HandoffReply → Prop where
  | login (a : Authenticator) (transactionId : TransactionId) (continuationToken : Text) (binding : BindingDigest)
      (response : AuthenticationResponse) :
      Closes .login (replying .authenticated (complete a transactionId continuationToken binding response))
  | connection (a : Authenticator) (transactionId : TransactionId) (continuationToken : Text) (binding : BindingDigest)
      (response : AuthenticationResponse) :
      Closes .connection (replying .connected (completeConnection a transactionId continuationToken binding response))
  | connectionHandoff (a : Authenticator) (ticket : Text) :
      Closes .connectionHandoff (replying .target (consumeBrowserConnectionHandoff a ticket))
  | authenticationPublisher (ticket : Text) (authentication : VerifiedAuthentication) :
      Closes .authenticationPublisher (publishing ticket authentication)
  | authenticationResult (a : Authenticator) (ticket : Text) : Closes .authenticationResult (redeeming a ticket)

def Takes (entry : AuthEntry) (transaction : AuthenticationTransaction) : Prop :=
  ∃ id nonce binding now after,entry.exchange = ⟨.consume id nonce binding now,.ok after⟩ ∧
    entry.found.transactions[id]? = some transaction

section
variable {p q : Purpose} {call : AuthCall HandoffReply} {sha256 : Text → Result Sha256Digest} {initial : AuthState}
  {floor : HandoffFloor}

theorem replying_only {reply : α → HandoffReply} {P : AuthOp → Prop} {program : AuthCall α} (only : program.Only P) :
    (replying reply program).Only P := only.bind fun _ => trivial

theorem replying_yields {reply : α → HandoffReply} {program : AuthCall α} {post : AuthTrace → α → Prop}
    (yields : Yields program post) : Yields (replying reply program) fun trace result =>
      ∃ value,result = reply value ∧ post trace value := by
  refine .bind yields fun trace value holds => .ret ?_
  rw [List.append_nil]
  exact ⟨value,rfl,holds⟩

theorem opens_marked (opens : Opens p call) : call.Only (Begun (Opened p)) := by
  cases opens with
  | login a request binding correlation => exact replying_only begin_opened
  | connection a request binding correlation identity => exact replying_only beginConnection_opened
  | connectionHandoff a identity providerId returnTarget correlation => exact replying_only issueConnection_opened
  | authenticationPublisher a providerId correlation => exact replying_only issueAuthentication_opened
  | authenticationResult ticket authentication =>
    refine replying_only (publish_begun.weaken ?_)
    intro op carries
    cases op with
    | begin_ transaction =>
      have marked : Marked .authenticationResult transaction.metadata := by
        rw [carries.metadata]
        exact result_marked
      exact marked
    | _ => trivial

theorem closes_wanted (closes : Closes q call) : Yields call fun trace _ =>
    ∃ id nonce binding,Redemption (fun transaction => Wanted q transaction.metadata) id nonce binding trace := by
  cases closes with
  | login a transactionId continuationToken binding response =>
    refine (replying_yields complete_redeems).mono ?_
    rintro trace result ⟨value,-,redemption⟩
    exact ⟨_,_,_,redemption⟩
  | connection a transactionId continuationToken binding response =>
    refine (replying_yields completeConnection_redeems).mono ?_
    rintro trace result ⟨value,-,redemption⟩
    exact ⟨_,_,_,redemption⟩
  | connectionHandoff a ticket =>
    refine (replying_yields consumeConnection_redeems).mono ?_
    rintro trace result ⟨value,-,id,nonce,redemption⟩
    exact ⟨id,nonce,0,redemption⟩
  | authenticationPublisher ticket authentication =>
    refine (replying_yields publish_redeems).mono ?_
    rintro trace result ⟨value,-,id,nonce,redemption⟩
    exact ⟨id,nonce,0,redemption⟩
  | authenticationResult a ticket =>
    refine (replying_yields redeem_redeems).mono ?_
    rintro trace result ⟨value,-,id,nonce,-,redemption⟩
    exact ⟨⟨id⟩,nonce,0,redemption.mono fun transaction restores => readResult_wanted restores.read⟩

theorem redemption_taken {id : TransactionId} {nonce : Text} (played : Plays (stage sha256) initial floor)
    (redemption : Redemption Q id nonce binding (own i floor.log)) :
    ∃ taken ∈ floor.log,taken.caller = i ∧ ∃ now stored after,
      taken.exchange = ⟨.consume id nonce binding now,.ok after⟩ ∧ taken.found.transactions[id]? = some stored ∧
        Redeemed (sha256 nonce) binding now stored after ∧ Q after := by
  generalize shape : own i floor.log = trace at redemption
  cases redemption with
  | @redeemed now after rest wanted redeemless =>
    have inside : ⟨.consume id nonce binding now,.ok after⟩ ∈ own i floor.log := by
      rw [shape]
      exact List.mem_cons_of_mem _ List.mem_cons_self
    obtain ⟨taken,logged,mine,exchanged⟩ := mem_own.mp inside
    obtain ⟨stored,found,redeemed⟩ := redemption_found played logged exchanged
    exact ⟨taken,logged,mine,now,stored,after,exchanged,found,redeemed,wanted⟩

theorem taken_wanted {id : TransactionId} {nonce : Text} (played : Plays (stage sha256) initial floor)
    (redemption : Redemption Q id nonce binding (own i floor.log)) (inside : taken ∈ floor.log)
    (mine : taken.caller = i) (takes : Takes taken transaction) : Q { transaction with state := .consumed } := by
  obtain ⟨other,shown,agent,now,after,exchanged,found⟩ := takes
  obtain ⟨stored,there,redeemed⟩ := redemption_found played inside exchanged
  cases found.symm.trans there
  obtain ⟨-,-,-,-,wanted⟩ := redemption.unique (mem_own.mpr ⟨taken,inside,mine,exchanged⟩)
  rwa [redeemed.consumed] at wanted

end

-- Whatever an operation of one purpose has redeemed, nobody began for another purpose.
theorem purposes_apart {sha256 : Text → Result Sha256Digest} {initial : AuthState} {floor : HandoffFloor} {q : Purpose}
    {call : AuthCall HandoffReply} {reply : HandoffReply} {i : Nat} (played : Plays (stage sha256) initial floor)
    (closes : Closes q call) (finished : floor.members[i]? = some ⟨call,.ret reply⟩) :
    (∃ taken ∈ floor.log,taken.caller = i ∧ ∃ transaction,Takes taken transaction) ∧
    ∀ taken ∈ floor.log,taken.caller = i → ∀ transaction,Takes taken transaction →
      ∀ j p opener rest,floor.members[j]? = some ⟨opener,rest⟩ → Opens p opener →
        ∀ begun ∈ floor.log,begun.caller = j → begun.exchange = ⟨.begin_ transaction,.ok ()⟩ → p = q := by
  obtain ⟨id,nonce,binding,redemption⟩ := closes_wanted closes _ _ (played.returned finished)
  constructor
  · obtain ⟨taken,inside,mine,now,stored,after,exchanged,found,-,-⟩ := redemption_taken played redemption
    exact ⟨taken,inside,mine,stored,id,nonce,binding,now,after,exchanged,found⟩
  · intro taken inside mine transaction takes j p opener rest member opens begun began theirs opened
    have wanted : Wanted q transaction.metadata := taken_wanted played redemption inside mine takes
    have marked := played.only member (opens_marked opens) begun began theirs
    rw [opened] at marked
    exact purpose_unique marked wanted

def demoHandoffWorld : AuthState := { demoWorld with
  providers := fun id => if id = ⟨"mail"⟩ then some { demoProvider with interactionModel := .challengeResponse } else none
  directory := ⟨Std.ExtTreeMap.insert ∅ ⟨⟨"mail"⟩,⟨"ann"⟩⟩ ⟨"me"⟩,∅⟩
  identities := Std.ExtTreeMap.insert ∅ ⟨"me"⟩ ⟨⟨"org"⟩,⟨⟨"me"⟩,.human,.active,0⟩⟩ }

def demoIssue : AuthCall HandoffReply :=
  replying .issuedConnection (issueBrowserConnectionHandoff demoAuthenticator ⟨"me"⟩ ⟨"mail"⟩ "/home" "flow")

def demoConsume : AuthCall HandoffReply :=
  replying .target (consumeBrowserConnectionHandoff demoAuthenticator "token.token")

theorem purposes_apart_handed : ∃ floor : HandoffFloor,∃ taken ∈ floor.log,∃ transaction,Takes taken transaction ∧
    ∀ j p opener rest,floor.members[j]? = some ⟨opener,rest⟩ → Opens p opener →
      ∀ begun ∈ floor.log,begun.caller = j → begun.exchange = ⟨.begin_ transaction,.ok ()⟩ → p = .connectionHandoff := by
  let turns : List (Turn AuthOp AuthOp.Ret Error HandoffReply AuthState) :=
    [.enter demoIssue] ++ steps 0 5 ++ [.enter demoConsume] ++ steps 1 3
  have done : (takeTurns (exec demoSha256) turns (⟨demoHandoffWorld,[],[]⟩ : HandoffFloor)).any (fun floor =>
      (floor.members[1]?.bind fun m => ended m.rest).any Except.isOk) = true := by
    decide
  obtain ⟨floor,taken,holds⟩ := (Option.any_eq_true _ _).mp done
  have played : Plays (stage demoSha256) demoHandoffWorld floor :=
    Plays.start.turns (by simp [turns,steps,Turn.Allowed]) taken
  obtain ⟨r,member,succeeded⟩ := takeTurns_ended taken (show _ = some demoConsume from rfl) holds
  cases r with
  | error e => cases succeeded
  | ok reply =>
    obtain ⟨⟨redeemed,inside,caller,transaction,takes⟩,apart⟩ :=
      purposes_apart played (.connectionHandoff demoAuthenticator "token.token") member
    exact ⟨floor,redeemed,inside,transaction,takes,apart redeemed inside caller transaction takes⟩

def trusts (a : Authenticator) (w : AuthState) (providerId : ProviderId) (assurance : AssuranceLevel) : Bool :=
  (w.providers providerId).any fun provider => (a.trustPolicy.maximumFor providerId).any fun configured =>
    meetsAssurance (lower configured provider.maximumClaimableAssurance) assurance

def letsIn (a : Authenticator) (w : AuthState) (identity : IdentityId) : Bool :=
  !a.lifecycleRepository || (!a.organization.empty &&
    (w.identities.findById a.organization identity).any Identities.Identity.canAuthenticate)

def welcomes (a : Authenticator) (w : AuthState) (authentication : VerifiedAuthentication) : Bool :=
  trusts a w authentication.outcome.provider authentication.outcome.claimedAssurance &&
    letsIn a w authentication.identity &&
      w.directory.owners[(⟨authentication.outcome.provider,authentication.outcome.subject⟩ : ExternalKey)]? ==
        some authentication.identity

def bare (authentication : VerifiedAuthentication) : VerifiedAuthentication :=
  { authentication with outcome := { authentication.outcome with claims := ⟨∅⟩, evidence := ∅ } }

section
variable {a : Authenticator} {sha256 : Text → Result Sha256Digest} {w : AuthState} {authentication : VerifiedAuthentication}
  {ticket nonce : Text} {result : AuthenticationTransaction}

theorem currentMaximum_run : (currentMaximum a providerId).run (exec sha256) w =
    (.ok ((w.providers providerId).bind fun provider => (a.trustPolicy.maximumFor providerId).map fun configured =>
      lower configured provider.maximumClaimableAssurance),w) := by
  unfold currentMaximum effectiveMaximum
  simp only [Prog.bind_eq,ask,Prog.run_perform_bind,exec,Prog.pure_eq]
  rcases Option.eq_none_or_eq_some (w.providers providerId) with absent | ⟨provider,known⟩
  · simp [absent]
  · cases a.trustPolicy.maximumFor providerId <;> simp [exec,known]

theorem requireActive_run : ∃ r,(requireActiveIdentity a identity).run (exec sha256) w = (r,w) ∧
    r.toOption.isSome = letsIn a w identity := by
  unfold requireActiveIdentity letsIn
  cases a.lifecycleRepository with
  | false => exact ⟨_,rfl,rfl⟩
  | true =>
    cases a.organization.empty with
    | true => exact ⟨_,rfl,rfl⟩
    | false =>
      simp only [ask,Bool.not_true,Bool.false_eq_true,if_false,Prog.run_perform_bind,exec]
      cases (w.identities.findById a.organization identity).any Identities.Identity.canAuthenticate with
      | true | false => exact ⟨_,rfl,rfl⟩

theorem bare_created : AuthenticationOutcome.create authentication.outcome.provider authentication.outcome.subject ⟨∅⟩
    authentication.outcome.claimedAssurance authentication.outcome.strength ∅ authentication.outcome.verifiedAt =
      .ok (bare authentication).outcome := by
  obtain ⟨provided,subjected⟩ := authentication.outcome.named
  unfold AuthenticationOutcome.create
  rw [dif_neg (Bool.eq_false_iff.mp provided),dif_neg (Bool.eq_false_iff.mp subjected)]
  rfl

theorem redeemResult_run : ((redeemResult a (carried authentication)).run (exec sha256) w).1.toOption =
    if welcomes a w authentication then some (bare authentication) else none := by
  unfold redeemResult
  rw [Prog.bind_eq,Prog.run_bind,currentMaximum_run]
  have trusted : (((w.providers authentication.outcome.provider).bind fun provider =>
      (a.trustPolicy.maximumFor authentication.outcome.provider).map fun configured =>
        lower configured provider.maximumClaimableAssurance).any fun maximum =>
          meetsAssurance maximum authentication.outcome.claimedAssurance) =
      trusts a w authentication.outcome.provider authentication.outcome.claimedAssurance := by
    cases known : w.providers authentication.outcome.provider <;>
      cases configured : a.trustPolicy.maximumFor authentication.outcome.provider <;> simp [trusts,known,configured]
  dsimp only [carried]
  rw [trusted]
  unfold welcomes
  cases trusts a w authentication.outcome.provider authentication.outcome.claimedAssurance with
  | false => rfl
  | true =>
    obtain ⟨r,ran,admitted⟩ := @requireActive_run a sha256 w authentication.identity
    rw [← admitted,Bool.not_true,Prog.refuseIf_false,Prog.bind_eq,Prog.ret_bind,Prog.bind_eq,Prog.run_bind,ran]
    cases r with
    | error e => rfl
    | ok done =>
      dsimp only
      rw [ask,Prog.bind_eq,Prog.run_perform_bind]
      have owner : ((exec sha256 (.ownerOf ⟨authentication.outcome.provider,authentication.outcome.subject,none,none,none⟩)
          w).1.toOption.any fun owner => owner == some authentication.identity) =
          (w.directory.owners[(⟨authentication.outcome.provider,authentication.outcome.subject⟩ : ExternalKey)]? ==
            some authentication.identity) := rfl
      rw [owner]
      cases w.directory.owners[(⟨authentication.outcome.provider,authentication.outcome.subject⟩ : ExternalKey)]? ==
          some authentication.identity with
      | false => rfl
      | true =>
        rw [bare_created]
        rfl

theorem redeem_run (parsed : parseTicket ticket = some (result.id.value,nonce))
    (stored : w.transactions[result.id]? = some result) (carries : Carries authentication result)
    (digested : sha256 nonce = .ok result.nonceDigest) (alive : w.clock < result.expiresAt) :
    ((redeemBrowserAuthenticationHandoff a ticket).run (exec sha256) w).1.toOption =
      if legible authentication && welcomes a w authentication then some (bare authentication) else none := by
  have consumed : w.transactions.consume ⟨result.id.value⟩ (sha256 nonce) 0 w.clock =
      (.ok { result with state := .consumed },w.transactions.insert result.id { result with state := .consumed }) := by
    have unexpired : result.isExpiredAt w.clock = false := by simpa [AuthenticationTransaction.isExpiredAt] using alive
    simp [TransactionStore.consume,stored,AuthenticationTransaction.consume,carries.pending,unexpired,digested,
      carries.binding,Except.map]
  unfold redeemBrowserAuthenticationHandoff
  rw [parsed]
  simp only [Prog.bind_eq,ask,Prog.run_perform_bind,exec,consumed]
  have named : decide (result.provider.value ≠ kAuthenticationHandoffResultProvider) = false := by
    simp [carries.provider]
  have read : readResult result.metadata = _ := carries.metadata ▸ readResult_written authentication
  simp only [Prog.check,Prog.ret_bind,named,Prog.refuseIf_false,read]
  cases legible authentication with
  | false => rfl
  | true => exact redeemResult_run

def Disturbs (result : AuthenticationTransaction) : Exchange AuthOp AuthOp.Ret → Prop
  | ⟨.consume id ..,_⟩ => id = result.id
  | ⟨.purgeExpired now,_⟩ => result.expiresAt ≤ now
  | _ => False

theorem undisturbed_kept (undisturbed : ¬Disturbs result ⟨op,(exec sha256 op w).1⟩)
    (stored : w.transactions[result.id]? = some result) : (exec sha256 op w).2.transactions[result.id]? = some result := by
  cases op with
  | begin_ transaction =>
    unfold exec TransactionStore.begin_
    dsimp only
    split
    · exact stored
    · rename_i fresh
      have other : transaction.id ≠ result.id := by
        intro same
        simp [Map.holds,same,stored] at fresh
      simpa [other] using stored
  | consume id nonce binding now =>
    have other : id ≠ result.id := undisturbed
    unfold exec TransactionStore.consume
    dsimp only
    split
    · exact stored
    · simpa [other] using stored
  | purgeExpired now =>
    have alive : result.isExpiredAt now = false := by
      simpa [AuthenticationTransaction.isExpiredAt,Disturbs] using undisturbed
    unfold exec TransactionStore.purgeExpired
    dsimp only
    rw [Std.ExtTreeMap.getElem?_filter',stored]
    simp [alive]
  | _ => exact stored

def Answers (a : Authenticator) (handoff : BrowserAuthenticationHandoff) (result : AuthenticationTransaction) : Prop :=
  ∃ secret,handoff.redeemTicket = ticketOf result.id.value secret ∧ a.sha256 secret = .ok result.nonceDigest ∧
    handoff.expiresAt = result.expiresAt

theorem promise_kept (promises : Promises handoff a.sha256 opened resultId secret)
    (same : consumed = { opened with state := .consumed }) (publishes : Publishes authentication consumed result) :
    Answers a handoff result := by
  cases same
  obtain ⟨digest,digested,held⟩ := promises.digested
  obtain ⟨text,state,read⟩ := publishes.state
  unfold publisherState at state
  rw [promises.named,held] at state
  split at state
  · rename_i provider id hex here there everywhere
    cases there
    cases everywhere
    split at state
    · cases state
    · simp only [Option.some.injEq,Prod.mk.injEq] at state
      obtain ⟨-,identified,written⟩ := state
      rw [← written,parseDigestHex_digestHex,Option.some.injEq] at read
      refine ⟨secret,?_,?_,promises.expiresAt.trans publishes.expiresAt.symm⟩
      · rw [← identified]
        exact promises.ticket
      · rw [digested,read]
  · cases state

end

def Published (floor : HandoffFloor) (authentication : VerifiedAuthentication) (entry : AuthEntry)
    (result : AuthenticationTransaction) : Prop :=
  ∃ ticket rest,floor.members[entry.caller]? = some ⟨publishing ticket authentication,rest⟩ ∧
    entry.exchange = ⟨.begin_ result,.ok ()⟩

section
variable {sha256 : Text → Result Sha256Digest} {initial : AuthState} {floor : HandoffFloor} {entry : AuthEntry}
  {authentication : VerifiedAuthentication} {result : AuthenticationTransaction}

section
variable (played : Plays (stage sha256) initial floor)
include played

theorem published_carries (inside : entry ∈ floor.log) (published : Published floor authentication entry result) : Carries authentication result := by
  obtain ⟨ticket,rest,member,exchanged⟩ := published
  have carries := played.only member (replying_only publish_begun) entry inside rfl
  rw [exchanged] at carries
  exact carries

theorem publishing_published {ticket : Text}
    (finished : floor.members[j]? = some ⟨publishing ticket authentication,.ret .published⟩) :
    ∃ taken ∈ floor.log,∃ opened,Takes taken opened ∧ ∃ begun ∈ floor.log,begun.caller = j ∧
      ∃ result,Published floor authentication begun result ∧
        Publishes authentication { opened with state := .consumed } result := by
  obtain ⟨done,-,id,nonce,now,later,consumed,result,parsed,shape,publishes⟩ :=
    replying_yields publish_yields _ _ (played.returned finished)
  have redeems : ⟨.consume ⟨id⟩ nonce 0 now,.ok consumed⟩ ∈ own j floor.log := by simp [shape]
  have begins : ⟨.begin_ result,.ok ()⟩ ∈ own j floor.log := by simp [shape]
  obtain ⟨taken,logged,-,exchanged⟩ := mem_own.mp redeems
  obtain ⟨begun,told,rfl,stored⟩ := mem_own.mp begins
  obtain ⟨opened,found,redeemed⟩ := redemption_found played logged exchanged
  rw [redeemed.consumed] at publishes
  exact ⟨taken,logged,opened,⟨_,_,_,_,_,exchanged,found⟩,begun,told,rfl,result,⟨ticket,_,finished,stored⟩,publishes⟩

theorem issuing_promises {a : Authenticator} (inside : entry ∈ floor.log)
    (finished : floor.members[entry.caller]? = some ⟨issuing a providerId correlation,.ret (.issued handoff)⟩)
    (began : entry.exchange = ⟨.begin_ opened,.ok ()⟩) :
    ∃ resultId secret,Promises handoff a.sha256 opened resultId secret := by
  obtain ⟨value,same,resultId,secret,promises⟩ := replying_yields issue_yields _ _ (played.returned finished)
  cases same
  exact ⟨resultId,secret,promises opened (mem_own.mpr ⟨entry,inside,rfl,began⟩)⟩

theorem waiting_redeemed {a : Authenticator} {ticket nonce : Text}
    (published : Published floor authentication entry result) (split : floor.log = before ++ entry :: rest)
    (undisturbed : ∀ later ∈ rest,¬Disturbs result later.exchange)
    (parsed : parseTicket ticket = some (result.id.value,nonce)) (digested : sha256 nonce = .ok result.nonceDigest)
    (alive : floor.world.clock < result.expiresAt) :
    ((redeemBrowserAuthenticationHandoff a ticket).run (exec sha256) floor.world).1.toOption =
      if legible authentication && welcomes a floor.world authentication then some (bare authentication) else none := by
  have inside : entry ∈ floor.log := by simp [split]
  have carries := published_carries played inside published
  obtain ⟨-,-,-,exchanged⟩ := published
  have answered := played.answered entry inside
  have stored : ((stage sha256).exec entry.exchange.1 entry.found).2.transactions[result.id]? = some result := by
    rw [exchanged] at answered ⊢
    have done : (entry.found.transactions.begin_ result).1 = .ok () := answered.symm
    unfold TransactionStore.begin_ at done
    split at done
    · cases done
    · rename_i fresh
      change (entry.found.transactions.begin_ result).2[result.id]? = some result
      unfold TransactionStore.begin_
      simp [fresh]
  refine redeem_run parsed ?_ carries digested alive
  refine played.since (φ:=fun w => w.transactions[result.id]? = some result) ?_ before entry rest split stored ?_
  · intro w w' same held
    rw [show w'.transactions = w.transactions from same]
    exact held
  · intro later member held
    refine undisturbed_kept ?_ held
    have answered := played.answered later (by simp [split,member])
    intro disturbs
    apply undisturbed later member
    have same : later.exchange = ⟨later.exchange.1,(exec sha256 later.exchange.1 later.found).1⟩ :=
      Sigma.ext rfl (heq_of_eq answered)
    rw [same]
    exact disturbs

end

-- What a redemption gives back for what it took: the same fields, at a time before the expiry.
structure Restored (floor : HandoffFloor) (taken : AuthEntry) (result : AuthenticationTransaction)
    (authentication value : VerifiedAuthentication) : Prop where
  same : carried value = carried authentication
  timely : ∃ id nonce now after,taken.exchange = ⟨.consume id nonce 0 now,.ok after⟩ ∧
    ⟨.now,now⟩ ∈ own taken.caller floor.log ∧ now < result.expiresAt

theorem redeeming_takes {a : Authenticator} {ticket : Text} (played : Plays (stage sha256) initial floor)
    (finished : floor.members[i]? = some ⟨redeeming a ticket,.ret (.redeemed value)⟩) :
    ∃ id nonce,Redemption (Restores value) id nonce 0 (own i floor.log) := by
  obtain ⟨again,same,id,nonce,-,redemption⟩ := replying_yields redeem_redeems _ _ (played.returned finished)
  cases same
  exact ⟨⟨id⟩,nonce,redemption⟩

theorem redeeming_restores {a : Authenticator} {ticket : Text} (played : Plays (stage sha256) initial floor)
    (told : entry ∈ floor.log) (published : Published floor authentication entry result) (inside : taken ∈ floor.log)
    (finished : floor.members[taken.caller]? = some ⟨redeeming a ticket,.ret (.redeemed value)⟩)
    (takes : Takes taken result) : Restored floor taken result authentication value := by
  obtain ⟨id,nonce,redemption⟩ := redeeming_takes played finished
  have restores : Restores value { result with state := .consumed } := taken_wanted played redemption inside rfl takes
  have carries := published_carries played told published
  constructor
  · have read : readResult result.metadata = .ok (carried value) := restores.read
    rw [carries.metadata,readResult_written] at read
    split at read
    · exact (Except.ok.inj read).symm
    · cases read
  · obtain ⟨other,shown,agent,now,after,exchanged,found⟩ := takes
    obtain ⟨stored,there,redeemed⟩ := redemption_found played inside exchanged
    cases found.symm.trans there
    obtain ⟨rfl,rfl,rfl,looked,-⟩ := redemption.unique (mem_own.mpr ⟨taken,inside,rfl,exchanged⟩)
    exact ⟨other,shown,now,after,exchanged,looked,redeemed.alive⟩

end

-- The authentication comes back as it was put in, to the ticket it was issued for, in time and once.
theorem handoffs_restored {sha256 : Text → Result Sha256Digest} {initial : AuthState} {floor : HandoffFloor}
    (played : Plays (stage sha256) initial floor) :
    (∀ j ticket authentication,floor.members[j]? = some ⟨publishing ticket authentication,.ret .published⟩ →
      ∃ taken ∈ floor.log,∃ opened,Takes taken opened ∧ ∃ begun ∈ floor.log,begun.caller = j ∧
        ∃ result,Published floor authentication begun result ∧
          ∀ issued ∈ floor.log,∀ a providerId correlation handoff,issued.exchange = ⟨.begin_ opened,.ok ()⟩ →
            floor.members[issued.caller]? = some ⟨issuing a providerId correlation,.ret (.issued handoff)⟩ →
              Answers a handoff result) ∧
    (∀ i a ticket value,floor.members[i]? = some ⟨redeeming a ticket,.ret (.redeemed value)⟩ →
      ∃ taken ∈ floor.log,taken.caller = i ∧ ∃ result,Takes taken result ∧
        readResult result.metadata = .ok (carried value) ∧
          ((∃ id : TransactionId,initial.transactions[id]? = some result) ∨
            ∃ earlier,[earlier,taken].Sublist floor.log ∧ earlier.exchange = ⟨.begin_ result,.ok ()⟩)) ∧
    (∀ entry ∈ floor.log,∀ authentication result,Published floor authentication entry result →
      (∀ taken ∈ floor.log,Takes taken result → ∀ a ticket value,
        floor.members[taken.caller]? = some ⟨redeeming a ticket,.ret (.redeemed value)⟩ →
          Restored floor taken result authentication value) ∧
      ∀ before rest,floor.log = before ++ entry :: rest → (∀ later ∈ rest,¬Disturbs result later.exchange) →
        ∀ a ticket nonce,parseTicket ticket = some (result.id.value,nonce) → sha256 nonce = .ok result.nonceDigest →
          floor.world.clock < result.expiresAt →
            ((redeemBrowserAuthenticationHandoff a ticket).run (exec sha256) floor.world).1.toOption =
              if legible authentication && welcomes a floor.world authentication then some (bare authentication)
              else none) ∧ ∀ id before (one : Entry _ _ _) (between : List (Entry _ _ _)) (two : Entry _ _ _) after,floor.log = before ++ one :: (between ++ two :: after) →
      Consumes id one.exchange → Consumes id two.exchange → ∃ entry ∈ between,Begins id entry.exchange := by
  refine ⟨?_,?_,?_,fun id => (consumed_once id).twice played⟩
  · intro j ticket authentication finished
    obtain ⟨taken,logged,opened,takes,begun,told,mine,result,published,publishes⟩ := publishing_published played finished
    refine ⟨taken,logged,opened,takes,begun,told,mine,result,published,?_⟩
    intro issued inside a providerId correlation handoff began member
    obtain ⟨resultId,secret,promises⟩ := issuing_promises played inside member began
    exact promise_kept promises rfl publishes
  · intro i a ticket value finished
    obtain ⟨id,nonce,redemption⟩ := redeeming_takes played finished
    obtain ⟨taken,inside,mine,now,stored,after,exchanged,found,redeemed,restores⟩ := redemption_taken played redemption
    rw [redeemed.consumed] at restores
    refine ⟨taken,inside,mine,stored,⟨id,nonce,0,now,after,exchanged,found⟩,restores.read,?_⟩
    rcases waiting_begun played inside ⟨found,redeemed.pending⟩ with before | ⟨earlier,order,brought⟩
    · exact .inl ⟨id,before⟩
    · exact .inr ⟨earlier,order,brought.2⟩
  · intro entry told authentication result published
    constructor
    · intro taken inside takes a ticket value finished
      exact redeeming_restores played told published inside finished takes
    · intro before rest split undisturbed a ticket nonce parsed digested alive
      exact waiting_redeemed played published split undisturbed parsed digested alive

theorem demo_named : (⟨"mail"⟩ : Identities.ProviderId).empty = false ∧ (⟨"ann"⟩ : ExternalSubject).empty = false := ⟨rfl,rfl⟩

def demoAuthentication : VerifiedAuthentication :=
  ⟨⟨⟨"mail"⟩,⟨"ann"⟩,⟨∅⟩,.ial1,⟨Identities.AuthenticationFactor.knowledge,false⟩,∅,5,demo_named⟩,⟨"me"⟩⟩

def tokenTurn (token : Text) : Turn AuthOp AuthOp.Ret Error HandoffReply AuthState :=
  .drift fun w => { w with randomness := fun _ => .ok token }

def suspendTurn : Turn AuthOp AuthOp.Ret Error HandoffReply AuthState :=
  .drift fun w => { w with identities := Std.ExtTreeMap.insert ∅ ⟨"me"⟩ ⟨⟨"org"⟩,⟨⟨"me"⟩,.human,.suspended,0⟩⟩ }

def demoHandoff (meanwhile : List (Turn AuthOp AuthOp.Ret Error HandoffReply AuthState)) (count : Nat) :
    List (Turn AuthOp AuthOp.Ret Error HandoffReply AuthState) :=
  [.enter (issuing demoAuthenticator ⟨"mail"⟩ "flow")] ++ steps 0 4 ++ [tokenTurn "result"] ++ steps 0 4 ++
    [.enter (publishing "token.token" demoAuthentication)] ++ steps 1 4 ++ meanwhile ++
      [.enter (redeeming demoAuthenticator "result.result")] ++ steps 2 count

def issuedTicket : Result HandoffReply → Option BrowserAuthenticationHandoff
  | .ok (.issued handoff) => some handoff
  | _ => none

def publishedIt : Result HandoffReply → Bool
  | .ok .published => true
  | _ => false

def redeemedIt : Result HandoffReply → Option VerifiedAuthentication
  | .ok (.redeemed value) => some value
  | _ => none

theorem issued_shape (issued : issuedTicket r = some handoff) : r = .ok (.issued handoff) := by
  unfold issuedTicket at issued
  split at issued
  · cases issued
    rfl
  · cases issued

theorem published_shape (published : publishedIt r = true) : r = .ok .published := by
  unfold publishedIt at published
  split at published
  · rfl
  · cases published

theorem redeemed_shape (redeemed : redeemedIt r = some value) : r = .ok (.redeemed value) := by
  unfold redeemedIt at redeemed
  split at redeemed
  · cases redeemed
    rfl
  · cases redeemed

-- A published handoff is refused in time when its identity has been suspended meanwhile.
theorem handoff_refused : ∃ (floor : HandoffFloor) (handoff : BrowserAuthenticationHandoff) (e : Error),
    Plays (stage demoSha256) demoHandoffWorld floor ∧
    floor.members[0]? = some ⟨issuing demoAuthenticator ⟨"mail"⟩ "flow",.ret (.issued handoff)⟩ ∧
    floor.members[1]? = some ⟨publishing handoff.publisherTicket demoAuthentication,.ret .published⟩ ∧
    floor.members[2]? = some ⟨redeeming demoAuthenticator handoff.redeemTicket,.fail e⟩ ∧
      floor.world.clock < handoff.expiresAt := by
  have done : (takeTurns (exec demoSha256) (demoHandoff [suspendTurn] 5) (⟨demoHandoffWorld,[],[]⟩ : HandoffFloor)).any
      (fun floor => ((floor.members[0]?.bind fun m => ended m.rest).any fun r => (issuedTicket r).any fun handoff =>
          handoff.publisherTicket == Text.of "token.token" && handoff.redeemTicket == Text.of "result.result" &&
            floor.world.clock < handoff.expiresAt) &&
        (floor.members[1]?.bind fun m => ended m.rest).any publishedIt &&
          (floor.members[2]?.bind fun m => ended m.rest).any fun r => !r.isOk) = true := by
    decide
  obtain ⟨floor,taken,holds⟩ := (Option.any_eq_true _ _).mp done
  simp only [Bool.and_eq_true] at holds
  obtain ⟨⟨zero,one⟩,two⟩ := holds
  obtain ⟨_,issued,asked⟩ := takeTurns_ended taken (show _ = some (issuing demoAuthenticator ⟨"mail"⟩ "flow") from rfl) zero
  obtain ⟨_,published,told⟩ :=
    takeTurns_ended taken (show _ = some (publishing "token.token" demoAuthentication) from rfl) one
  obtain ⟨r,refused,failed⟩ := takeTurns_ended taken (show _ = some (redeeming demoAuthenticator "result.result") from rfl) two
  obtain ⟨handoff,shape,known⟩ := (Option.any_eq_true _ _).mp asked
  cases issued_shape shape
  cases published_shape told
  simp only [Bool.and_eq_true,beq_iff_eq,decide_eq_true_eq] at known
  obtain ⟨⟨publisher,redeemer⟩,timely⟩ := known
  cases r with
  | ok reply => cases failed
  | error e =>
    refine ⟨floor,handoff,e,Plays.start.turns ?_ taken,issued,?_,?_,timely⟩
    · simp [demoHandoff,steps,Turn.Allowed,tokenTurn,suspendTurn,stage]
    · rw [publisher]
      exact published
    · rw [redeemer]
      exact refused

theorem handoffs_restored_whole : ∃ (floor : HandoffFloor) (value : VerifiedAuthentication),
    Plays (stage demoSha256) demoHandoffWorld floor ∧
    floor.members[1]? = some ⟨publishing "token.token" demoAuthentication,.ret .published⟩ ∧
    floor.members[2]? = some ⟨redeeming demoAuthenticator "result.result",.ret (.redeemed value)⟩ ∧
    carried value = carried demoAuthentication ∧ ∃ earlier taken result,[earlier,taken].Sublist floor.log ∧
      Takes taken result ∧ ∀ authentication,Published floor authentication earlier result →
        Restored floor taken result authentication value := by
  have done : (takeTurns (exec demoSha256) (demoHandoff [] 6) (⟨demoHandoffWorld,[],[]⟩ : HandoffFloor)).any
      (fun floor => (floor.members[1]?.bind fun m => ended m.rest).any publishedIt &&
        (floor.members[2]?.bind fun m => ended m.rest).any fun r => (redeemedIt r).any fun value =>
          carried value == carried demoAuthentication) = true := by
    decide
  obtain ⟨floor,taken,holds⟩ := (Option.any_eq_true _ _).mp done
  simp only [Bool.and_eq_true] at holds
  obtain ⟨one,two⟩ := holds
  obtain ⟨_,published,told⟩ :=
    takeTurns_ended taken (show _ = some (publishing "token.token" demoAuthentication) from rfl) one
  obtain ⟨_,redeemed,read⟩ := takeTurns_ended taken (show _ = some (redeeming demoAuthenticator "result.result") from rfl) two
  obtain ⟨value,shape,same⟩ := (Option.any_eq_true _ _).mp read
  cases published_shape told
  cases redeemed_shape shape
  have played : Plays (stage demoSha256) demoHandoffWorld floor := by
    refine Plays.start.turns ?_ taken
    simp [demoHandoff,steps,Turn.Allowed,tokenTurn,stage]
  obtain ⟨-,takes,restored,-⟩ := handoffs_restored played
  obtain ⟨entry,inside,mine,result,took,-,⟨id,impossible⟩ | ⟨earlier,order,began⟩⟩ := takes 2 _ _ _ redeemed
  · rw [show demoHandoffWorld.transactions = ∅ from rfl,Std.ExtTreeMap.getElem?_empty] at impossible
    cases impossible
  · refine ⟨floor,value,played,published,redeemed,beq_iff_eq.mp same,earlier,entry,result,order,took,?_⟩
    intro authentication publication
    refine (restored earlier (order.subset List.mem_cons_self) authentication result publication).1 entry inside took
      demoAuthenticator "result.result" value ?_
    rw [mine]
    exact redeemed

end OpenProof.HandoffRuns
