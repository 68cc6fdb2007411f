import OpenProof.Services

namespace OpenProof.TokenService
open AtomicPrograms Foundation World Services AtomicPrograms.Prog Identities Clients Resources Authorizations
open Tokens

variable (d : Deployment)

def invalidToken (detail : Text) : Error :=
  .of .authenticationFailed (defaultErrorMessage .authenticationFailed) detail

def sameConstraint (expected presented : Option SenderConstraint) : Bool :=
  (expected.isNone && presented.isNone)
    || match expected,presented with
      | some expected,some presented =>
        expected.kind == presented.kind && expected.value == presented.value
      | _,_ => false

theorem sameConstraint_eq_true : sameConstraint expected presented = true ↔ expected = presented := by
  cases expected <;> cases presented <;> simp [sameConstraint,SenderConstraint.ext_iff]

structure TokenGrant where
  accessToken : Text
  refreshToken : Text
  expiresIn : Duration
  context : TokenContext

structure MachineTokenGrant where
  accessToken : Text
  expiresIn : Duration
  context : TokenContext

structure TokenClaims where
  context : TokenContext
  issuedAt : Instant
  expiresAt : Instant

def digest (token : Text) : Result TokenDigest :=
  if token.isEmpty || token.length > 256 then
    .error (invalidToken "An invalid OAuth token was presented.")
  else d.hmacSha256 d.tokenKey token

def makeInitial (context : TokenContext) : Call TokenGrant := do
  let _ ← ClientManager.requireActive context.client
  let familyRaw ← ask (.random 24)
  let accessRaw ← ask (.random 32)
  let refreshRaw ← ask (.random 32)
  let family ← check familyRaw
  let accessRaw ← check accessRaw
  let refreshRaw ← check refreshRaw
  let access := Text.of "opa_" ++ accessRaw
  let refresh := Text.of "opr_" ++ refreshRaw
  let accessDigest ← check (digest d access)
  let refreshDigest ← check (digest d refresh)
  let at_ ← now
  check (← ask (.token (.storeInitial
    (.fresh accessDigest ⟨family⟩ context at_ (at_+d.accessLifetime))
    (.fresh refreshDigest ⟨family⟩ 0 context at_ (at_+d.refreshLifetime)))))
  return ⟨access,refresh,d.accessLifetime,context⟩

def contextOfCode (code : AuthorizationCode) (senderConstraint : Option SenderConstraint) : TokenContext where
  client := code.clientId
  identity := code.identity
  provider := code.provider
  assurance := code.assurance
  strength := code.strength
  scopes := .ofList (code.scopes.map Scope.value)
  authenticatedAt := code.authenticatedAt
  audiences := .ofList code.resource.toList
  senderConstraint := senderConstraint

def issue (authorization : AuthorizationCode) (senderConstraint : Option SenderConstraint) :
    Call TokenGrant :=
  makeInitial d (contextOfCode authorization senderConstraint)

def contextOfDevice (authorization : DeviceAuthorization) (senderConstraint : Option SenderConstraint) :
    Option TokenContext := do
  if authorization.status ≠ .consumed then none
  return {
    client := authorization.clientId
    identity := ← authorization.identity
    provider := ← authorization.provider
    assurance := ← authorization.assurance
    strength := ← authorization.strength
    scopes := .ofList (authorization.scopes.map Scope.value)
    authenticatedAt := ← authorization.authenticatedAt
    audiences := .ofList authorization.resource.toList
    senderConstraint := senderConstraint }

theorem contextOfDevice_spec (made : contextOfDevice authorization senderConstraint = some context) :
    context.client = authorization.clientId ∧ context.scopes = .ofList (authorization.scopes.map Scope.value) ∧
        context.audiences = .ofList authorization.resource.toList := by
  unfold contextOfDevice at made
  simp only [Option.bind_eq_bind,Option.pure_def] at made
  split at made
  · cases made
  · simp only [Option.bind_eq_some_iff,Option.some.injEq] at made
    obtain ⟨identity,_,provider,_,assurance,_,strength,_,authenticatedAt,_,rfl⟩ := made
    exact ⟨rfl,rfl,rfl⟩

def issueDeviceAuthorization (authorization : DeviceAuthorization)
    (senderConstraint : Option SenderConstraint) : Call TokenGrant :=
  match contextOfDevice authorization senderConstraint with
  | none => .fail (.because .failedPrecondition
      "The device authorization has not been consumed safely.")
  | some context => makeInitial d context

def storeMachineToken (context : Instant → TokenContext) : Call MachineTokenGrant := do
  let familyRaw ← ask (.random 24)
  let accessRaw ← ask (.random 32)
  let family ← check familyRaw
  let accessRaw ← check accessRaw
  let access := Text.of "opa_" ++ accessRaw
  let accessDigest ← check (digest d access)
  let at_ ← now
  check (← ask (.token (.storeAccessOnly
    (.fresh accessDigest ⟨family⟩ (context at_) at_ (at_+d.accessLifetime)))))
  return ⟨access,d.accessLifetime,context at_⟩

def machineContext (service : ServiceIdentity) (audience : Text) (scopes : List Text)
    (senderConstraint : Option SenderConstraint) (now : Instant) : TokenContext where
  client := service.client
  identity := service.identity
  provider := ⟨"client_credentials"⟩
  assurance := .ial1
  strength := ⟨AuthenticationFactor.knowledge,false⟩
  scopes := .ofList scopes
  authenticatedAt := now
  audiences := .ofList [audience]
  senderConstraint := senderConstraint

def issueClientCredentials (service : ServiceIdentity) (audience : Text) (scopes : List Text)
    (senderConstraint : Option SenderConstraint) : Call MachineTokenGrant := do
  refuseIf (!service.active || !service.permitsAudience audience || !service.permitsScopes scopes
      || scopes.isEmpty)
    (.because .permissionDenied "The service identity does not permit the requested machine grant.")
  let activeClient ← (ClientManager.requireActive service.client).mapError fun _ =>
    ClientManager.authenticationError
  refuseIf (activeClient.kind != .service) ClientManager.authenticationError
  storeMachineToken d (machineContext service audience scopes senderConstraint)

def introspect (accessToken : Text) : Call TokenClaims := do
  let fingerprint ← check (digest d accessToken)
  let record ← check (← ask (.token (.findAccess fingerprint)))
  let at_ ← now
  refuseIf (!record.usableAt at_) (invalidToken "The access token is inactive.")
  let _ ← (ClientManager.requireActive record.context.client).mapError fun _ =>
    invalidToken "The OAuth client is inactive."
  return ⟨record.context,record.issuedAt,record.expiresAt⟩

def exchangeScopes (source : TokenContext) (scopes : List Text) : List Text :=
  if scopes.isEmpty then source.scopes.items else scopes

def exchangeContext (clientId : ClientId) (source : TokenContext) (audience : Text)
    (scopes : List Text) (senderConstraint : Option SenderConstraint) : TokenContext where
  client := clientId
  identity := source.identity
  provider := source.provider
  assurance := source.assurance
  strength := source.strength
  scopes := .ofList scopes
  authenticatedAt := source.authenticatedAt
  audiences := .ofList [audience]
  senderConstraint := senderConstraint

def issueTokenExchange (clientId : ClientId) (subjectToken audience : Text) (scopes : List Text)
    (senderConstraint : Option SenderConstraint) : Call MachineTokenGrant := do
  let source ← introspect d subjectToken
  refuseIf (source.context.client != clientId)
    (.because .authenticationFailed "The subject token is not bound to this client.")
  refuseIf (!sameConstraint source.context.senderConstraint senderConstraint)
    (.because .authenticationFailed "The subject token sender binding is invalid.")
  refuseIf (audience.isEmpty || !source.context.permitsAudience audience)
    (.because .permissionDenied "Token exchange cannot widen the audience.")
  let scopes := exchangeScopes source.context scopes
  refuseIf (scopes.any fun scope => !source.context.permits scope)
    (.because .permissionDenied "Token exchange cannot widen scope.")
  storeMachineToken d fun _ => exchangeContext clientId source.context audience scopes senderConstraint

def makeRotation (current : RefreshTokenRecord) : Call TokenGrant := do
  let accessRaw ← ask (.random 32)
  let refreshRaw ← ask (.random 32)
  let accessRaw ← check accessRaw
  let refreshRaw ← check refreshRaw
  let access := Text.of "opa_" ++ accessRaw
  let refresh := Text.of "opr_" ++ refreshRaw
  let accessDigest ← check (digest d access)
  let refreshDigest ← check (digest d refresh)
  let at_ ← now
  -- Rotation does not extend the lifetime of the family.
  check (← ask (.token (.rotateRefresh current.digest at_
    (.fresh accessDigest current.family current.context at_ (at_+d.accessLifetime))
    (.fresh refreshDigest current.family (current.sequence+1) current.context at_ current.expiresAt))))
  return ⟨access,refresh,d.accessLifetime,current.context⟩

def refresh (clientId : ClientId) (refreshToken : Text) (senderConstraint : Option SenderConstraint) :
    Call TokenGrant := do
  let _ ← ClientManager.requireActive clientId
  let fingerprint ← check (digest d refreshToken)
  let current ← check (← ask (.token (.findRefresh fingerprint)))
  refuseIf (current.context.client != clientId)
    (invalidToken "Refresh token client binding mismatch.")
  refuseIf (!sameConstraint current.context.senderConstraint senderConstraint)
    (invalidToken "Refresh token sender binding mismatch.")
  makeRotation d current

def revokeDigest (fingerprint : TokenDigest) : Call Unit := do
  let at_ ← now
  check (← ask (.token (.revokeToken fingerprint at_)))

def revoke (token : Text) : Call Unit :=
  match digest d token with
  | .error _ => .ret ()
  | .ok fingerprint => revokeDigest fingerprint

def revokeForClient (clientId : ClientId) (token : Text) : Call Unit :=
  match digest d token with
  | .error _ => .ret ()
  | .ok fingerprint => do
    let access ← ask (.token (.findAccess fingerprint))
    if access.toOption.any fun record => record.context.client = clientId then
      revokeDigest fingerprint
    else do
      let refresh ← ask (.token (.findRefresh fingerprint))
      if refresh.toOption.any fun record => record.context.client = clientId then
        revokeDigest fingerprint
      else .ret ()

-- The checks `issueTokenExchange` makes on the subject token before it stores anything.
structure Exchangeable (source : TokenContext) (clientId : ClientId) (audience : Text)
    (scopes : List Text) (senderConstraint : Option SenderConstraint) : Prop where
  client : source.client = clientId
  senderConstraint : source.senderConstraint = senderConstraint
  audience : audience ∈ source.audiences.items
  scopes : ∀ scope ∈ scopes,scope = [] ∨ scope ∈ source.scopes.items

-- One specification per call, over any contract in which lookups are harmless:
-- a call keeps the contract when the one write it makes does.
section

def initialOp (context : TokenContext) (family : TokenFamilyId) (at_ : Instant)
    (accessDigest refreshDigest : TokenDigest) : Op :=
  .token (.storeInitial (.fresh accessDigest family context at_ (at_+d.accessLifetime))
    (.fresh refreshDigest family 0 context at_ (at_+d.refreshLifetime)))

def machineOp (context : TokenContext) (family : TokenFamilyId) (at_ : Instant)
    (digest : TokenDigest) : Op :=
  .token (.storeAccessOnly (.fresh digest family context at_ (at_+d.accessLifetime)))

def rotationOp (current : RefreshTokenRecord) (at_ : Instant)
    (accessDigest refreshDigest : TokenDigest) : Op :=
  .token (.rotateRefresh current.digest at_
    (.fresh accessDigest current.family current.context at_ (at_+d.accessLifetime))
    (.fresh refreshDigest current.family (current.sequence+1) current.context at_ current.expiresAt))

section
variable (lenient : Lenient admits rely guar born)
include lenient

theorem makeInitial_safe (stable : Stable rely φ) (known : φ h) (context : TokenContext)
    (stores : ∀ later family at_ accessDigest refreshDigest,φ later → admits (initialOp d context family at_ accessDigest refreshDigest) later → guar born later (exec (initialOp d context family at_ accessDigest refreshDigest) later.now).2) :
    Safe (Shared admits rely guar) born (returns fun _ _ => True) (makeInitial d context) h := by
  refine lenient.past stable (ClientManager.looks_requireActive _) known fun _ _ known => ?_
  refine lenient.past stable (looks_ask rfl) known fun familyRaw _ known => ?_
  refine lenient.past stable (looks_ask rfl) known fun accessRaw _ known => ?_
  refine lenient.past stable (looks_ask rfl) known fun refreshRaw _ known => ?_
  refine .check_bind fun family _ => .check_bind fun access _ => .check_bind fun refresh _ => ?_
  refine .check_bind fun accessDigest _ => .check_bind fun refreshDigest _ => ?_
  refine lenient.past stable looks_now known fun at_ _ known => ?_
  refine lenient.write stable known (fun later known admitted =>
    stores later ⟨family⟩ at_ accessDigest refreshDigest known admitted) fun _ _ _ => ?_
  exact .check_bind fun _ _ _ _ => trivial

theorem storeMachineToken_safe (stable : Stable rely φ) (known : φ h) (begun : born ≤ h.past.length)
    (context : Instant → TokenContext)
    (stores : ∀ later family at_ digest,φ later → Witnessed born (fun w => w.clock = at_) later → admits (machineOp d (context at_) family at_ digest) later → guar born later (exec (machineOp d (context at_) family at_ digest) later.now).2) :
    Safe (Shared admits rely guar) born (returns fun _ _ => True) (storeMachineToken d context) h := by
  have both := stable.and (stable_begun rely born)
  refine lenient.past both (looks_ask rfl) ⟨known,begun⟩ fun familyRaw _ known => ?_
  refine lenient.past both (looks_ask rfl) known fun accessRaw _ known => ?_
  refine .check_bind fun family _ => .check_bind fun access _ => .check_bind fun digest _ => ?_
  refine lenient.look both rfl known fun before known after => ?_
  have timed : Witnessed born (fun w => w.clock = (exec .now before.now).1)
      (before.push (exec .now before.now).2) :=
    (Witnessed.here (P:=fun w => w.clock = before.now.clock) known.2 rfl).push _
  refine lenient.write (both.and (Witnessed.stable rely born _)) ⟨after,timed⟩
    (fun later known admitted => stores later ⟨family⟩ _ digest known.1.1 known.2 admitted)
    fun _ _ _ => ?_
  exact .check_bind fun _ _ _ _ => trivial

theorem issueClientCredentials_safe (stable : Stable rely φ) (known : φ h) (begun : born ≤ h.past.length)
    (service : ServiceIdentity) (audience : Text) (scopes : List Text) (senderConstraint : Option SenderConstraint)
    (stores : ∀ later family at_ digest,φ later → Witnessed born (fun w => w.clock = at_) later → audience ∈ service.audiences.items → (∀ scope ∈ scopes,scope ∈ service.scopes.items) → admits (machineOp d (machineContext service audience scopes senderConstraint at_) family at_ digest) later → guar born later (exec (machineOp d (machineContext service audience scopes senderConstraint at_) family at_ digest) later.now).2) :
    Safe (Shared admits rely guar) born (returns fun _ _ => True)
      (issueClientCredentials d service audience scopes senderConstraint) h := by
  have both := stable.and (stable_begun rely born)
  refine .refuse_bind fun permitted => ?_
  simp only [Bool.or_eq_false_iff,Bool.not_eq_false',ServiceIdentity.permitsAudience,
    ServiceIdentity.permitsScopes,SortedList.SortedSet.contains_eq_true,
    SortedList.SortedSet.containsAll_eq_true] at permitted
  refine lenient.past both (.mapError _ (ClientManager.looks_requireActive _)) ⟨known,begun⟩
    fun _ _ known => ?_
  refine .refuse_bind fun _ => ?_
  exact storeMachineToken_safe d lenient stable known.1 known.2 _ fun later family at_ digest known timed =>
    stores later family at_ digest known timed permitted.1.1.2 permitted.1.2

end

structure Introspected (born : Nat) (claims : TokenClaims) (key : TokenDigest)
    (record : AccessTokenRecord) (h : History State) : Prop where
  claims : claims = ⟨record.context,record.issuedAt,record.expiresAt⟩
  stored : Witnessed born (fun w => w.tokens.access[key]? = some record) h
  usable : Witnessed born (fun w => record.usableAt w.clock = true) h

theorem Introspected.stable (rely : History State → State → Prop) (born : Nat) (claims : TokenClaims)
    (key : TokenDigest) (record : AccessTokenRecord) :
    Stable rely (Introspected born claims key record) := fun h w related known =>
  ⟨known.claims,Witnessed.stable rely born _ h w related known.stored,
    Witnessed.stable rely born _ h w related known.usable⟩

section
variable (lenient : Lenient admits rely guar born)
include lenient

theorem introspect_safe (begun : born ≤ h.past.length) (accessToken : Text) : Safe (Shared admits rely guar) born
      (returns fun claims later => ∃ key record,Introspected born claims key record later)
      (introspect d accessToken) h := by
  have begins := stable_begun rely born
  refine .check_bind fun fingerprint _ => ?_
  refine lenient.look begins rfl begun fun before begun after => ?_
  refine .check_bind fun record found => ?_
  have stored : before.now.tokens.access[fingerprint]? = some record := by
    change TokenStore.findAccess fingerprint before.now.tokens = .ok record at found
    unfold TokenStore.findAccess at found
    split at found
    · cases found
    · rename_i present
      cases found
      exact present
  have seen := (Witnessed.here (P:=fun w => w.tokens.access[fingerprint]? = some record) begun stored).push
    (exec (.token (.findAccess fingerprint)) before.now).2
  refine lenient.look (begins.and (Witnessed.stable rely born _)) rfl ⟨after,seen⟩
    fun moment known later => ?_
  refine .refuse_bind fun usable => ?_
  have live : Witnessed born (fun w => record.usableAt w.clock = true)
      (moment.push (exec .now moment.now).2) :=
    (Witnessed.here known.1 (by simpa [exec] using usable)).push _
  refine lenient.past ((Witnessed.stable rely born _).and (Witnessed.stable rely born _))
    (.mapError _ (ClientManager.looks_requireActive _)) ⟨later.2,live⟩ fun _ _ known => ?_
  refine .ret ?_ ⟨fingerprint,record,rfl,known.1,known.2⟩
  rintro h w related ⟨key,record,held⟩
  exact ⟨key,record,Introspected.stable rely born _ key record h w related held⟩

theorem issueTokenExchange_safe (stable : Stable rely φ) (known : φ h) (begun : born ≤ h.past.length)
    (clientId : ClientId) (subjectToken audience : Text) (scopes : List Text)
    (senderConstraint : Option SenderConstraint)
    (stores : ∀ later family at_ digest (key : TokenDigest) (record : AccessTokenRecord),φ later → Witnessed born (fun w => w.clock = at_) later → Witnessed born (fun w => w.tokens.access[key]? = some record) later → Witnessed born (fun w => record.usableAt w.clock = true) later → Exchangeable record.context clientId audience (exchangeScopes record.context scopes) senderConstraint → admits (machineOp d (exchangeContext clientId record.context audience (exchangeScopes record.context scopes) senderConstraint) family at_ digest) later → guar born later (exec (machineOp d (exchangeContext clientId record.context audience (exchangeScopes record.context scopes) senderConstraint) family at_ digest) later.now).2) :
    Safe (Shared admits rely guar) born (returns fun _ _ => True)
      (issueTokenExchange d clientId subjectToken audience scopes senderConstraint) h := by
  refine .seq lenient.honest (introspect_safe d lenient begun subjectToken) ?_
  rintro claims read grown ⟨key,record,found⟩
  have shown := found.claims
  subst shown
  refine .refuse_bind fun client => .refuse_bind fun constraint => .refuse_bind fun permitted => ?_
  refine .refuse_bind fun narrow => ?_
  have accepted : Exchangeable record.context clientId audience (exchangeScopes record.context scopes)
      senderConstraint := by
    refine ⟨by simpa using client,?_,?_,?_⟩
    · rw [← sameConstraint_eq_true]
      simpa using constraint
    · simp only [Bool.or_eq_false_iff,Bool.not_eq_false',TokenContext.permitsAudience_eq_true] at permitted
      rcases permitted.2 with empty | member
      · simp [empty] at permitted
      · exact member
    · intro scope member
      rw [← TokenContext.permits_eq_true]
      simp only [List.any_eq_false,Bool.not_eq_true',Bool.not_eq_false] at narrow
      exact narrow scope member
  have facts := stable.and ((Witnessed.stable rely born fun w => w.tokens.access[key]? = some record).and
    (Witnessed.stable rely born fun w => record.usableAt w.clock = true))
  exact storeMachineToken_safe d lenient facts ⟨grown.keep stable known,found.stored,found.usable⟩
    (Nat.le_trans begun grown.length) _ fun later family at_ digest known timed admitted =>
      stores later family at_ digest key record known.1 timed known.2.1 known.2.2 accepted admitted

theorem makeRotation_safe (stable : Stable rely φ) (known : φ h) (current : RefreshTokenRecord)
    (rotates : ∀ later at_ accessDigest refreshDigest,φ later → admits (rotationOp d current at_ accessDigest refreshDigest) later → guar born later (exec (rotationOp d current at_ accessDigest refreshDigest) later.now).2) :
    Safe (Shared admits rely guar) born (returns fun _ _ => True) (makeRotation d current) h := by
  refine lenient.past stable (looks_ask rfl) known fun accessRaw _ known => ?_
  refine lenient.past stable (looks_ask rfl) known fun refreshRaw _ known => ?_
  refine .check_bind fun access _ => .check_bind fun refresh _ => ?_
  refine .check_bind fun accessDigest _ => .check_bind fun refreshDigest _ => ?_
  refine lenient.past stable looks_now known fun at_ _ known => ?_
  refine lenient.write stable known (fun later known admitted =>
    rotates later at_ accessDigest refreshDigest known admitted) fun _ _ _ => ?_
  exact .check_bind fun _ _ _ _ => trivial

theorem refresh_safe {K : RefreshTokenRecord → History State → Prop} (stable : Stable rely φ)
    (kept : ∀ current,Stable rely (K current)) (known : φ h) (clientId : ClientId) (refreshToken : Text)
    (senderConstraint : Option SenderConstraint)
    (learns : ∀ before (key : TokenDigest) current,φ before → before.now.tokens.refresh[key]? = some current → K current (before.push before.now))
    (rotates : ∀ later current at_ accessDigest refreshDigest,K current later → admits (rotationOp d current at_ accessDigest refreshDigest) later → guar born later (exec (rotationOp d current at_ accessDigest refreshDigest) later.now).2) :
    Safe (Shared admits rely guar) born (returns fun _ _ => True)
      (refresh d clientId refreshToken senderConstraint) h := by
  refine lenient.past stable (ClientManager.looks_requireActive _) known fun _ _ known => ?_
  refine .check_bind fun fingerprint _ => ?_
  refine lenient.look stable rfl known fun before known _ => ?_
  refine .check_bind fun current found => ?_
  have stored : before.now.tokens.refresh[fingerprint]? = some current := by
    change TokenStore.findRefresh fingerprint before.now.tokens = .ok current at found
    unfold TokenStore.findRefresh at found
    split at found
    · cases found
    · rename_i present
      cases found
      exact present
  refine .refuse_bind fun _ => .refuse_bind fun _ => ?_
  exact makeRotation_safe d lenient (kept current) (learns before fingerprint current known stored) current
    fun later at_ accessDigest refreshDigest => rotates later current at_ accessDigest refreshDigest

theorem revokeDigest_safe (fingerprint : TokenDigest)
    (revokes : ∀ later at_,admits (.token (.revokeToken fingerprint at_)) later → guar born later (exec (.token (.revokeToken fingerprint at_)) later.now).2) :
    Safe (Shared admits rely guar) born (returns fun _ _ => True) (revokeDigest fingerprint) h := by
  have nothing := stable_true rely
  refine lenient.past nothing looks_now trivial fun at_ _ known => ?_
  refine lenient.write nothing known (fun later _ admitted => revokes later at_ admitted) fun _ _ _ => ?_
  exact lenient.looks (.check _ _)

theorem revoke_safe (token : Text)
    (revokes : ∀ later fingerprint at_,admits (.token (.revokeToken fingerprint at_)) later → guar born later (exec (.token (.revokeToken fingerprint at_)) later.now).2) :
    Safe (Shared admits rely guar) born (returns fun _ _ => True) (revoke d token) h := by
  unfold revoke
  split
  · exact fun _ _ => trivial
  · rename_i fingerprint _
    exact revokeDigest_safe lenient fingerprint fun later at_ => revokes later fingerprint at_

theorem revokeForClient_safe (clientId : ClientId) (token : Text)
    (revokes : ∀ later fingerprint at_,admits (.token (.revokeToken fingerprint at_)) later → guar born later (exec (.token (.revokeToken fingerprint at_)) later.now).2) :
    Safe (Shared admits rely guar) born (returns fun _ _ => True) (revokeForClient d clientId token) h := by
  unfold revokeForClient
  split
  · exact fun _ _ => trivial
  · rename_i fingerprint _
    have nothing := stable_true rely
    have ends : ∀ {h : History State},Safe (Shared admits rely guar) born (returns fun _ _ => True)
        (revokeDigest fingerprint) h :=
      revokeDigest_safe lenient fingerprint fun later at_ => revokes later fingerprint at_
    refine lenient.past nothing (looks_ask rfl) trivial fun access _ _ => ?_
    split
    · exact ends
    · refine lenient.past nothing (looks_ask rfl) trivial fun refresh _ _ => ?_
      split
      · exact ends
      · exact fun _ _ => trivial

end

end

end OpenProof.TokenService
