import OpenProof.GatewayHeaders

namespace OpenProof.GatewayContexts
open CallTraces Foundation Http GatewayRequests GatewayWorld SenderProofs GatewayHandler GatewayHeaders
open Identities

def setAll (table : List (Text × Text)) (request : HttpRequest) : HttpRequest :=
  table.foldr (fun entry request => request.setHeader entry.1 entry.2) request

theorem header_setAll : (setAll table request).header name = (table.lookup name).or (request.header name) := by
  induction table with
  | nil => rfl
  | cons entry rest ih =>
    obtain ⟨set,value⟩ := entry
    change ((setAll rest request).setHeader set value).header name = _
    rw [header_setHeader,List.lookup_cons]
    by_cases here : set = name
    · simp [here]
    · have other : (name == set) = false := beq_eq_false_iff_ne.mpr (Ne.symm here)
      simp [here,other,ih]

def sessionTable (route : Route) (accepted : Accepted) : List (Text × Text) :=
  (accepted.delegated.elim [] fun delegated =>
      [(Text.of "x-openproof-scopes",joinedScopes delegated.scopes.items),
        (Text.of "x-openproof-client-id",delegated.clientId)]) ++
    [(Text.of "x-openproof-organization",route.organization.value),
      (Text.of "x-openproof-assurance",assuranceLevelName accepted.session.assurance),
      (Text.of "x-openproof-provider",accepted.session.provider.value),
      (Text.of "x-openproof-identity",accepted.session.identity.value)]

def sealTable (correlation : Text) (now : Instant) (digest : Sha256Digest) : List (Text × Text) :=
  [(Text.of "x-openproof-context-signature",toHex (digestBytes digest)),
    (Text.of "x-openproof-context-issued-at",decimal now),(Text.of "x-openproof-request-id",correlation)]

theorem identified_table (route : Route) (accepted : Accepted) :
    identified route accepted = setAll (sessionTable route accepted) accepted.request := by
  unfold identified sessionTable
  cases accepted.delegated <;> rfl

theorem sealed_table :
    sealed (requestIdentified request) now digest = setAll (sealTable request.correlation now digest) request := rfl

def callerNames : List Text :=
  [Text.of "x-openproof-identity",Text.of "x-openproof-provider",Text.of "x-openproof-assurance",
    Text.of "x-openproof-organization",Text.of "x-openproof-client-id",Text.of "x-openproof-scopes"]

-- Everything an upstream is told in headers of the gateway's own names.
structure Context (route : Route) (request : HttpRequest) (trace : GatewayTrace) (sent : HttpRequest) : Prop where
  requestId : sent.header "x-openproof-request-id" = some request.correlation
  signed : ∃ now digest,⟨.now,now⟩ ∈ trace ∧
    ⟨.hmacSha256 (trustedContextPayload sent),.ok digest⟩ ∈ trace ∧
    sent.header "x-openproof-context-issued-at" = some (decimal now) ∧
    sent.header "x-openproof-context-signature" = some (toHex (digestBytes digest))
  guarded : route.isProtected = true → ∃ accepted,Presented trace accepted ∧
    sent.header "x-openproof-identity" = some accepted.session.identity.value ∧
    sent.header "x-openproof-provider" = some accepted.session.provider.value ∧
    sent.header "x-openproof-assurance" = some (assuranceLevelName accepted.session.assurance) ∧
    sent.header "x-openproof-organization" = some route.organization.value ∧
    sent.header "x-openproof-client-id" = accepted.delegated.map DelegatedAccess.clientId ∧
    sent.header "x-openproof-scopes" = accepted.delegated.map fun delegated => joinedScopes delegated.scopes.items
  public_ : route.isProtected = false → ∀ name ∈ callerNames,sent.header name = none
  own : ∀ name,trusted name = true → name ∉ signedNames → name ≠ "x-openproof-context-signature" →
    sent.header name = none
  hops : ∀ name ∈ hopByHop,sent.header name = none
  listed : ∀ name ∈ connectionHeaders request,trusted name = false → sent.header name = none

theorem payload_unsigned (request : HttpRequest) (signature : Text) :
    trustedContextPayload (request.setHeader "x-openproof-context-signature" signature) =
      trustedContextPayload request := by
  have same : ∀ name ∈ signedNames,(request.setHeader "x-openproof-context-signature" signature).header name =
      request.header name := by
    intro name member
    rw [header_setHeader,if_neg]
    rintro rfl
    exact absurd member (by decide)
  unfold trustedContextPayload
  congr 1
  rw [List.flatMap_def,List.flatMap_def]
  exact congrArg List.flatten (List.map_congr_left fun name member => by rw [same name member])

structure Bare (request base : HttpRequest) : Prop where
  correlation : base.correlation = request.correlation
  absent : ∀ name,trusted name = true ∨ name ∈ hopByHop ∨ name ∈ connectionHeaders request → base.header name = none

theorem bare_stripped (request : HttpRequest) : Bare request (stripped request) where
  correlation := by
    have first := SameEnvelope.eraseAll (request.headers.keys.filter trusted) request
    have second := SameEnvelope.eraseAll (connectionHeaders (stripTrustedIdentityHeaders request))
      (stripTrustedIdentityHeaders request)
    exact ((SameEnvelope.eraseAll hopByHop _).correlation.trans second.correlation).trans first.correlation
  absent := fun name gone => by rw [header_stripped,if_pos gone]

theorem Bare.reduced {request base less : HttpRequest} (bare : Bare request base) (reduced : Reduced base less) :
    Bare request less :=
  ⟨reduced.envelope.correlation.trans bare.correlation,fun name gone => reduced.absent name (bare.absent name gone)⟩

theorem correlation_setAll : (setAll table request).correlation = request.correlation := by
  induction table with
  | nil => rfl
  | cons entry rest ih => exact ih

def written (caller : List (Text × Text)) (correlation : Text) (now : Instant) (digest : Sha256Digest)
    (base : HttpRequest) : HttpRequest := setAll (sealTable correlation now digest ++ caller) base

theorem written_sealed (caller : List (Text × Text)) (base : HttpRequest) (now : Instant) (digest : Sha256Digest) :
    sealed (requestIdentified (setAll caller base)) now digest = written caller base.correlation now digest base := by
  rw [sealed_table,correlation_setAll,written,setAll,setAll,setAll,List.foldr_append]

section
variable {request base : HttpRequest} {now : Instant} {digest : Sha256Digest}

theorem header_written (bare : Bare request base)
    (gone : trusted name = true ∨ name ∈ hopByHop ∨ name ∈ connectionHeaders request) :
    (written caller base.correlation now digest base).header name =
      ((sealTable request.correlation now digest).lookup name).or (caller.lookup name) := by
  rw [written,header_setAll,bare.absent name gone,Option.or_none,bare.correlation,List.lookup_append]

theorem sessionTable_named (route : Route) (accepted : Accepted) :
    ∀ entry ∈ sessionTable route accepted,entry.1 ∈ callerNames := by
  unfold sessionTable
  cases accepted.delegated <;> simp [callerNames]

theorem sealTable_apart : ∀ called ∈ callerNames,
    (sealTable request.correlation now digest).lookup called = none := by
  intro called member
  simp only [callerNames,List.mem_cons,List.not_mem_nil,or_false] at member
  rcases member with rfl | rfl | rfl | rfl | rfl | rfl <;> rfl

theorem header_unwritten (bare : Bare request base) (named : ∀ entry ∈ caller,entry.1 ∈ callerNames)
    (gone : trusted name = true ∨ name ∈ hopByHop ∨ name ∈ connectionHeaders request)
    (unsigned : name ∉ signedNames) (other : name ≠ "x-openproof-context-signature") :
    (written caller base.correlation now digest base).header name = none := by
  have signs : ∀ entry ∈ sealTable request.correlation now digest,
      entry.1 ∈ signedNames ∨ entry.1 = "x-openproof-context-signature" := by
    simp [sealTable,signedNames]
  have calls : ∀ called ∈ callerNames,called ∈ signedNames := by decide
  rw [header_written bare gone,Option.or_eq_none_iff,List.lookup_eq_none_iff,List.lookup_eq_none_iff]
  constructor
  · intro entry member
    apply bne_iff_ne.mpr
    rintro rfl
    exact (signs entry member).elim unsigned other
  · intro entry member
    apply bne_iff_ne.mpr
    rintro rfl
    exact unsigned (calls _ (named entry member))

theorem written_plain (bare : Bare request base) (named : ∀ entry ∈ caller,entry.1 ∈ callerNames)
    (plain : trusted name = false) (gone : name ∈ hopByHop ∨ name ∈ connectionHeaders request) :
    (written caller base.correlation now digest base).header name = none := by
  have owned : ∀ own ∈ signedNames,trusted own = true := by decide
  refine header_unwritten bare named (.inr gone) (fun signed => ?_) ?_
  · cases (owned name signed).symm.trans plain
  · rintro rfl
    exact absurd plain (by decide)

end

section
variable {route : Route} {request sent : HttpRequest} {trace : GatewayTrace}

theorem sending_written (sending : Sending route request trace sent) :
    ∃ caller base now digest,Bare request base ∧ ⟨.now,now⟩ ∈ trace ∧
      ⟨.hmacSha256 (trustedContextPayload sent),.ok digest⟩ ∈ trace ∧
      ((route.isProtected = false ∧ caller = []) ∨ (route.isProtected = true ∧
        ∃ accepted,Presented trace accepted ∧ caller = sessionTable route accepted)) ∧
      sent = written caller base.correlation now digest base := by
  obtain ⟨out,now,digest,identification,looked,hashed,rfl⟩ := sending
  rw [← payload_unsigned _ (toHex (digestBytes digest))] at hashed
  rcases identification with ⟨public_,rfl⟩ | ⟨guarded,accepted,admission,rfl⟩
  · refine ⟨[],stripped request,now,digest,bare_stripped request,looked,hashed,.inl ⟨public_,rfl⟩,?_⟩
    exact written_sealed [] (stripped request) now digest
  · refine ⟨sessionTable route accepted,accepted.request,now,digest,(bare_stripped request).reduced admission.reduced,
      looked,hashed,.inr ⟨guarded,accepted,admission.presented,rfl⟩,?_⟩
    rw [identified_table]
    exact written_sealed (sessionTable route accepted) accepted.request now digest

theorem sending_context (sending : Sending route request trace sent) : Context route request trace sent := by
  obtain ⟨caller,base,now,digest,bare,looked,hashed,origin,rfl⟩ := sending_written sending
  have named : ∀ entry ∈ caller,entry.1 ∈ callerNames := by
    rcases origin with ⟨-,rfl⟩ | ⟨-,accepted,-,rfl⟩
    · exact nofun
    · exact sessionTable_named route accepted
  constructor
  case requestId =>
      rw [header_written bare (.inl (by decide))]
      rfl
  case signed =>
      refine ⟨now,digest,looked,hashed,?_,?_⟩
      · rw [header_written bare (.inl (by decide))]
        rfl
      · rw [header_written bare (.inl (by decide))]
        rfl
  case guarded =>
      intro guarded
      rcases origin with ⟨public_,-⟩ | ⟨-,accepted,presented,rfl⟩
      · cases guarded.symm.trans public_
      · refine ⟨accepted,presented,?_⟩
        rw [header_written bare (.inl (by decide)),header_written bare (.inl (by decide)),
          header_written bare (.inl (by decide)),header_written bare (.inl (by decide)),
          header_written bare (.inl (by decide)),header_written bare (.inl (by decide))]
        unfold sessionTable
        cases accepted.delegated with
        | none | some => exact ⟨rfl,rfl,rfl,rfl,rfl,rfl⟩
  case public_ =>
      intro public_ name member
      rcases origin with ⟨-,rfl⟩ | ⟨guarded,-⟩
      · have owned : ∀ own ∈ callerNames,trusted own = true := by decide
        rw [header_written bare (.inl (owned name member)),sealTable_apart name member]
        rfl
      · cases guarded.symm.trans public_
  case own => exact fun name own => header_unwritten bare named (.inl own)
  case hops =>
      intro name hop
      have plain : ∀ own ∈ hopByHop,trusted own = false := by decide
      exact written_plain bare named (plain name hop) (.inl hop)
  case listed => exact fun name listed plain => written_plain bare named plain (.inr listed)

end

theorem handle_equal {method : HttpMethod} {target : Text} {one two : List (Text × Text)}
    {body remoteAddress correlation : Text} {first second : HttpRequest}
    (made : create method target one body remoteAddress correlation = .ok first)
    (again : create method target two body remoteAddress correlation = .ok second)
    (agree : ordinary one = ordinary two) : handle g second = handle g first := by
  have same := stripped_equal made again agree
  obtain ⟨-,rfl,rfl,rfl,rfl,rfl⟩ := create_spec made
  obtain ⟨-,methods,targets,bodies,addresses,correlations⟩ := create_spec again
  have routed : ∀ route,handleRoute g route second = handleRoute g route first := by
    intro route
    rw [handleRoute,handleRoute,stripped,stripped,same]
  -- What is left of the two outside the headers is spelled the same.
  obtain ⟨method,target,others,body,remoteAddress,correlation⟩ := second
  obtain ⟨rfl,rfl,rfl,rfl,rfl⟩ : method = first.method ∧ target = first.target ∧ body = first.body ∧
    remoteAddress = first.remoteAddress ∧ correlation = first.correlation :=
      ⟨methods,targets,bodies,addresses,correlations⟩
  unfold handle
  simp only [routed]
  rfl

theorem client_headers_never_trusted (g : Gateway) (method : HttpMethod) (target : Text)
    (one two : List (Text × Text)) (body remoteAddress correlation : Text) (first second : HttpRequest)
    (made : create method target one body remoteAddress correlation = .ok first)
    (again : create method target two body remoteAddress correlation = .ok second)
    (agree : ordinary one = ordinary two) :
    (∀ trace r,Trace (handle g first) trace r ↔ Trace (handle g second) trace r) ∧
      (∀ breaker w,sends breaker g first w = sends breaker g second w) ∧
      ∀ trace r,Trace (handle g first) trace r → ∀ sent,SentIn trace sent →
        ∃ route,Router.match_ g.routes method first.path = some route ∧ Context route first trace sent := by
  have same := @handle_equal g method target one two body remoteAddress correlation first second made again agree
  refine ⟨fun trace r => by rw [same],fun breaker w => by rw [sends,sends,same],fun trace r path sent member => ?_⟩
  obtain ⟨route,matched,sending⟩ := handle_sends path member
  obtain ⟨-,rfl,-⟩ := create_spec made
  exact ⟨route,matched,sending_context sending⟩

def demoSignedIn : GatewayState :=
  { demoServing with surroundings :=
    { demoSurroundings with sessions := fun _ => .ok ⟨⟨"i"⟩,⟨"p"⟩,.ial1,⟨.knowledge,false⟩,0⟩ } }

def demoBrowser (headers : Map Text Text) : HttpRequest where
  method := .get
  target := "/orders"
  headers := headers.insert "cookie" "__Host-openproof-session=t"
  body := []
  remoteAddress := "192.0.2.1"
  correlation := "c"

-- A forged identity changes nothing.
theorem client_headers_never_trusted_forged :
    sends demoBreaker (demoHandler true) (demoBrowser ((∅ : Map Text Text).insert "x-openproof-identity" "admin"))
        demoSignedIn = sends demoBreaker (demoHandler true) (demoBrowser ∅) demoSignedIn ∧
      (sends demoBreaker (demoHandler true) (demoBrowser ∅) demoSignedIn).map
        (HttpRequest.header · "x-openproof-identity") = [some (Text.of "i")] := by
  have forged := client_headers_never_trusted (demoHandler true) .get "/orders"
    [("X-OpenProof-Identity","admin"),("Cookie","__Host-openproof-session=t")]
    [("Cookie","__Host-openproof-session=t")] [] "192.0.2.1" "c"
    (demoBrowser ((∅ : Map Text Text).insert "x-openproof-identity" "admin")) (demoBrowser ∅) rfl rfl (by decide)
  exact ⟨forged.2.1 demoBreaker demoSignedIn,by decide⟩

def demoTenant (organization : Text) : Gateway :=
  ⟨[{ demoRoute true with organization := ⟨organization⟩ }],5000,false,none⟩

-- A header of the gateway's own is sent although the client lists it, and the
-- organization an upstream is told is the one of the route, whatever the session.
theorem listed_header_sent :
    create .get "/orders" [("Connection","X-OpenProof-Identity"),("Cookie","__Host-openproof-session=t")] []
        "192.0.2.1" "c" = .ok (demoBrowser ((∅ : Map Text Text).insert "connection" "X-OpenProof-Identity")) ∧
      Text.of "x-openproof-identity" ∈
        connectionHeaders (demoBrowser ((∅ : Map Text Text).insert "connection" "X-OpenProof-Identity")) ∧
      (sends demoBreaker (demoHandler true)
        (demoBrowser ((∅ : Map Text Text).insert "connection" "X-OpenProof-Identity")) demoSignedIn).map
          (HttpRequest.header · "x-openproof-identity") = [some (Text.of "i")] ∧
      (sends demoBreaker (demoTenant "o") (demoBrowser ∅) demoSignedIn).map
        (HttpRequest.header · "x-openproof-organization") = [some (Text.of "o")] ∧
      (sends demoBreaker (demoTenant "q") (demoBrowser ∅) demoSignedIn).map
        (HttpRequest.header · "x-openproof-organization") = [some (Text.of "q")] := by
  refine ⟨rfl,?_,?_,?_,?_⟩ <;> decide

end OpenProof.GatewayContexts
