import Mathlib.Data.List.DropRight
import OpenProof.CallTraces
import OpenProof.GatewayHandler

namespace OpenProof.GatewayHeaders
open CallTraces Foundation Http GatewayRequests GatewayWorld SenderProofs GatewayHandler
open ApplicationHttp (takeSessionCredential takeCookie scanCookies joined trimmed isBlank)
open OAuthHttp (kSessionCookie)

def sessionItem (item : Text) : Bool :=
  let (name,value) := splitAt (ch '=') (trimmed item)
  value.isSome && name == kSessionCookie

def namesSession (cookie : Text) : Bool := (cookie.splitOn (ch ';')).any sessionItem

def carriesSession (request : HttpRequest) : Bool := (request.header "cookie").any namesSession

theorem mem_splitOn_free {text : Text} : ∀ item ∈ text.splitOn symbol,symbol ∉ item := by
  induction text with
  | nil => simp
  | cons byte rest ih =>
    rw [List.splitOn_cons_eq_if_modifyHead]
    split
    · simpa using ih
    · rename_i other
      cases parts : rest.splitOn symbol with
      | nil => simp
      | cons first later =>
        rw [parts] at ih
        simp only [List.modifyHead_cons,List.mem_cons,forall_eq_or_imp] at ih ⊢
        refine ⟨?_,ih.2⟩
        rintro (here | inside)
        · exact other (beq_iff_eq.mpr here.symm)
        · exact ih.1 inside

theorem trimmed_trimmed (text : Text) : trimmed (trimmed text) = trimmed text := by
  have rewritten : ∀ l : Text,trimmed l = (l.dropWhile isBlank).rdropWhile isBlank := fun _ => rfl
  rw [rewritten,rewritten]
  have start : ((text.dropWhile isBlank).rdropWhile isBlank).dropWhile isBlank =
      (text.dropWhile isBlank).rdropWhile isBlank := by
    rw [List.dropWhile_eq_self_iff]
    intro nonempty
    obtain ⟨rest,whole⟩ := List.rdropWhile_prefix isBlank (text.dropWhile isBlank)
    have head := List.head?_dropWhile_not isBlank text
    rw [← whole,List.head?_append_of_ne_nil _ (List.ne_nil_of_length_pos nonempty),
      List.head?_eq_getElem?,List.getElem?_eq_getElem nonempty] at head
    simpa using head
  rw [start,List.rdropWhile_idempotent]

theorem mem_trimmed (inside : byte ∈ trimmed text) : byte ∈ text := by
  unfold trimmed at inside
  rw [List.mem_reverse] at inside
  have kept := (List.dropWhile_sublist isBlank).mem inside
  rw [List.mem_reverse] at kept
  exact (List.dropWhile_sublist isBlank).mem kept

theorem sessionItem_blank : sessionItem (ch ' ' :: item) = sessionItem item := by
  have same : trimmed (ch ' ' :: item) = trimmed item := by
    unfold trimmed
    rw [List.dropWhile_cons_of_pos (by decide)]
  unfold sessionItem
  rw [same]

-- An item that no cookie of the session is hidden in.
structure Harmless (item : Text) : Prop where
  whole : ch ';' ∉ item
  other : sessionItem item = false

theorem namesSession_append :
    namesSession (before ++ ch ';' :: item) = (namesSession before || namesSession item) := by
  rw [namesSession,List.splitOn_append_cons_self,List.any_append]
  rfl

theorem namesSession_joined (harmless : ∀ item ∈ items,Harmless item) : namesSession (joined items) = false := by
  have grows : ∀ (items : List Text) (rebuilt : Text),(∀ item ∈ items,Harmless item) →
      namesSession rebuilt = false →
        namesSession (items.foldl (fun rebuilt item =>
          (if rebuilt.isEmpty then rebuilt else rebuilt ++ "; ") ++ item) rebuilt) = false := by
    intro items
    induction items with
    | nil => exact fun rebuilt _ clean => clean
    | cons item rest ih =>
      intro rebuilt harmless clean
      have first := harmless item List.mem_cons_self
      have alone : namesSession item = false := by
        rw [namesSession,List.splitOn_eq_singleton first.whole]
        simpa using first.other
      have spaced : namesSession (ch ' ' :: item) = false := by
        rw [namesSession,List.splitOn_eq_singleton]
        · simpa [sessionItem_blank] using first.other
        · simpa using ⟨by decide,first.whole⟩
      apply ih _ fun other member => harmless other (List.mem_cons_of_mem _ member)
      cases rebuilt with
      | nil => exact alone
      | cons byte bytes =>
        have shape : byte :: bytes ++ Text.of "; " ++ item = byte :: bytes ++ ch ';' :: ch ' ' :: item := by
          have literal : Text.of "; " = [ch ';',ch ' '] := by decide
          rw [literal,List.append_assoc]
          rfl
        change namesSession (byte :: bytes ++ Text.of "; " ++ item) = false
        rw [shape,namesSession_append,clean,spaced]
        rfl
  exact grows items [] harmless (by decide)

theorem trimmed_harmless (whole : ch ';' ∉ item) (other : sessionItem item = false) : Harmless (trimmed item) where
  whole := fun inside => whole (mem_trimmed inside)
  other := by
    unfold sessionItem at other ⊢
    rw [trimmed_trimmed]
    exact other

theorem scanCookies_harmless (scanned : scanCookies token retained items = some (taken,kept))
    (whole : ∀ item ∈ items,ch ';' ∉ item) (harmless : ∀ item ∈ retained,Harmless item) : ∀ item ∈ kept,Harmless item := by
  induction items generalizing token retained with
  | nil =>
    cases scanned
    exact harmless
  | cons item rest ih =>
    have later : ∀ other ∈ rest,ch ';' ∉ other := fun other member => whole other (List.mem_cons_of_mem _ member)
    have here := whole item List.mem_cons_self
    have extended : sessionItem item = false → ∀ other ∈ retained ++ [trimmed item],Harmless other := by
      intro plain other member
      rcases List.mem_append.mp member with old | new
      · exact harmless other old
      · cases List.mem_singleton.mp new
        exact trimmed_harmless here plain
    rw [scanCookies] at scanned
    split at scanned
    · rename_i name value parts
      split at scanned
      · split at scanned
        · cases scanned
        · exact ih scanned later harmless
      · rename_i other
        refine ih scanned later (extended ?_)
        unfold sessionItem
        rw [parts]
        simpa using other
    · rename_i name parts
      refine ih scanned later ?_
      split
      · exact harmless
      · apply extended
        unfold sessionItem
        rw [parts]
        rfl

structure Reduced (before after : HttpRequest) : Prop where
  envelope : SameEnvelope before after
  absent : ∀ name,before.header name = none → after.header name = none

theorem Reduced.refl (request : HttpRequest) : Reduced request request := ⟨.refl request,fun _ absent => absent⟩

theorem Reduced.trans (one : Reduced a b) (two : Reduced b c) : Reduced a c where
  envelope := ⟨two.envelope.method.trans one.envelope.method,two.envelope.target.trans one.envelope.target,
    two.envelope.body.trans one.envelope.body,two.envelope.remoteAddress.trans one.envelope.remoteAddress,
    two.envelope.correlation.trans one.envelope.correlation⟩
  absent := fun name gone => two.absent name (one.absent name gone)

theorem Reduced.eraseAll (names : List Text) (request : HttpRequest) :
    Reduced request (names.foldl HttpRequest.eraseHeader request) := by
  refine ⟨.eraseAll names request,fun name absent => ?_⟩
  rw [header_eraseAll,absent,ite_self]

theorem takeCookie_reduced (request : HttpRequest) : Reduced request (takeCookie request).2 := by
  unfold takeCookie
  split
  · exact .refl request
  · rename_i cookie present
    split
    · exact .eraseAll [Text.of "cookie"] request
    · dsimp only
      split
      · exact .eraseAll [Text.of "cookie"] request
      · refine ⟨⟨rfl,rfl,rfl,rfl,rfl⟩,fun name absent => ?_⟩
        rw [header_setHeader,if_neg]
        · exact absent
        · rintro rfl
          cases present.symm.trans absent

theorem takeSessionCredential_reduced (request : HttpRequest) :
    Reduced request (takeSessionCredential request).2 := by
  unfold takeSessionCredential
  split
  · exact takeCookie_reduced request
  · have erased := Reduced.eraseAll [Text.of "authorization"] request
    split
    · exact erased
    · exact erased.trans (takeCookie_reduced _)

theorem takeCookie_clean {request : HttpRequest} (taken : (takeCookie request).1 = .ok token) :
    carriesSession (takeCookie request).2 = false := by
  unfold takeCookie at taken ⊢
  unfold carriesSession
  split
  · rename_i absent
    rw [absent]
    rfl
  · rename_i cookie present
    cases scanned : scanCookies none [] (cookie.splitOn (ch ';')) with
    | none => simp [present,scanned] at taken
    | some found =>
      obtain ⟨token',kept⟩ := found
      have harmless := scanCookies_harmless scanned mem_splitOn_free nofun
      dsimp only
      split
      · simp
      · simpa using namesSession_joined harmless

theorem takeSessionCredential_clean {request : HttpRequest} (taken : (takeSessionCredential request).1 = .ok token) :
    carriesSession (takeSessionCredential request).2 = false := by
  unfold takeSessionCredential at taken ⊢
  split at taken
  · rename_i absent
    exact takeCookie_clean taken
  · rename_i authorization present
    split at taken
    · cases taken
    · dsimp only at taken ⊢
      split at taken
      · cases taken
      · cases taken
      · rename_i found
        exact takeCookie_clean found

structure Erased (before after : HttpRequest) : Prop where
  envelope : SameEnvelope before after
  headers : ∀ name,after.header name = none ∨ after.header name = before.header name

theorem Erased.refl (request : HttpRequest) : Erased request request := ⟨.refl request,fun _ => .inr rfl⟩

theorem Erased.eraseAll (names : List Text) (request : HttpRequest) :
    Erased request (names.foldl HttpRequest.eraseHeader request) := by
  refine ⟨.eraseAll names request,fun name => ?_⟩
  rw [header_eraseAll]
  split
  · exact .inl rfl
  · exact .inr rfl

theorem Erased.reduced (erased : Erased before after) : Reduced before after := by
  refine ⟨erased.envelope,fun name absent => ?_⟩
  rcases erased.headers name with gone | same
  · exact gone
  · exact same.trans absent

theorem Erased.clean (erased : Erased before after) (clean : carriesSession before = false) : carriesSession after = false := by
  unfold carriesSession at clean ⊢
  rcases erased.headers "cookie" with gone | same
  · rw [gone]
    rfl
  · rw [same]
    exact clean

section
variable {Err : Type} {v : SenderProofVerifier} {request : HttpRequest}

theorem verifyDpop_yields :
    Yields (v.verifyDpop request accessToken : Proc Err _) fun _ out => Erased request out.2 := by
  unfold SenderProofVerifier.verifyDpop
  split
  · exact .ret (.refl request)
  · refine .bind (fun _ _ _ => trivial : Yields _ fun _ _ => True) fun _ answer _ => ?_
    cases answer with
    | error e => exact .ret (.refl request)
    | ok _ => exact .ret (.eraseAll [Text.of "dpop"] request)

theorem verifyMtlsForwarding_yields :
    Yields (v.verifyMtlsForwarding request : Proc Err _) fun _ out => Erased request out.2 := by
  have erased := Erased.eraseAll forwardedHeaders request
  unfold SenderProofVerifier.verifyMtlsForwarding
  split
  · split
    · exact .ret erased
    · split
      · split
        · exact .ret erased
        · refine .ask fun now => ?_
          unfold SenderProofVerifier.consumeAssertion
          split
          · exact .ret erased
          · split
            · exact .ret erased
            · refine .ask fun answer => ?_
              cases answer with
              | error | ok => exact .ret erased
      · exact .ret erased
  · exact .ret erased

theorem verify_yields : Yields (v.verify request constraint accessToken dpopAuthorizationScheme : Proc Err _)
      fun _ out => Erased request out.2 := by
  have kept : ∀ message kind (out : Result Tokens.SenderConstraint × HttpRequest),Erased request out.2 →
      Erased request (SenderProofVerifier.matched message kind constraint out).2 := by
    intro message kind out erased
    unfold SenderProofVerifier.matched
    split <;> exact erased
  unfold SenderProofVerifier.verify
  split
  · split
    · exact .ret (.refl request)
    · exact .bind verifyDpop_yields fun _ out erased => .ret (kept _ _ out erased)
  · split
    · exact .ret (.refl request)
    · exact .bind verifyMtlsForwarding_yields fun _ out erased => .ret (kept _ _ out erased)

end

abbrev GatewayTrace := List (Exchange GatewayOp GatewayOp.Ret)

def Presented (trace : GatewayTrace) (accepted : Accepted) : Prop :=
  (∃ credential,⟨.authenticate credential,.ok accepted.session⟩ ∈ trace ∧ accepted.delegated = none) ∨
    ∃ credential delegated,⟨.authenticateDelegated credential,.ok delegated⟩ ∈ trace ∧
      accepted.delegated = some delegated ∧ accepted.session = delegated.authenticated

structure Admission (request : HttpRequest) (trace : GatewayTrace) (accepted : Accepted) : Prop where
  reduced : Reduced request accepted.request
  clean : carriesSession accepted.request = false
  presented : Presented trace accepted

section
variable {g : Gateway} {request : HttpRequest}

theorem acceptDelegated_yields (clean : carriesSession request = false) :
    Yields (acceptDelegated g request credential dpopAuthorizationScheme delegated) fun _ accepted =>
      Reduced request accepted.request ∧ carriesSession accepted.request = false ∧
        accepted.delegated = some delegated ∧ accepted.session = delegated.authenticated := by
  unfold acceptDelegated
  split
  · split
    · exact .fail
    · exact .ret ⟨.refl request,clean,rfl,rfl⟩
  · split
    · exact .fail
    · refine .bind verify_yields fun _ out erased => ?_
      split
      · exact .fail
      · exact .ret ⟨erased.reduced,erased.clean clean,rfl,rfl⟩

theorem accept_yields : Yields (accept g request) (Admission request) := by
  unfold accept
  dsimp only
  split
  · exact .fail
  · exact .fail
  · rename_i credential taken
    have reduced := takeSessionCredential_reduced request
    have clean := takeSessionCredential_clean taken
    refine .ask fun authenticated => ?_
    cases authenticated with
    | ok session =>
      dsimp only
      split
      · exact .fail
      · exact .ret ⟨reduced,clean,.inl ⟨credential,List.mem_cons_self,rfl⟩⟩
    | error e =>
      dsimp only
      split
      · exact .fail
      · refine .ask fun delegated => ?_
        cases delegated with
        | error e => exact .fail
        | ok delegated =>
          refine (acceptDelegated_yields clean).mono fun trace accepted known => ?_
          refine ⟨reduced.trans known.1,known.2.1,.inr ⟨credential,delegated,?_,known.2.2⟩⟩
          exact List.mem_cons_of_mem _ List.mem_cons_self

def Identification (route : Route) (request : HttpRequest) (trace : GatewayTrace)
    (out : HttpRequest) : Prop :=
  (route.isProtected = false ∧ out = request) ∨
    (route.isProtected = true ∧ ∃ accepted,Admission request trace accepted ∧ out = identified route accepted)

theorem Presented.mono {trace longer : GatewayTrace} {accepted : Accepted} (presented : Presented trace accepted)
    (more : ∀ exchange ∈ trace,exchange ∈ longer) : Presented longer accepted := by
  rcases presented with ⟨credential,member,none⟩ | ⟨credential,delegated,member,known⟩
  · exact .inl ⟨credential,more _ member,none⟩
  · exact .inr ⟨credential,delegated,more _ member,known⟩

theorem identify_yields {route : Route} : Yields (identify g route request) (Identification route request) := by
  unfold identify
  split
  · rename_i guarded
    refine .bind accept_yields fun first accepted admission => ?_
    refine .bind (fun _ _ _ => trivial : Yields _ fun _ _ => True) fun _ _ _ => .ret ?_
    refine .inr ⟨guarded,accepted,⟨admission.reduced,admission.clean,?_⟩,rfl⟩
    exact admission.presented.mono fun exchange member => List.mem_append_left _ member
  · rename_i public_
    exact .ret (.inl ⟨Bool.eq_false_iff.mpr public_,rfl⟩)

def sealed (request : HttpRequest) (now : Instant) (digest : Sha256Digest) : HttpRequest :=
  (request.setHeader "x-openproof-context-issued-at" (decimal now)).setHeader
    "x-openproof-context-signature" (toHex (digestBytes digest))

theorem seal_yields : Yields (seal_ request) fun trace out => ∃ now digest,⟨.now,now⟩ ∈ trace ∧
    ⟨.hmacSha256 (trustedContextPayload (request.setHeader "x-openproof-context-issued-at" (decimal now))),
      .ok digest⟩ ∈ trace ∧ out = sealed request now digest := by
  refine .ask fun now => .ask fun digest => ?_
  cases digest with
  | error e => exact .fail
  | ok digest =>
    exact .ret ⟨now,digest,List.mem_cons_self,List.mem_cons_of_mem _ List.mem_cons_self,rfl⟩

def Forwards (request : HttpRequest) : GatewayOp → Prop
  | .send _ sent _ => sent = request
  | _ => True

theorem choose_forwards : (choose service endpoints excluded : Proc Err _).Only (Forwards request) := by
  unfold choose
  dsimp only
  split
  · trivial
  · exact .bind (.perform trivial) fun _ => trivial

theorem settle_forwards (again : ∀ e,(retry e).Only (Forwards request)) (answer : Result HttpResponse) :
    (settle request endpoint retry answer).Only (Forwards request) := by
  cases answer with
  | error e => exact .bind (.perform trivial) fun _ => again e
  | ok response =>
    unfold settle
    dsimp only
    split
    · exact .bind (.perform trivial) fun _ => trivial
    · split <;> exact .bind (.perform trivial) fun _ => trivial

theorem forward_forwards :
    (forward g service request endpoints attempts rounds sentAttempts excluded lastFailure).Only
      (Forwards request) := by
  induction rounds generalizing sentAttempts excluded lastFailure with
  | zero => trivial
  | succ rounds ih =>
    rw [forward]
    split
    · refine .bind choose_forwards fun chosen => ?_
      cases chosen with
      | error e => trivial
      | ok endpoint =>
        refine .bind (.perform trivial) fun allowed => ?_
        cases allowed with
        | false => exact ih
        | true => exact .bind (.perform rfl) (settle_forwards fun e => ih)
    · trivial

theorem dispatch_forwards {route : Route} : (dispatch g route request).Only (Forwards request) := by
  refine .bind (.perform trivial) fun resolved => ?_
  cases resolved with
  | error e => trivial
  | ok endpoints => exact forward_forwards

end

def SentIn (trace : GatewayTrace) (sent : HttpRequest) : Prop :=
  ∃ endpoint timeout answer,⟨.send endpoint sent timeout,answer⟩ ∈ trace

theorem SentIn.forwards {trace : GatewayTrace} {r : Except Err α} {sent request : HttpRequest}
    (path : Trace p trace r) (only : p.Only (Forwards request)) (member : SentIn trace sent) : sent = request := by
  obtain ⟨endpoint,timeout,answer,member⟩ := member
  exact path.only only _ member

theorem SentIn.append {sent : HttpRequest} (member : SentIn (first ++ rest) sent) :
    SentIn first sent ∨ SentIn rest sent := by
  obtain ⟨endpoint,timeout,answer,member⟩ := member
  rcases List.mem_append.mp member with before | after
  · exact .inl ⟨endpoint,timeout,answer,before⟩
  · exact .inr ⟨endpoint,timeout,answer,after⟩

def Sending (route : Route) (request : HttpRequest) (trace : GatewayTrace) (sent : HttpRequest) : Prop :=
  ∃ out now digest,Identification route (stripped request) trace out ∧ ⟨.now,now⟩ ∈ trace ∧
    ⟨.hmacSha256 (trustedContextPayload
      ((requestIdentified out).setHeader "x-openproof-context-issued-at" (decimal now))),.ok digest⟩ ∈ trace ∧
    sent = sealed (requestIdentified out) now digest

section
variable {g : Gateway} {request sent : HttpRequest} {route : Route} {trace : GatewayTrace}
  {r : Except HttpResponse HttpResponse}

theorem Identification.mono (identification : Identification route request trace out)
    (more : ∀ exchange ∈ trace,exchange ∈ longer) : Identification route request longer out := by
  rcases identification with public_ | ⟨guarded,accepted,admission,rfl⟩
  · exact .inl public_
  · exact .inr ⟨guarded,accepted,⟨admission.reduced,admission.clean,admission.presented.mono more⟩,rfl⟩

structure Dispatched (g : Gateway) (route : Route) (request : HttpRequest) (r : Except HttpResponse HttpResponse)
    (before after : GatewayTrace) : Prop where
  early : ∀ exchange ∈ before,preliminary exchange.1 = true
  sent : ∃ out now digest,Identification route (stripped request) before out ∧ ⟨.now,now⟩ ∈ before ∧
    ⟨.hmacSha256 (trustedContextPayload
      ((requestIdentified out).setHeader "x-openproof-context-issued-at" (decimal now))),.ok digest⟩ ∈ before ∧
    Trace (dispatch g route (sealed (requestIdentified out) now digest)) after r

theorem handleRoute_cases (path : Trace (handleRoute g route request) trace r) :
    (∀ exchange ∈ trace,preliminary exchange.1 = true) ∨
      ∃ before after,trace = before ++ after ∧ Dispatched g route request r before after := by
  have both : ∀ {first second : GatewayTrace},(∀ exchange ∈ first,preliminary exchange.1 = true) →
      (∀ exchange ∈ second,preliminary exchange.1 = true) →
        ∀ exchange ∈ first ++ second,preliminary exchange.1 = true :=
    fun one two exchange member => (List.mem_append.mp member).elim (one exchange) (two exchange)
  rcases path.bind_cases with ⟨out,first,rest,rfl,identifying,further⟩ | ⟨e,rfl,failed⟩
  · have identification := identify_yields _ _ identifying
    have identified := identifying.only (prelude_identify g route _)
    rcases further.bind_cases with ⟨signed,second,third,rfl,sealing,last⟩ | ⟨e,rfl,failed⟩
    · obtain ⟨now,digest,looked,hashed,rfl⟩ := seal_yields _ _ sealing
      refine .inr ⟨first ++ second,third,(List.append_assoc ..).symm,both identified (sealing.only (prelude_seal _)),
        out,now,digest,?_,List.mem_append_right _ looked,List.mem_append_right _ hashed,last⟩
      exact identification.mono fun exchange inside => List.mem_append_left _ inside
    · exact .inl (both identified (failed.only (prelude_seal _)))
  · exact .inl (failed.only (prelude_identify g route _))

theorem handle_cases (path : Trace (handle g request) trace r) : (∀ exchange ∈ trace,preliminary exchange.1 = true) ∨
      ∃ route before after,Router.match_ g.routes request.method request.path = some route ∧
        trace = before ++ after ∧ Dispatched g route request r before after := by
  unfold handle at path
  split at path
  · cases path
    exact .inl (List.forall_mem_nil _)
  · rename_i route matched
    obtain ⟨allowed,rest,rfl,further⟩ := path.ask_cases
    have limited : preliminary (.allowRate request.remoteAddress) = true := rfl
    cases allowed with
    | false =>
      cases further
      exact .inl fun exchange member => by rwa [List.mem_singleton.mp member]
    | true =>
      rcases handleRoute_cases further with early | ⟨before,after,rfl,dispatched⟩
      · exact .inl (List.forall_mem_cons.mpr ⟨limited,early⟩)
      · obtain ⟨out,now,digest,identification,looked,hashed,last⟩ := dispatched.sent
        refine .inr ⟨route,_ :: before,after,matched,rfl,List.forall_mem_cons.mpr ⟨limited,dispatched.early⟩,
          out,now,digest,?_,List.mem_cons_of_mem _ looked,List.mem_cons_of_mem _ hashed,last⟩
        exact identification.mono fun exchange inside => List.mem_cons_of_mem _ inside

theorem SentIn.not_early (early : ∀ exchange ∈ trace,preliminary exchange.1 = true) : ¬SentIn trace sent := by
  rintro ⟨endpoint,timeout,answer,member⟩
  cases early _ member

theorem handle_sends (path : Trace (handle g request) trace r) (member : SentIn trace sent) :
    ∃ route,Router.match_ g.routes request.method request.path = some route ∧ Sending route request trace sent := by
  rcases handle_cases path with early | ⟨route,before,after,matched,rfl,dispatched⟩
  · exact absurd member (SentIn.not_early early)
  · obtain ⟨out,now,digest,identification,looked,hashed,last⟩ := dispatched.sent
    rcases member.append with early | late
    · exact absurd early (SentIn.not_early dispatched.early)
    · have same := SentIn.forwards last dispatch_forwards late
      refine ⟨route,matched,out,now,digest,?_,List.mem_append_left _ looked,List.mem_append_left _ hashed,same⟩
      exact identification.mono fun exchange inside => List.mem_append_left _ inside

end

def demoEndpoint : Endpoint := ⟨⟨"e"⟩,"upstream.example",443,true,1,by decide⟩

theorem dispatch_sent (g : Gateway) (route : Route) (request : HttpRequest) :
    ∃ trace r,Trace (dispatch g route request) trace r ∧ SentIn trace request := by
  have once : attemptsFor request.method [demoEndpoint] = 1 := by cases request.method <;> rfl
  have chosen : Trace (choose route.service [demoEndpoint] [] : Handler _) [⟨.nextSequence route.service,0⟩]
      (.ok (.ok demoEndpoint)) := .call 0 (.ret _)
  have sending : Trace (forward g route.service request [demoEndpoint] (attemptsFor request.method [demoEndpoint])
      1 0 [] (.plain .unavailable)) ([⟨.nextSequence route.service,0⟩] ++ [⟨.allow demoEndpoint.id,true⟩,
        ⟨.send demoEndpoint request g.upstreamTimeout,.ok (.plain 200)⟩,⟨.recordSuccess demoEndpoint.id,()⟩])
      (.ok (secureResponse (.plain 200))) := by
    rw [once]
    apply chosen.bind
    apply Trace.ask
    apply Trace.ask
    apply Trace.ask
    exact .ret _
  have resolved : Trace (dispatch g route request) (⟨.resolve route.service,.ok [demoEndpoint]⟩ :: _) _ :=
    .call _ sending
  exact ⟨_,_,resolved,demoEndpoint,g.upstreamTimeout,.ok (.plain 200),by simp⟩

theorem public_sent {g : Gateway} {request : HttpRequest} {route : Route}
    (matched : Router.match_ g.routes request.method request.path = some route)
    (public_ : route.isProtected = false) : ∃ trace r,Trace (handle g request) trace r ∧
      SentIn trace (sealed (requestIdentified (stripped request)) 0 0) := by
  have unchanged : identify g route (stripped request) = .ret (stripped request) := by
    rw [identify,public_]
    rfl
  obtain ⟨trace,r,path,endpoint,timeout,answer,member⟩ :=
    dispatch_sent g route (sealed (requestIdentified (stripped request)) 0 0)
  have signed : Trace (seal_ (requestIdentified (stripped request))) [⟨.now,0⟩,⟨.hmacSha256 (trustedContextPayload
      ((requestIdentified (stripped request)).setHeader "x-openproof-context-issued-at" (decimal 0))),.ok 0⟩]
      (.ok (sealed (requestIdentified (stripped request)) 0 0)) := by
    apply Trace.ask
    apply Trace.ask
    exact .ret _
  have routed : handleRoute g route request =
      (seal_ (requestIdentified (stripped request))).bind (dispatch g route) := by
    rw [handleRoute,unchanged]
    rfl
  have answered : ∀ rest,Trace (handleRoute g route request) rest r →
      Trace (handle g request) (⟨.allowRate request.remoteAddress,true⟩ :: rest) r := by
    intro rest further
    unfold handle
    rw [matched]
    apply Trace.ask
    exact further
  have dispatched := signed.bind path
  rw [← routed] at dispatched
  exact ⟨_,r,answered _ dispatched,endpoint,timeout,answer,List.mem_cons_of_mem _ (List.mem_append_right _ member)⟩

def KeepsSession (g : Gateway) (request : HttpRequest) : Prop :=
  ∀ trace r,Trace (handle g request) trace r → ∀ sent,SentIn trace sent → carriesSession sent = false

section

theorem header_setTrusted {request : HttpRequest} {set : Text} (own : trusted set = true)
    (plain : trusted name = false) (value : Text) : (request.setHeader set value).header name = request.header name := by
  rw [header_setHeader,if_neg]
  rintro rfl
  cases own.symm.trans plain

theorem header_sealed (plain : trusted name = false) (request : HttpRequest) (now : Instant)
    (digest : Sha256Digest) : (sealed (requestIdentified request) now digest).header name = request.header name := by
  unfold sealed requestIdentified
  rw [header_setTrusted (by decide) plain,header_setTrusted (by decide) plain,header_setTrusted (by decide) plain]

theorem header_identified (plain : trusted name = false) (route : Route) (accepted : Accepted) :
    (identified route accepted).header name = accepted.request.header name := by
  have session : ∀ identity provider assurance organization : Text,
      ((((accepted.request.setHeader "x-openproof-identity" identity).setHeader
        "x-openproof-provider" provider).setHeader "x-openproof-assurance" assurance).setHeader
          "x-openproof-organization" organization).header name = accepted.request.header name := by
    intro identity provider assurance organization
    rw [header_setTrusted (by decide) plain,header_setTrusted (by decide) plain,
      header_setTrusted (by decide) plain,header_setTrusted (by decide) plain]
  unfold identified
  dsimp only
  split
  · exact session _ _ _ _
  · rw [header_setTrusted (by decide) plain,header_setTrusted (by decide) plain]
    exact session _ _ _ _

end

theorem carriesSession_sealed :
    carriesSession (sealed (requestIdentified request) now digest) = carriesSession request := by
  unfold carriesSession
  rw [header_sealed (by decide)]

theorem Sending.clean {route : Route} {request sent : HttpRequest} {trace : GatewayTrace}
    (sending : Sending route request trace sent)
    (kept : route.isProtected = false → carriesSession (stripped request) = false) : carriesSession sent = false := by
  obtain ⟨out,now,digest,⟨public_,rfl⟩ | ⟨guarded,accepted,admission,rfl⟩,looked,hashed,rfl⟩ := sending
  · rw [carriesSession_sealed]
    exact kept public_
  · rw [carriesSession_sealed,carriesSession,header_identified (by decide)]
    exact admission.clean

theorem header_stripped (request : HttpRequest) (name : Text) :
    (stripped request).header name = if trusted name ∨ name ∈ hopByHop ∨ name ∈ connectionHeaders request then none
      else request.header name := by
  have listed : connectionHeaders (stripTrustedIdentityHeaders request) = connectionHeaders request := by
    unfold connectionHeaders
    rw [header_stripTrusted,if_neg (by decide)]
  rw [stripped,header_stripHopByHop,listed,header_stripTrusted]
  by_cases own : trusted name = true
  · simp [own]
  · simp [own]

theorem carriesSession_stripped (request : HttpRequest) : carriesSession (stripped request) = false ↔
    (carriesSession request = true → Text.of "cookie" ∈ connectionHeaders request) := by
  have plain : trusted (Text.of "cookie") = false ∧ Text.of "cookie" ∉ hopByHop := by decide
  unfold carriesSession
  rw [header_stripped]
  by_cases listed : Text.of "cookie" ∈ connectionHeaders request
  · simp [listed]
  · simp [listed,plain]

theorem session_kept_behind_protected_routes (g : Gateway) (request : HttpRequest) :
    KeepsSession g request ↔ ∀ route,Router.match_ g.routes request.method request.path = some route →
      route.isProtected = false → carriesSession request = true → Text.of "cookie" ∈ connectionHeaders request := by
  constructor
  · intro keeps route matched public_
    obtain ⟨trace,r,path,member⟩ := public_sent matched public_
    have clean := keeps trace r path _ member
    rw [carriesSession_sealed] at clean
    exact (carriesSession_stripped request).mp clean
  · intro harmless trace r path sent member
    obtain ⟨route,matched,sending⟩ := handle_sends path member
    apply sending.clean
    intro public_
    exact (carriesSession_stripped request).mpr (harmless route matched public_)

def demoRoute (isProtected : Bool) : Route where
  id := ⟨"r"⟩
  method := .get
  pathPrefix := "/"
  service := ⟨"s"⟩
  isProtected := isProtected
  organization := ⟨"o"⟩
  action := ⟨"a"⟩
  resource := ⟨"p"⟩
  requiredScope := []
  requiredAudience := []

def demoHandler (isProtected : Bool) : Gateway := ⟨[demoRoute isProtected],5000,false,none⟩

def demoServing : GatewayState := { demoGateway with services := (∅ : Map ServiceId (List Endpoint)).insert ⟨"s"⟩ [demoEndpoint] }

def sentOf : Exchange GatewayOp GatewayOp.Ret → Option HttpRequest
  | ⟨.send _ sent _,_⟩ => some sent
  | _ => none

def sends (breaker : CircuitBreaker) (g : Gateway) (request : HttpRequest) (w : GatewayState) : List HttpRequest :=
  (exchanges (exec breaker) (handle g request) w).filterMap sentOf

theorem sends_sentIn {g : Gateway} {request sent : HttpRequest} (member : sent ∈ sends breaker g request w) :
    SentIn (exchanges (exec breaker) (handle g request) w) sent := by
  obtain ⟨⟨op,answer⟩,inside,is⟩ := List.mem_filterMap.mp member
  cases op with
  | send endpoint request timeout =>
    cases is
    exact ⟨endpoint,timeout,answer,inside⟩
  | _ => cases is

def demoCookie : HttpRequest where
  method := .get
  target := "/orders"
  headers := (∅ : Map Text Text).insert "cookie" "a=b; __Host-openproof-session=t"
  body := []
  remoteAddress := "192.0.2.1"
  correlation := "c"

-- A browser sends its session cookie with a request for a public path of the same host.
theorem session_forwarded :
    create .get "/orders" [("Cookie","a=b; __Host-openproof-session=t")] [] "192.0.2.1" "c" = .ok demoCookie ∧
      (sends demoBreaker (demoHandler false) demoCookie demoServing).map carriesSession = [true] ∧
        ¬KeepsSession (demoHandler false) demoCookie := by
  have carried : (sends demoBreaker (demoHandler false) demoCookie demoServing).map carriesSession = [true] := by
    decide
  refine ⟨rfl,carried,fun keeps => ?_⟩
  have member : true ∈ (sends demoBreaker (demoHandler false) demoCookie demoServing).map carriesSession := by
    rw [carried]
    exact List.mem_singleton_self true
  obtain ⟨sent,inside,carries⟩ := List.mem_map.mp member
  have clean := keeps _ _ (run_trace (exec demoBreaker) _ demoServing) sent (sends_sentIn inside)
  cases carries.symm.trans clean

end OpenProof.GatewayHeaders
