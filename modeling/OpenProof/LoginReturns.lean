import OpenProof.GatewayRequests
import OpenProof.RedirectQueries

namespace OpenProof.LoginReturns
open GatewayRequests
open CallTraces Foundation World Services OAuthHttp Http RedirectParameters AuthorizationResponses
open GatewayRequests OAuthRuns
open RedirectQueries TokenActs

def loginLocation (target : Text) : Text := Text.of "/login?return_to=" ++ percentEncode target

def Home (request : HttpRequest) (r : Except HttpResponse HttpResponse) : Prop :=
  ∀ there,location (sentResponse r) = some there → Text.of "/login?" <+: there → there = loginLocation request.target

section Endpoint
variable {d : Deployment} {request : HttpRequest}

theorem unsent_home (unsent : location response = none) :
    Home request (.error response) ∧ Home request (.ok response) := by
  constructor
  · intro there sent
    cases unsent.symm.trans sent
  · intro there sent
    cases unsent.symm.trans sent

theorem errorResponse_home (e : Error) : Home request (.error (errorResponse request e)) :=
  (unsent_home (by simp [errorResponse])).1

theorem loginRedirect_home : Home request (.error (loginRedirect request.target)) := by
  intro there sent _
  simpa [sentResponse,loginRedirect,loginLocation,eq_comm] using sent

theorem past_session {inner : Except HttpResponse HttpResponse → Prop}
    (rest : ∀ authenticated,Leaves (f authenticated) fun _ r => Home request r ∨ inner r) :
    Leaves ((requireSession request (loginRedirect request.target) fun _ => loginRedirect request.target).bind f) fun _ r =>
      Home request r ∨ inner r := by
  unfold requireSession
  split
  · exact .fail (.inl loginRedirect_home)
  · refine .ask fun answer => ?_
    cases answer with
    | error e => exact .fail (.inl loginRedirect_home)
    | ok authenticated => exact rest authenticated

theorem consentPage_home (displayName csrf : Text) (scopes : List Text) :
    Home request (.ok (consentPage displayName request.target csrf scopes)) := by
  apply (unsent_home ?_).2
  rw [consentPage,location_addHeader (by decide),location_setHeader (by decide)]
  simp

theorem authorizeJar_home (parameters : Parameters) (requestObject : Text) :
    Leaves (authorizeJar d request parameters requestObject) fun _ r => Home request r := by
  refine .refuseIf (fun _ => ?_) (errorResponse_home _)
  refine past_refused errorResponse_home .any fun clientId _ => past_refused errorResponse_home .any fun claimed _ => ?_
  refine past_refused errorResponse_home .any fun asked _ => past_refused errorResponse_home .any fun requestUri _ => .ret ?_
  intro there sent begins
  simp only [sentResponse,location_redirect,Option.some.injEq] at sent
  subst sent
  obtain ⟨rest,same⟩ := begins
  have second : some (ch 'l') = some (ch 'o') := congrArg (fun text : Text => text[1]?) same
  exact absurd second (by decide)

theorem authorize_home : Leaves (authorize d request) fun _ r => Home request r ∨ GrantSent d r := by
  have refused : ∀ e,Home request (.error (errorResponse request e)) ∨ GrantSent d (.error (errorResponse request e)) :=
    fun e => .inl (errorResponse_home e)
  refine past_refused refused .any fun parameters _ => ?_
  split
  · exact (authorizeJar_home parameters _).mono fun _ _ => .inl
  · refine past_refused refused .any fun asked _ => past_refused refused .any fun registered _ => past_refused refused .any fun _ _ => ?_
    refine past_session fun authenticated => past_refused refused .any fun covered _ => ?_
    split
    · exact past_refused refused .any fun csrf _ => .ret (.inl (consentPage_home _ _ _))
    · refine past_refused refused .any fun final _ => (issueCode_sent request authenticated final 302).mono ?_
      intro trace r way
      refine way.imp_left fun answered => ?_
      obtain ⟨e,rfl⟩ := answered
      exact errorResponse_home e

end Endpoint

section Targets
variable {method : HttpMethod} {target body remoteAddress correlation : Text} {headers : List (Text × Text)} {request : HttpRequest}

theorem visible_bytes : ((List.range 256).all (fun n =>
      !unreserved n.toUInt8 || (!isBlankOrControl n.toUInt8 && n.toUInt8 != ch '#')) &&
    (List.range 16).all (fun n => !isBlankOrControl (hexDigit n) && hexDigit n != ch '#') &&
    (Text.of "/login?return_to=").all (fun byte => !isBlankOrControl byte && byte != ch '#')) = true := by decide +kernel

theorem percentEncode_visible (inside : byte ∈ percentEncode text) :
    isBlankOrControl byte = false ∧ byte ≠ ch '#' := by
  have bytes := visible_bytes
  simp only [Bool.and_eq_true] at bytes
  have digit : ∀ n < 16,isBlankOrControl (hexDigit n) = false ∧ hexDigit n ≠ ch '#' := by
    intro n small
    have here := List.all_eq_true.mp bytes.1.2 n (List.mem_range.mpr small)
    simpa using here
  obtain ⟨origin,-,inside⟩ := List.mem_flatMap.mp inside
  have bound : origin.toNat < 256 := origin.toNat_lt
  split at inside
  · rename_i plain
    obtain rfl := List.mem_singleton.mp inside
    have here := List.all_eq_true.mp bytes.1.1 byte.toNat (List.mem_range.mpr bound)
    rw [Nat.toUInt8_eq,UInt8.ofNat_toNat,plain] at here
    simpa using here
  · rcases List.mem_cons.mp inside with rfl | inside
    · decide
    · rcases List.mem_cons.mp inside with rfl | inside
      · exact digit _ (by omega)
      · obtain rfl := List.mem_singleton.mp inside
        exact digit _ (by omega)

theorem loginLocation_length : (loginLocation target).length = 17+(percentEncode target).length := by
  rw [loginLocation,List.length_append]
  rfl

theorem loginLocation_visible (target : Text) : invalidTargetCharacter (loginLocation target) = false ∧ ch '#' ∉ loginLocation target := by
  have start : ∀ byte ∈ Text.of "/login?return_to=",isBlankOrControl byte = false ∧ byte ≠ ch '#' := by
    intro byte inside
    have bytes := visible_bytes
    simp only [Bool.and_eq_true] at bytes
    simpa using List.all_eq_true.mp bytes.2 byte inside
  have every : ∀ byte ∈ loginLocation target,isBlankOrControl byte = false ∧ byte ≠ ch '#' :=
    List.forall_mem_append.mpr ⟨start,fun byte => percentEncode_visible⟩
  constructor
  · exact List.any_eq_false.mpr fun byte inside => by simp [(every byte inside).1]
  · exact fun inside => (every _ inside).2 rfl

theorem made_target (made : create method target headers body remoteAddress correlation = .ok request) :
    request.target = target ∧ 0 ∉ target ∧ target.length ≤ 8192 ∧ (remoteAddress.isEmpty || remoteAddress.length > 256 ||
      hasControl remoteAddress || correlation.isEmpty || headers.length > 256) = false ∧
      ∃ normalized,headers.foldlM addHeader ∅ = .ok normalized ∧
        (normalized.holds "content-length" && normalized.holds "transfer-encoding") = false := by
  unfold create at made
  split at made
  · cases made
  · rename_i form
    split at made
    · cases made
    · split at made
      · cases made
      · rename_i normalized added
        split at made
        · cases made
        · rename_i framed
          cases made
          simp only [Bool.or_eq_true,not_or,Bool.not_eq_true,decide_eq_true_eq] at form framed
          obtain ⟨⟨⟨⟨⟨⟨⟨⟨⟨⟨_,short⟩,_⟩,_⟩,_⟩,visible⟩,address⟩,long⟩,control⟩,named⟩,many⟩ := form
          refine ⟨rfl,?_,Nat.not_lt.mp short,?_,normalized,added,framed⟩
          · intro nul
            exact absurd (List.any_eq_false.mp visible 0 nul) (by decide)
          · simp only [address,control,named,Bool.or_eq_false_iff,decide_eq_false_iff_not,long,many,not_false_eq_true,and_self]

theorem create_login_iff (made : create method target headers body remoteAddress correlation = .ok request) :
    (∃ next,create method (loginLocation target) headers body remoteAddress correlation = .ok next) ↔
      17+(percentEncode target).length ≤ 8192 := by
  obtain ⟨_,_,_,others,normalized,added,framed⟩ := made_target made
  obtain ⟨visible,fragment⟩ := loginLocation_visible target
  have first : (loginLocation target).head? = some (ch '/') := rfl
  have single : (Text.of "//").isPrefixOf (loginLocation target) = false := rfl
  have path : (splitAt (ch '?') (loginLocation target)).1.isEmpty = false := rfl
  have nonempty : (loginLocation target).isEmpty = false := rfl
  simp only [Bool.or_eq_false_iff] at others
  obtain ⟨⟨⟨⟨address,long⟩,control⟩,named⟩,many⟩ := others
  unfold create
  simp only [nonempty,first,single,visible,path,address,long,control,named,many,added,framed,loginLocation_length,bne_self_eq_false,
    Bool.false_or,Bool.or_false,List.contains_eq_mem,fragment,decide_false,decide_eq_true_eq,if_false,Bool.false_eq_true]
  by_cases short : 17+(percentEncode target).length ≤ 8192
  · simp [short,Nat.not_lt.mpr short]
  · simp [short,Nat.not_le.mp short]

theorem loginLocation_read (clean : 0 ∉ target) (short : target.length ≤ 8192) :
    ∃ read,parseParameters (queryOf (loginLocation target)) = .ok read ∧ read[Text.of "return_to"]? = some target := by
  have sent : loginLocation target = sending "/login" [(Text.of "return_to",target)] := by
    have name : Text.of "/login?return_to=" = Text.of "/login" ++ [ch '?'] ++ percentEncode "return_to" ++ Text.of "=" := by decide
    have plain : (Text.of "/login").contains (ch '?') = false := by decide
    simp only [loginLocation,name,sending,List.foldl_cons,List.foldl_nil,appendRedirectParameter,plain,Bool.false_eq_true,if_false]
  have sound : ∀ parameter ∈ [(Text.of "return_to",target)],Sound parameter := by
    have named : Text.of "return_to" ≠ [] ∧ (Text.of "return_to").length ≤ 128 ∧ 0 ∉ Text.of "return_to" := by decide
    intro parameter inside
    obtain rfl := List.mem_singleton.mp inside
    exact ⟨named.1,named.2.1,named.2.2,clean,Nat.le_trans short (by decide)⟩
  have free : ∀ parameter ∈ [(Text.of "return_to",target)],(∅ : Parameters).holds parameter.1 = false := by
    intro parameter inside
    simp [Map.holds]
  have own : parseParameters (queryOf "/login") = .ok ∅ := rfl
  refine ⟨added ∅ [(Text.of "return_to",target)],?_,?_⟩
  · rw [sent]
    exact (parse_sending_iff sound (List.nodup_singleton _)).mpr ⟨∅,own,free,rfl⟩
  · have apart : ([(Text.of "return_to",target)].map Prod.fst).Nodup := List.nodup_singleton _
    exact (find_added apart free _ _).mpr (.inl List.mem_cons_self)

end Targets

theorem login_return_iff (d : Deployment) {method : HttpMethod} {target body remoteAddress correlation : Text}
    {headers : List (Text × Text)} {request : HttpRequest} {trace : Exchanges} {r : Except HttpResponse HttpResponse} {there : Text}
    (made : GatewayRequests.create method target headers body remoteAddress correlation = .ok request)
    (way : Trace (authorize d request) trace r) (sent : location (sentResponse r) = some there)
    (login : Text.of "/login?" <+: there) (home : ¬GrantSent d r) :
    ((∃ next,GatewayRequests.create method there headers body remoteAddress correlation = .ok next) ∧
      ∃ read,parseParameters (queryOf there) = .ok read ∧ read[Text.of "return_to"]? = some target) ↔
      17+(percentEncode target).length ≤ 8192 := by
  obtain ⟨same,clean,short,_⟩ := made_target made
  have location := (authorize_home trace r way).resolve_right home there sent login
  rw [location,same,← create_login_iff made]
  exact ⟨fun both => both.1,fun next => ⟨next,loginLocation_read clean short⟩⟩

section Padding

def paddedTarget (count : Nat) : Text := Text.of "/oauth/authorize?response_type=code&client_id=web" ++
  (Text.of "&redirect_uri=https://shop.example/cb&scope=read&resource=https://api.example&code_challenge_method=S256" ++
    (Text.of "&code_challenge=E9Melhoa2OwvFrEMTJguCHaoeK1t8URWbuGJSstw-cM" ++ List.replicate count (ch '&')))

def paddedRequest (count : Nat) : Result HttpRequest := GatewayRequests.create .get (paddedTarget count) [] [] "192.0.2.1" "c1"

def sentHome (count : Nat) (request : HttpRequest) : Bool :=
  match ((authorize demoDeployment request).run exec (demoProcess [])).1 with
  | .ok _ => false
  | .error response => location response == some (loginLocation (paddedTarget count))

theorem padding_home : (paddedRequest 2720).toOption.any (sentHome 2720) = true ∧ (paddedRequest 0).toOption.any (sentHome 0) = true ∧
    17+(percentEncode (paddedTarget 0)).length ≤ 8192 ∧
    16 ≤ (percentEncode (Text.of "/oauth/authorize?response_type=code&client_id=web")).length := by decide +kernel

theorem sentHome_error {request : HttpRequest} (home : sentHome count request = true) :
    ∃ response,((authorize demoDeployment request).run exec (demoProcess [])).1 = .error response ∧
      location response = some (loginLocation (paddedTarget count)) := by
  unfold sentHome at home
  split at home
  · cases home
  · rename_i response ran
    exact ⟨response,ran,by simpa using home⟩

theorem percentEncode_length (count : Nat) : (percentEncode (List.replicate count (ch '&'))).length = 3*count := by
  induction count with
  | zero => rfl
  | succ count ih =>
    have escaped : unreserved (ch '&') = false := by decide
    rw [List.replicate_succ,percentEncode_cons,escaped,List.length_append,ih]
    simp only [Bool.false_eq_true,if_false,List.length_cons,List.length_nil]
    omega

theorem padding_long : 8192 < 17+(percentEncode (paddedTarget 2720)).length := by
  have suffix := percentEncode_length 2720
  have start := padding_home.2.2.2
  unfold percentEncode at suffix start ⊢
  simp only [paddedTarget,List.flatMap_append,List.length_append]
  omega

theorem padded_target_refused : ¬∀ (d : Deployment) (method : HttpMethod) (target body remoteAddress correlation : Text)
    (headers : List (Text × Text)) (request : HttpRequest) (trace : Exchanges) (r : Except HttpResponse HttpResponse) (there : Text),
    GatewayRequests.create method target headers body remoteAddress correlation = .ok request →
    Trace (authorize d request) trace r → location (sentResponse r) = some there → Text.of "/login?" <+: there → ¬GrantSent d r →
    (∃ next,GatewayRequests.create method there headers body remoteAddress correlation = .ok next) ∧
      ∃ read,parseParameters (queryOf there) = .ok read ∧ read[Text.of "return_to"]? = some target := by
  intro always
  obtain ⟨request,made,home⟩ := made_some padding_home.1
  obtain ⟨response,ran,sent⟩ := sentHome_error home
  have way := run_trace exec (authorize demoDeployment request) (demoProcess [])
  rw [ran] at way
  have elsewhere : ¬GrantSent demoDeployment (.error response) := by
    intro granted
    obtain ⟨_,_,_,same,_⟩ := granted
    cases same
  have accepted := always demoDeployment .get (paddedTarget 2720) _ _ _ _ request _ _ _ made way sent ⟨_,rfl⟩ elsewhere
  exact absurd ((create_login_iff made).mp accepted.1) (Nat.not_le.mpr padding_long)

theorem login_return_iff_short : ∃ request response there,paddedRequest 0 = .ok request ∧
    ((authorize demoDeployment request).run exec (demoProcess [])).1 = .error response ∧ location response = some there ∧
    ∃ read,parseParameters (queryOf there) = .ok read ∧ read[Text.of "return_to"]? = some (paddedTarget 0) := by
  obtain ⟨request,made,home⟩ := made_some padding_home.2.1
  obtain ⟨response,ran,sent⟩ := sentHome_error home
  have way := run_trace exec (authorize demoDeployment request) (demoProcess [])
  rw [ran] at way
  have elsewhere : ¬GrantSent demoDeployment (.error response) := by
    intro granted
    obtain ⟨_,_,_,same,_⟩ := granted
    cases same
  have returned := (login_return_iff demoDeployment made way sent ⟨_,rfl⟩ elsewhere).mpr padding_home.2.2.1
  exact ⟨request,response,_,made,ran,sent,returned.2⟩

end Padding

end OpenProof.LoginReturns
