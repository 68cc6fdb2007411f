import OpenProof.CallStocks
import OpenProof.TokenActs

namespace OpenProof.CodeRedemptions
open AtomicPrograms CallTraces CallLogs CallHistories Foundation World Services CallStocks Identities Clients
open Authorizations

inductive CodeRequest where
  | authorize (authenticated : AuthenticatedSession) (request : AuthorizationRequest)
  | redeem (code : Text) (clientId : ClientId) (redirectUri codeVerifier : Text)

inductive CodeReply where
  | granted (grant : AuthorizationGrant)
  | redeemed (code : AuthorizationCode)

def calling (d : Deployment) : CodeRequest → Call CodeReply
  | .authorize authenticated request =>
    (AuthorizationService.authorize d authenticated request).bind fun grant => .ret (.granted grant)
  | .redeem code clientId redirectUri codeVerifier =>
    (AuthorizationService.redeem d code clientId redirectUri codeVerifier).bind fun redeemed => .ret (.redeemed redeemed)

abbrev CodeEntry := Entry Op Op.Ret State
abbrev CodeFloor := Floor Op Op.Ret Error CodeReply State

def codeStage : Stage Op Op.Ret State where
  exec := exec
  drift before after := after.codes = before.codes

def Serves (d : Deployment) (floor : CodeFloor) : Prop :=
  ∀ m ∈ floor.members,∃ request,m.begun = calling d request

def Issues (code : AuthorizationCode) (exchange : Exchange Op Op.Ret) : Prop := exchange = ⟨.code (.add code),.ok ()⟩

def Redeems (digest : CodeDigest) (code : AuthorizationCode) (exchange : Exchange Op Op.Ret) : Prop :=
  ∃ now clientId redirectUri challenge,
    exchange = ⟨.code (.consumeBound digest now clientId redirectUri challenge),.ok code⟩

structure Bound (d : Deployment) (authenticated : AuthenticatedSession) (request : AuthorizationRequest)
    (code : AuthorizationCode) : Prop where
  clientId : code.clientId = request.clientId
  redirectUri : code.redirectUri = request.redirectUri
  codeChallenge : code.codeChallenge = request.codeChallenge
  scopes : code.scopes = request.scopes
  resource : code.resource = request.resource
  nonce : code.nonce = request.nonce
  identity : code.identity = authenticated.identity
  provider : code.provider = authenticated.provider
  assurance : code.assurance = authenticated.assurance
  strength : code.strength = authenticated.strength
  authenticatedAt : code.authenticatedAt = authenticated.authenticatedAt
  expiresAt : code.expiresAt = code.issuedAt+d.codeLifetime

def Uses (P : CodeOp → Prop) : Op → Prop
  | .code op => P op
  | _ => True

section
variable {d : Deployment}

theorem uses_reads (reading : op.reads = true) : Uses P op := by
  cases op with
  | code op => cases op <;> cases reading
  | _ => trivial

theorem create_bound {code : AuthorizationCode}
    (done : AuthorizationCode.create digest request.clientId authenticated.identity request.redirectUri request.scopes
      request.codeChallenge request.nonce authenticated.provider authenticated.assurance authenticated.strength
      authenticated.authenticatedAt at_ d.codeLifetime request.resource = .ok code) :
    Bound d authenticated request code := by
  unfold AuthorizationCode.create at done
  split_ifs at done
  cases done
  exact ⟨rfl,rfl,rfl,rfl,rfl,rfl,rfl,rfl,rfl,rfl,rfl,rfl⟩

theorem authorize_only (authenticated : AuthenticatedSession) (request : AuthorizationRequest) :
    (calling d (.authorize authenticated request)).Only
      (Uses fun op => ∃ code,op = .add code ∧ Bound d authenticated request code) := by
  have reads : ∀ op : Op,op.reads = true → Uses (fun op => ∃ code,op = .add code ∧ Bound d authenticated request code) op :=
    fun op reading => uses_reads reading
  refine .bind ?_ fun grant => trivial
  apply Prog.Only.bind (Prog.Only.weaken (ClientManager.looks_requireActive _) reads)
  intro client
  apply Prog.Only.bind (.refuseIf _ _ _)
  intro allowed
  apply Prog.Only.bind (Prog.Only.weaken looks_now reads)
  intro at_
  apply Prog.Only.bind (.refuseIf _ _ _)
  intro recent
  apply Prog.Only.bind (Prog.Only.weaken (looks_randomToken 32) reads)
  intro generated
  apply Prog.Only.bind (.check _ _)
  intro fingerprint
  apply Prog.Only.check_bind
  intro code created
  apply Prog.Only.bind (.perform ⟨code,rfl,create_bound created⟩)
  intro stored
  exact .bind (.check _ _) fun _ => trivial

theorem redeem_only (code : Text) (clientId : ClientId) (redirectUri codeVerifier : Text) :
    (calling d (.redeem code clientId redirectUri codeVerifier)).Only (Uses fun op => ∀ code,op ≠ .add code) := by
  have reads : ∀ op : Op,op.reads = true → Uses (fun op => ∀ code,op ≠ .add code) op := fun op reading => uses_reads reading
  refine .bind ?_ fun redeemed => trivial
  apply Prog.Only.bind (.mapError _ (Prog.Only.weaken (ClientManager.looks_requireActive _) reads))
  intro client
  apply Prog.Only.bind (.mapError _ (.check _ _))
  intro challenge
  apply Prog.Only.bind (.check _ _)
  intro fingerprint
  apply Prog.Only.bind (Prog.Only.weaken looks_now reads)
  intro at_
  apply Prog.Only.bind (.perform ?_) fun consumed => .check _ _
  intro code
  exact nofun

structure Presented (d : Deployment) (code : Text) (clientId : ClientId) (redirectUri codeVerifier : Text)
    (trace : List (Exchange Op Op.Ret)) (redeemed : AuthorizationCode) (digest : CodeDigest) (challenge : PkceChallenge)
    (at_ : Instant) : Prop where
  fingerprint : AuthorizationService.digest d code = .ok digest
  verifier : AuthorizationService.challengeForVerifier d codeVerifier = .ok challenge
  told : ⟨.now,at_⟩ ∈ trace
  consumed : ⟨.code (.consumeBound digest at_ clientId.value redirectUri challenge.value),.ok redeemed⟩ ∈ trace

theorem redeem_yields (code : Text) (clientId : ClientId) (redirectUri codeVerifier : Text) :
    Yields (calling d (.redeem code clientId redirectUri codeVerifier)) fun trace reply =>
      ∃ redeemed digest challenge at_,reply = .redeemed redeemed ∧
        Presented d code clientId redirectUri codeVerifier trace redeemed digest challenge at_ := by
  have consumes : Yields (AuthorizationService.redeem d code clientId redirectUri codeVerifier) fun trace redeemed =>
      ∃ digest challenge at_,Presented d code clientId redirectUri codeVerifier trace redeemed digest challenge at_ := by
    have verifies : Yields ((Prog.check (AuthorizationService.challengeForVerifier d codeVerifier) : Call PkceChallenge).mapError
        fun _ => AuthorizationService.invalidGrant) fun _ challenge =>
          AuthorizationService.challengeForVerifier d codeVerifier = .ok challenge :=
      .mapError (.checked fun challenge verified => verified)
    refine .bind .any fun before client _ => .bind verifies ?_
    intro done challenge verified
    refine .check fun digest fingerprint => .ask fun at_ => .ask fun answer => .checked ?_
    rintro redeemed rfl
    exact ⟨digest,challenge,at_,fingerprint,verified,by simp,by simp⟩
  refine .bind consumes ?_
  rintro done redeemed ⟨digest,challenge,at_,presented⟩
  apply Yields.ret
  rw [List.append_nil]
  exact ⟨redeemed,digest,challenge,at_,rfl,presented⟩

theorem challenge_eq {one two : PkceChallenge} (same : one.value = two.value) : one = two := by
  cases one
  cases two
  cases same
  rfl

theorem id_eq {Tag : Type} {one two : StrongId Tag} (same : one.value = two.value) : one = two := by
  cases one
  cases two
  cases same
  rfl

theorem consumeBound_cases (digest : CodeDigest) (now : Instant) (clientId redirectUri challenge : Text) (codes : CodeStore) :
    (∃ code,codes[digest]? = some code ∧ now < code.expiresAt ∧ code.clientId.value = clientId ∧
      code.redirectUri = redirectUri ∧ code.codeChallenge.value = challenge ∧
        codes.consumeBound digest now clientId redirectUri challenge = (.ok code,codes.erase digest)) ∨
    ∃ later,codes.consumeBound digest now clientId redirectUri challenge =
        (fail .authenticationFailed "The authorization grant is invalid.",later) ∧
      (later = codes ∨ later = codes.erase digest ∧ ∃ code,codes[digest]? = some code ∧ code.expiresAt ≤ now) := by
  unfold CodeStore.consumeBound
  cases stored : codes[digest]? with
  | none => exact .inr ⟨codes,rfl,.inl rfl⟩
  | some code =>
    dsimp only
    split
    · rename_i late
      exact .inr ⟨_,rfl,.inr ⟨rfl,code,rfl,by simpa [AuthorizationCode.expiredAt] using late⟩⟩
    · rename_i early
      split
      · exact .inr ⟨codes,rfl,.inl rfl⟩
      · rename_i bound
        simp only [ne_eq,not_or,not_not] at bound
        exact .inl ⟨code,rfl,by simpa [AuthorizationCode.expiredAt] using early,bound.1,bound.2.1,bound.2.2,rfl⟩

theorem add_cases (code : AuthorizationCode) (codes : CodeStore) :
    (codes[code.digest]? = none ∧ codes.add code = (.ok (),codes.insert code.digest code)) ∨
      ∃ e,codes.add code = (.error e,codes) := by
  unfold CodeStore.add Map.holds
  cases stored : codes[code.digest]? with
  | none => exact .inl ⟨rfl,rfl⟩
  | some other => exact .inr ⟨_,rfl⟩

theorem exec_brings {code : AuthorizationCode} (there : (exec op w).2.codes[digest]? = some code) : w.codes[digest]? = some code ∨
      code.digest = digest ∧ Issues code ⟨op,(exec op w).1⟩ := by
  cases op with
  | code op =>
    cases op with
    | add added =>
      simp only [exec,CodeOp.exec] at there ⊢
      rcases add_cases added w.codes with ⟨-,same⟩ | ⟨e,same⟩
      · rw [same] at there ⊢
        rcases Map.insert_cases there with ⟨here,rfl⟩ | before
        · exact .inr ⟨here,rfl⟩
        · exact .inl before
      · rw [same] at there
        exact .inl there
    | consumeBound other now clientId redirectUri challenge =>
      left
      simp only [exec,CodeOp.exec] at there
      rcases consumeBound_cases other now clientId redirectUri challenge w.codes with
        ⟨found,-,-,-,-,-,same⟩ | ⟨later,same,rfl | ⟨rfl,-⟩⟩
      · rw [same] at there
        exact Map.erase_cases there
      · rw [same] at there
        exact there
      · rw [same] at there
        exact Map.erase_cases there
  | _ => exact .inl there

theorem exec_takes {now : Instant} {code : AuthorizationCode} (taken : (⟨op,(exec op w).1⟩ : Exchange Op Op.Ret) =
      ⟨.code (.consumeBound digest now clientId redirectUri challenge),.ok code⟩) :
    w.codes[digest]? = some code ∧ now < code.expiresAt ∧ code.clientId.value = clientId ∧
      code.redirectUri = redirectUri ∧ code.codeChallenge.value = challenge ∧ (exec op w).2.codes[digest]? = none := by
  obtain ⟨rfl,answer⟩ := executed_as taken
  simp only [exec,CodeOp.exec] at answer ⊢
  rcases consumeBound_cases digest now clientId redirectUri challenge w.codes with
    ⟨found,stored,early,client,redirect,bound,same⟩ | ⟨later,same,-⟩
  · rw [same] at answer ⊢
    cases answer
    exact ⟨stored,early,client,redirect,bound,by simp⟩
  · rw [same] at answer
    cases answer

theorem exec_issues {code : AuthorizationCode} (issued : Issues code ⟨op,(exec op w).1⟩) :
    (exec op w).2.codes[code.digest]? = some code := by
  obtain ⟨rfl,answer⟩ := executed_as issued
  simp only [exec,CodeOp.exec] at answer ⊢
  rcases add_cases code w.codes with ⟨-,same⟩ | ⟨e,same⟩
  · rw [same]
    simp
  · rw [same] at answer
    cases answer

theorem exec_redeems {code : AuthorizationCode} (redeemed : Redeems digest code ⟨op,(exec op w).1⟩) :
    w.codes[digest]? = some code ∧ (exec op w).2.codes[digest]? = none := by
  obtain ⟨now,clientId,redirectUri,challenge,taken⟩ := redeemed
  obtain ⟨stored,-,-,-,-,gone⟩ := exec_takes taken
  exact ⟨stored,gone⟩

theorem issues_one (first : Issues one exchange) (second : Issues two exchange) : one = two := by
  cases first.symm.trans second
  rfl

theorem codes_still (moved : codeStage.drift w w') (digest : CodeDigest) : w'.codes[digest]? = w.codes[digest]? :=
  congrArg (fun codes : CodeStore => codes[digest]?) moved

def codeStock : Stock codeStage CodeDigest AuthorizationCode where
  held w digest := w.codes[digest]?
  key := AuthorizationCode.digest
  put := Issues
  take := Redeems
  one := issues_one
  puts := exec_issues
  takes := exec_redeems
  brings := exec_brings
  still := codes_still

variable {initial : State} {floor : CodeFloor} {issue : CodeEntry} {code : AuthorizationCode}

theorem issued_by (serves : Serves d floor) (played : Plays codeStage initial floor) (inside : issue ∈ floor.log)
    (issued : Issues code issue.exchange) : ∃ authenticated request rest,
      floor.members[issue.caller]? = some ⟨calling d (.authorize authenticated request),rest⟩ ∧
        Bound d authenticated request code := by
  have entered := played.accounted.entered issue inside
  obtain ⟨⟨begun,rest⟩,member⟩ : ∃ m,floor.members[issue.caller]? = some m := ⟨_,List.getElem?_eq_getElem entered⟩
  obtain ⟨request,same⟩ := serves _ (List.mem_of_getElem? member)
  subst same
  cases request with
  | authorize authenticated request =>
    have uses := played.only member (authorize_only authenticated request) issue inside rfl
    rw [issued] at uses
    obtain ⟨other,same,bound⟩ := uses
    cases same
    exact ⟨authenticated,request,rest,member,bound⟩
  | redeem presented clientId redirectUri codeVerifier =>
    have uses := played.only member (redeem_only presented clientId redirectUri codeVerifier) issue inside rfl
    rw [issued] at uses
    exact absurd rfl (uses code)

theorem codes_redeemed_once (fresh : initial.codes = ∅) (serves : Serves d floor) (played : Plays codeStage initial floor) :
    (∀ i presented clientId redirectUri codeVerifier code,
      floor.members[i]? = some ⟨calling d (.redeem presented clientId redirectUri codeVerifier),.ret (.redeemed code)⟩ →
        ∃ before issue authenticated request rest at_,codeStock.Taken floor.log before issue i code ∧
          floor.members[issue.caller]? = some ⟨calling d (.authorize authenticated request),rest⟩ ∧
            Bound d authenticated request code ∧ AuthorizationService.digest d presented = .ok code.digest ∧
              code.clientId = clientId ∧ code.redirectUri = redirectUri ∧
                AuthorizationService.challengeForVerifier d codeVerifier = .ok code.codeChallenge ∧
                  ⟨.now,at_⟩ ∈ own i floor.log ∧ at_ < code.expiresAt) ∧
      ∀ before issue i j one two,codeStock.Taken floor.log before issue i one → codeStock.Taken floor.log before issue j two →
        i = j := by
  constructor
  · intro i presented clientId redirectUri codeVerifier code finished
    obtain ⟨other,digest,challenge,at_,same,fingerprint,verifier,told,consumed⟩ :=
      redeem_yields presented clientId redirectUri codeVerifier _ _ (played.returned finished)
    cases same
    obtain ⟨taking,inside,rfl,taken⟩ := mem_own.mp consumed
    obtain ⟨first,after,split⟩ := List.append_of_mem inside
    obtain ⟨stored,early,client,redirect,bound,-⟩ := exec_takes ((Plays.exchanged played taking inside).trans taken)
    obtain ⟨before,issue,between,rfl,rfl,issued,silent⟩ := codeStock.found_put (by simp [codeStock,fresh]) played split
      stored
    obtain ⟨authenticated,request,rest,member,carried⟩ := issued_by serves played (show issue ∈ floor.log by simp [split]) issued
    refine ⟨before,issue,authenticated,request,rest,at_,?_,member,carried,fingerprint,?_,redirect,?_,told,early⟩
    · exact ⟨between,taking,after,by simp [split],issued,silent,rfl,at_,_,_,_,taken⟩
    · exact id_eq client
    · rw [verifier,challenge_eq bound]
  · intro before issue i j one two
    exact Stock.taken_once played

end

def demoSession : AuthenticatedSession where
  identity := ⟨"ann"⟩
  provider := ⟨"passkey"⟩
  assurance := .ial2
  strength := ⟨Identities.AuthenticationFactor.knowledge,false⟩
  authenticatedAt := 0

def demoRequest : AuthorizationRequest where
  clientId := ⟨"web"⟩
  redirectUri := "https://shop.example/cb"
  scopes := TokenActs.demoCode.scopes
  codeChallenge := TokenActs.demoCode.codeChallenge
  state := none
  nonce := some "n1"
  maximumAuthenticationAge := none
  resource := some "https://api.example"
  responseMode := .query

def demoAuthorize : Call CodeReply := calling TokenActs.demoDeployment (.authorize demoSession demoRequest)

def demoRedeem (redirectUri : Text) : Call CodeReply := calling TokenActs.demoDeployment
  (.redeem "opa_k1" ⟨"web"⟩ redirectUri "dBjftJeZ4CVP-mB92K27uhbUJU1p1r_wW1gFWFOEjXk")

def redeems : Except Error CodeReply → Bool
  | .ok (.redeemed code) => code.identity == demoSession.identity && code.nonce == demoRequest.nonce
  | _ => false

theorem redeems_code (good : redeems r = true) : ∃ code,r = .ok (.redeemed code) := by
  cases r with
  | error e => cases good
  | ok reply =>
    cases reply with
    | granted grant => cases good
    | redeemed code => exact ⟨code,rfl⟩

theorem demo_serves {floor : CodeFloor} {redirects : List Text}
    (taken : takeTurns exec turns ⟨TokenActs.demoState ["k1"],[],[]⟩ = some floor)
    (entered : turns.filterMap Turn.entered = demoAuthorize :: redirects.map demoRedeem) :
    Serves TokenActs.demoDeployment floor := by
  refine takeTurns_all (P:=fun p => ∃ request,p = calling TokenActs.demoDeployment request) taken ?_
  rw [entered]
  intro p inside
  rcases List.mem_cons.mp inside with rfl | redeeming
  · exact ⟨_,rfl⟩
  · obtain ⟨redirectUri,-,rfl⟩ := List.mem_map.mp redeeming
    exact ⟨_,rfl⟩

-- Two redeem the code at once: the first to consume it has it, for the session it was issued to.
theorem codes_redeemed_once_race : ∃ (floor : CodeFloor) (code : AuthorizationCode),
    Plays codeStage (TokenActs.demoState ["k1"]) floor ∧
      floor.members[2]? = some ⟨demoRedeem "https://shop.example/cb",.ret (.redeemed code)⟩ ∧
        code.identity = demoSession.identity ∧ code.clientId = ⟨"web"⟩ ∧
          code.redirectUri = Text.of "https://shop.example/cb" := by
  let turns : List (Turn Op Op.Ret Error CodeReply State) := .enter demoAuthorize :: steps 0 5 ++
    .enter (demoRedeem "https://shop.example/cb") :: .enter (demoRedeem "https://shop.example/cb") ::
      steps 1 3 ++ steps 2 4 ++ steps 1 1
  have done : (takeTurns exec turns (⟨TokenActs.demoState ["k1"],[],[]⟩ : CodeFloor)).any (fun floor =>
      (floor.members[2]?.bind fun m => ended m.rest).any redeems) = true := by
    decide
  obtain ⟨floor,taken,holds⟩ := (Option.any_eq_true _ _).mp done
  have played : Plays codeStage (TokenActs.demoState ["k1"]) floor :=
    Plays.start.turns (by simp [turns,steps,Turn.Allowed]) taken
  have serves := demo_serves taken (rfl : _ = demoAuthorize ::
    [Text.of "https://shop.example/cb",Text.of "https://shop.example/cb"].map demoRedeem)
  obtain ⟨r,member,good⟩ := takeTurns_ended taken rfl holds
  obtain ⟨code,rfl⟩ : ∃ code,r = .ok (.redeemed code) := redeems_code good
  obtain ⟨first,-⟩ := codes_redeemed_once rfl serves played
  obtain ⟨before,issue,authenticated,request,rest,at_,-,-,-,-,client,redirect,-⟩ := first 2 _ _ _ _ code member
  simp only [redeems,Bool.and_eq_true,beq_iff_eq] at good
  exact ⟨floor,code,played,member,good.1,client,redirect⟩

end OpenProof.CodeRedemptions
