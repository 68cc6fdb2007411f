import OpenProof.AuthorizationResponses

namespace OpenProof.RedirectQueries
open Option
open CallTraces Foundation Services OAuthHttp Authorizations Http RedirectParameters AuthorizationResponses
open Clients

def queryOf (location : Text) : Text := (splitAt (ch '?') location).2.getD []

def grantParameters (code : Text) (state : Option Text) (issuer : Text) : List (Text × Text) :=
  (Text.of "code",code) :: (state.toList.map fun state => (Text.of "state",state)) ++ [(Text.of "iss",issuer)]

section Decoding

theorem percentDecode_escape (first : high < 16) (second : low < 16) (rest : Text) :
    percentDecode (ch '%' :: hexDigit high :: hexDigit low :: rest) =
      if high*16+low = 0 then fail .invalidArgument "The request encoding is invalid."
      else (percentDecode rest).map ((high*16+low).toUInt8 :: ·) := by
  have plus : (ch '%' == ch '+') = false := by decide
  have percent : (ch '%' != ch '%') = false := by decide
  rw [percentDecode.eq_def]
  simp only [plus,percent,Bool.false_eq_true,if_false,hexValue_hexDigit low second,hexValue_hexDigit high first]

theorem percentDecode_plain (plain : unreserved byte = true) (rest : Text) :
    percentDecode (byte :: rest) = (percentDecode rest).map (byte :: ·) := by
  have plus : byte ≠ ch '+' := by
    rintro rfl
    revert plain
    decide
  have percent : byte ≠ ch '%' := by
    rintro rfl
    revert plain
    decide
  rw [percentDecode.eq_def]
  simp [plus,percent]

theorem percentDecode_percentEncode (clean : 0 ∉ text) : percentDecode (percentEncode text) = .ok text := by
  induction text with
  | nil => rfl
  | cons byte rest ih =>
    have behind := ih fun inside => clean (List.mem_cons_of_mem _ inside)
    rw [percentEncode_cons]
    split
    · rename_i plain
      rw [List.singleton_append,percentDecode_plain plain,behind]
      rfl
    · have bound : byte.toNat < 256 := byte.toNat_lt
      have whole : byte.toNat / 16 * 16 + byte.toNat % 16 = byte.toNat := by omega
      have printed : byte.toNat ≠ 0 := by
        intro zero
        have nul : byte = 0 := UInt8.toNat_inj.mp zero
        exact clean (nul ▸ List.mem_cons_self)
      have step := percentDecode_escape (show byte.toNat / 16 < 16 by omega) (show byte.toNat % 16 < 16 by omega) (percentEncode rest)
      rw [whole,if_neg printed,behind,Nat.toUInt8_eq,UInt8.ofNat_toNat] at step
      exact step

end Decoding

section Queries

def Sendable (text : Text) : Prop := 0 ∉ text ∧ text.length ≤ 16*1024

def Sound (parameter : Text × Text) : Prop :=
  parameter.1 ≠ [] ∧ parameter.1.length ≤ 128 ∧ 0 ∉ parameter.1 ∧ Sendable parameter.2

theorem splitAt_pairText :
    splitAt (ch '=') (pairText parameter) = (percentEncode parameter.1,some (percentEncode parameter.2)) := by
  have equal : pairText parameter = percentEncode parameter.1 ++ ch '=' :: percentEncode parameter.2 := by
    simp only [pairText,show Text.of "=" = [ch '='] by decide,List.append_assoc,List.singleton_append]
  rw [equal]
  exact splitAt_append fun inside => (percentEncode_plain inside).2 rfl

theorem addParameter_pair (own : Parameters) (sound : Sound parameter) : addParameter own (pairText parameter) =
      if own.holds parameter.1 then fail .invalidArgument "The request parameters are invalid."
      else .ok (own.insert parameter.1 parameter.2) := by
  obtain ⟨named,short,clean,value,within⟩ := sound
  have nonempty : (pairText parameter).isEmpty = false := by
    have equal : Text.of "=" = [ch '='] := by decide
    simp [pairText,equal]
  have key : parameter.1.isEmpty = false := by simpa using named
  have length : decide (parameter.1.length > 128) = false := decide_eq_false (Nat.not_lt.mpr short)
  have size : decide (parameter.2.length > 16*1024) = false := decide_eq_false (Nat.not_lt.mpr within)
  rw [addParameter,nonempty,if_neg Bool.false_ne_true,splitAt_pairText]
  simp only [getD_some,percentDecode_percentEncode clean,percentDecode_percentEncode value,key,length,size,Bool.false_or]

theorem addParameters_iff {sent : List (Text × Text)} {own read : Parameters} (sound : ∀ parameter ∈ sent,Sound parameter)
    (apart : (sent.map Prod.fst).Nodup) : (sent.map pairText).foldlM addParameter own = .ok read ↔
      (∀ parameter ∈ sent,own.holds parameter.1 = false) ∧
        read = sent.foldl (fun (output : Parameters) parameter => output.insert parameter.1 parameter.2) own := by
  induction sent generalizing own with
  | nil =>
    constructor
    · intro done
      exact ⟨fun parameter inside => absurd inside List.not_mem_nil,(Except.ok.inj done).symm⟩
    · intro same
      rw [same.2]
      rfl
  | cons parameter rest ih =>
    rw [List.map_cons,List.nodup_cons] at apart
    let next : Parameters := own.insert parameter.1 parameter.2
    have step := addParameter_pair own (sound parameter List.mem_cons_self)
    have later := @ih next (fun other inside => sound other (List.mem_cons_of_mem _ inside)) apart.2
    have free : (∀ other ∈ rest,next.holds other.1 = false) ↔ ∀ other ∈ rest,own.holds other.1 = false := by
      refine forall₂_congr fun other inside => ?_
      have different : parameter.1 ≠ other.1 := fun same => apart.1 (same ▸ List.mem_map_of_mem inside)
      simp only [next,Map.holds,Map.find_insert,different,if_false]
    rw [List.map_cons,List.foldlM_cons,step,List.foldl_cons,List.forall_mem_cons]
    cases taken : own.holds parameter.1 with
    | true => simp [bind,Except.bind]
    | false =>
      rw [free] at later
      simpa [bind,Except.bind] using later

theorem splitAt_absent (absent : symbol ∉ text) : splitAt symbol text = (text,none) := by
  induction text with
  | nil => rfl
  | cons byte rest ih =>
    have apart : byte ≠ symbol := by
      rintro rfl
      exact absent List.mem_cons_self
    simp [splitAt,apart,ih (fun inside => absent (List.mem_cons_of_mem _ inside))]

theorem parse_sending : parseParameters (queryOf (sending uri (first :: rest))) =
      (parseParameters (queryOf uri)).bind fun own => ((first :: rest).map pairText).foldlM addParameter own := by
  have pairs := splitOn_pairs (pairText_plain first) rest
  by_cases query : ch '?' ∈ uri
  · obtain ⟨before,own,rfl,absent⟩ := List.eq_append_cons_of_mem query
    have mark : (before ++ ch '?' :: own).contains (ch '?') = true := by simp
    have cut : (own ++ ch '&' :: (pairText first ++ rest.flatMap fun parameter => ch '&' :: pairText parameter)).splitOn (ch '&') =
        own.splitOn (ch '&') ++ (pairText first ++ rest.flatMap fun parameter => ch '&' :: pairText parameter).splitOn (ch '&') :=
      List.splitOnP_append_cons own _ (by simp)
    rw [sending_pairs,mark,if_pos rfl,queryOf,queryOf,List.append_assoc,List.cons_append,splitAt_append absent,splitAt_append absent]
    simp only [getD_some]
    rw [parseParameters,cut,pairs,List.foldlM_append]
    rfl
  · have mark : uri.contains (ch '?') = false := by simpa using query
    rw [sending_pairs,mark,if_neg Bool.false_ne_true,queryOf,queryOf,splitAt_append query,splitAt_absent query]
    simp only [getD_some,getD_none]
    rw [parseParameters,pairs]
    rfl

def added (own : Parameters) (sent : List (Text × Text)) : Parameters :=
  sent.foldl (fun (output : Parameters) parameter => output.insert parameter.1 parameter.2) own

theorem find_added (apart : (sent.map Prod.fst).Nodup) (free : ∀ parameter ∈ sent,own.holds parameter.1 = false)
    (name value : Text) : (added own sent)[name]? = some value ↔ (name,value) ∈ sent ∨ own[name]? = some value := by
  induction sent generalizing own with
  | nil => simp [added]
  | cons parameter rest ih =>
    rw [List.map_cons,List.nodup_cons] at apart
    obtain ⟨here,later⟩ := List.forall_mem_cons.mp free
    let next : Parameters := own.insert parameter.1 parameter.2
    have open_ : ∀ other ∈ rest,next.holds other.1 = false := by
      intro other inside
      have different : parameter.1 ≠ other.1 := fun same => apart.1 (same ▸ List.mem_map_of_mem inside)
      have unheld := later other inside
      simp only [Map.holds] at unheld
      simp only [next,Map.holds,Map.find_insert,different,if_false,unheld]
    have found := ih apart.2 open_
    have step : added own (parameter :: rest) = added next rest := rfl
    rw [step,found,List.mem_cons]
    simp only [Map.holds,isSome_eq_false_iff,isNone_iff_eq_none] at here
    by_cases same : parameter.1 = name
    · subst same
      simp only [next,Map.find_insert,if_true,Option.some.injEq,here,reduceCtorEq,or_false,Prod.ext_iff,true_and]
      tauto
    · have other : (name,value) ≠ parameter := by
        rintro rfl
        exact same rfl
      simp only [next,Map.find_insert,same,if_false,other,false_or]

theorem parse_sending_iff {first : Text × Text} {rest : List (Text × Text)} {read : Parameters}
    (sound : ∀ parameter ∈ first :: rest,Sound parameter) (apart : ((first :: rest).map Prod.fst).Nodup) :
    parseParameters (queryOf (sending uri (first :: rest))) = .ok read ↔
      ∃ own,parseParameters (queryOf uri) = .ok own ∧ (∀ parameter ∈ first :: rest,own.holds parameter.1 = false) ∧
        read = added own (first :: rest) := by
  rw [parse_sending]
  cases parseParameters (queryOf uri) with
  | error e => simp [Except.bind]
  | ok own =>
    have all := @addParameters_iff (first :: rest) own read sound apart
    simp only [Except.bind,Except.ok.injEq,exists_eq_left']
    exact all

end Queries

section Grants
variable {d : Deployment}

theorem grantParameters_apart (code : Text) (state : Option Text) (issuer : Text) :
    ((grantParameters code state issuer).map Prod.fst).Nodup := by
  cases state with
  | none =>
    simp only [grantParameters,toList,List.map_nil,List.cons_append,List.nil_append,List.map_cons]
    decide
  | some state =>
    simp only [grantParameters,toList,List.map_nil,List.map_cons,List.cons_append,List.nil_append]
    decide

theorem grantParameters_sound (sendable : Sendable code ∧ (∀ value ∈ state,Sendable value) ∧
    Sendable issuer) : ∀ parameter ∈ grantParameters code state issuer,Sound parameter := by
  have names : (Text.of "code" ≠ [] ∧ (Text.of "code").length ≤ 128 ∧ 0 ∉ Text.of "code") ∧
      (Text.of "state" ≠ [] ∧ (Text.of "state").length ≤ 128 ∧ 0 ∉ Text.of "state") ∧
      Text.of "iss" ≠ [] ∧ (Text.of "iss").length ≤ 128 ∧ 0 ∉ Text.of "iss" := by decide
  obtain ⟨code,state,issuer⟩ := sendable
  intro parameter inside
  simp only [grantParameters,List.cons_append,List.mem_cons,List.mem_append,List.mem_map,mem_toList,List.not_mem_nil,
    or_false] at inside
  rcases inside with rfl | ⟨value,given,rfl⟩ | rfl
  · exact ⟨names.1.1,names.1.2.1,names.1.2.2,code⟩
  · exact ⟨names.2.1.1,names.2.1.2.1,names.2.1.2.2,state value given⟩
  · exact ⟨names.2.2.1,names.2.2.2.1,names.2.2.2.2,issuer⟩

def GrantSent (d : Deployment) (r : Except HttpResponse HttpResponse) : Prop :=
  ∃ response sent,∃ final : AuthorizationRequest,r = .ok response ∧ location response = some (sending final.redirectUri sent) ∧
    ((final.responseMode = .query ∧ ∃ code,sent = grantParameters code final.state d.issuer) ∨
      final.responseMode = .jwt ∧ ∃ jwt,sent = [(Text.of "response",jwt)])

theorem past_refused {between : α → Prop} {post : Except HttpResponse HttpResponse → Prop}
    (refused : ∀ e,post (.error (errorResponse request e))) (first : Yields p fun _ a => between a)
    (rest : ∀ a,between a → Leaves (f a) fun _ r => post r) :
    Leaves ((orError request p).bind f) fun _ r => post r := by
  have ways := first.leaves.mapError (g:=errorResponse request)
  refine .bind ways ?_ ?_
  · intro done a way
    obtain ⟨outcome,same,held⟩ := way
    cases outcome with
    | ok value =>
      cases same
      exact rest a (held a rfl)
    | error e => cases same
  · intro done response way
    obtain ⟨outcome,same,_⟩ := way
    cases outcome with
    | ok value => cases same
    | error e =>
      cases same
      exact refused e

theorem issueCode_sent (request : HttpRequest) (authenticated : Identities.AuthenticatedSession) (final : AuthorizationRequest)
    (status : Nat) : Leaves (issueCode d request authenticated final status) fun _ r =>
      (∃ e,r = .error (errorResponse request e)) ∨ GrantSent d r := by
  refine past_refused (fun e => .inl ⟨e,rfl⟩) (authorize_grant authenticated final) fun grant granted => ?_
  obtain ⟨uri,state⟩ := granted
  split
  · rename_i mode
    refine .ask fun answer => past_refused (fun e => .inl ⟨e,rfl⟩) .any fun jwt _ => .ret (.inr ?_)
    refine ⟨_,[(Text.of "response",jwt)],final,rfl,?_,.inr ⟨mode,jwt,rfl⟩⟩
    rw [location_redirect]
    rw [uri]
    rfl
  · rename_i mode
    have query : final.responseMode = .query := by
      cases given : final.responseMode with
      | query => rfl
      | jwt => exact absurd given mode
    refine .ret (.inr ⟨_,_,final,rfl,?_,.inl ⟨query,grant.code,rfl⟩⟩)
    rw [location_redirect]
    rw [← state,← uri]
    cases grant.state with
    | none | some => rfl

theorem authorize_sent (request : HttpRequest) : Leaves (authorize d request) fun _ r => Inward r ∨ GrantSent d r := by
  have refused : ∀ e,Inward (.error (errorResponse request e)) ∨ GrantSent d (.error (errorResponse request e)) :=
    fun e => .inl (errorResponse_inward request e)
  refine past_refused refused .any fun parameters _ => ?_
  split
  · exact (authorizeJar_inward request parameters _).mono fun _ _ => Or.imp_right False.elim
  · refine past_refused refused .any fun asked _ => past_refused refused .any fun registered _ => past_refused refused .any fun _ _ => ?_
    refine requireSession_inward request request.target fun _ authenticated => past_refused refused .any fun covered _ => ?_
    split
    · exact past_refused refused .any fun csrf _ => .ret (.inl (consentPage_inward _ _ _ _))
    · refine past_refused refused .any fun final _ => (issueCode_sent request authenticated final 302).mono ?_
      intro trace r way
      refine way.imp_left fun answered => ?_
      obtain ⟨e,rfl⟩ := answered
      exact errorResponse_inward request e

theorem redirect_parsed : (∀ text : Text,0 ∉ text → percentDecode (percentEncode text) = .ok text) ∧
    (∀ (d : Deployment) (request : HttpRequest),Leaves (authorize d request) fun _ r => Inward r ∨ GrantSent d r) ∧
    ∀ (uri code : Text) (state : Option Text) (issuer : Text),Sendable code ∧ (∀ value ∈ state,Sendable value) ∧ Sendable issuer →
      ((∃ read,parseParameters (queryOf (sending uri (grantParameters code state issuer))) = .ok read) ↔
        ∃ own,parseParameters (queryOf uri) = .ok own ∧ ∀ parameter ∈ grantParameters code state issuer,own.holds parameter.1 = false) ∧
      ∀ own read,parseParameters (queryOf uri) = .ok own →
        parseParameters (queryOf (sending uri (grantParameters code state issuer))) = .ok read →
        ∀ name value,read[name]? = some value ↔ (name,value) ∈ grantParameters code state issuer ∨ own[name]? = some value := by
  refine ⟨fun text => percentDecode_percentEncode,fun d => authorize_sent,?_⟩
  intro uri code state issuer sendable
  have apart := grantParameters_apart code state issuer
  have whole : ∀ read,_ ↔ _ := fun read => @parse_sending_iff uri _ _ read (grantParameters_sound sendable) apart
  constructor
  · constructor
    · intro parsed
      obtain ⟨read,parsed⟩ := parsed
      obtain ⟨own,query,free,_⟩ := (whole read).mp parsed
      exact ⟨own,query,free⟩
    · intro query
      obtain ⟨own,query,free⟩ := query
      exact ⟨_,(whole _).mpr ⟨own,query,free,rfl⟩⟩
  · intro own read query parsed
    obtain ⟨same,again,free,rfl⟩ := (whole read).mp parsed
    obtain rfl := Except.ok.inj (query.symm.trans again)
    exact find_added apart free

def occupiedUri : Text := "https://client.example/callback?code=1"
def tenantUri : Text := "https://client.example/callback?tenant=north%20wing"

instance sendableDecidable (text : Text) : Decidable (Sendable text) := inferInstanceAs (Decidable (_ ∧ _))

theorem demo_texts : ((RedirectUri.create occupiedUri .web).toOption.any fun uri => uri.value == occupiedUri) = true ∧
    ((parseParameters (queryOf occupiedUri)).toOption.any fun own => own.holds "code") = true ∧
    ((parseParameters (queryOf tenantUri)).toOption.any fun own =>
      (grantParameters [] (some []) []).all fun parameter => !own.holds parameter.1) = true ∧
    Sendable "opa_1" ∧ Sendable "a b+&=%" ∧ Sendable "https://id.example" := by decide

-- The client's own query has a parameter of that name already.
theorem occupied_name : ¬∀ (uri : RedirectUri) (kind : ClientKind) (code : Text) (state : Option Text) (issuer : Text),
    RedirectUri.create uri.value kind = .ok uri → ∀ own,parseParameters (queryOf uri.value) = .ok own →
    Sendable code ∧ (∀ value ∈ state,Sendable value) ∧ Sendable issuer →
    ∃ read,parseParameters (queryOf (sending uri.value (grantParameters code state issuer))) = .ok read := by
  intro always
  obtain ⟨made,occupied,_,code,_,issuer⟩ := demo_texts
  obtain ⟨uri,created,same⟩ := made_some made
  obtain ⟨own,query,held⟩ := made_some occupied
  have same : uri.value = occupiedUri := by simpa using same
  have sendable : Sendable "opa_1" ∧ (∀ value ∈ (none : Option Text),Sendable value) ∧ Sendable "https://id.example" :=
    ⟨code,by simp,issuer⟩
  rw [← same] at created query
  obtain ⟨read,parsed⟩ := always uri .web "opa_1" none "https://id.example" created own query sendable
  obtain ⟨other,again,free,_⟩ := (parse_sending_iff (grantParameters_sound sendable) (grantParameters_apart ..)).mp parsed
  obtain rfl := Except.ok.inj (query.symm.trans again)
  have unheld := free (Text.of "code","opa_1") List.mem_cons_self
  rw [held] at unheld
  cases unheld

theorem redirect_parsed_demo : ∃ own read : Parameters,parseParameters (queryOf tenantUri) = .ok own ∧
    parseParameters (queryOf (sending tenantUri (grantParameters "opa_1" (some (Text.of "a b+&=%")) "https://id.example"))) = .ok read ∧
    read[Text.of "state"]? = some (Text.of "a b+&=%") ∧ percentDecode (percentEncode "a b+&=%") = .ok (Text.of "a b+&=%") := by
  obtain ⟨_,_,tenant,code,state,issuer⟩ := demo_texts
  obtain ⟨own,query,free⟩ := made_some tenant
  have sendable : Sendable "opa_1" ∧ (∀ value ∈ some (Text.of "a b+&=%"),Sendable value) ∧ Sendable "https://id.example" :=
    ⟨code,by simpa using state,issuer⟩
  have unheld : ∀ parameter ∈ grantParameters "opa_1" (some (Text.of "a b+&=%")) "https://id.example",own.holds parameter.1 = false := by
    simpa [grantParameters] using free
  obtain ⟨parsed,found⟩ := redirect_parsed.2.2 tenantUri _ _ _ sendable
  obtain ⟨read,parsed⟩ := parsed.mpr ⟨own,query,unheld⟩
  refine ⟨own,read,query,parsed,?_,redirect_parsed.1 _ state.1⟩
  exact (found own read query parsed (Text.of "state") (Text.of "a b+&=%")).mpr (.inl (by simp [grantParameters]))

end Grants

end OpenProof.RedirectQueries
