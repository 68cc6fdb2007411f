import OpenProof.ApplicationHttp

namespace OpenProof.GatewayRequests
open Foundation Http ApplicationHttp
open Std

def lowercase (text : Text) : Text :=
  text.map fun value => if isUpper value then value - ch 'A' + ch 'a' else value

def isHeaderName (name : Text) : Bool :=
  !name.isEmpty && name.all fun value =>
    isLower value || isUpper value || isDigit value || (Text.of "!#$%&'*+-.^_`|~").contains value

def hasControl (value : Text) : Bool :=
  value.any fun byte => byte == 0x7F || (byte < 0x20 && byte != ch '\t')

def invalidTargetCharacter (value : Text) : Bool := value.any isBlankOrControl

def isAmbiguousSingleton (name : Text) : Bool :=
  name == Text.of "authorization" || name == Text.of "host" || name == Text.of "content-length"
    || name == Text.of "transfer-encoding"

def separator (name : Text) : Text := if name == Text.of "cookie" then "; " else ","

-- The loop of `HttpRequest::create` over the headers as they were received.
def addHeader (normalized : Map Text Text) (header : Text × Text) : Result (Map Text Text) :=
  let name := lowercase header.1
  if header.1.length > 256 || header.2.length > 16384 || !isHeaderName header.1 || hasControl header.2 then
    fail .invalidArgument "The HTTP request contains an invalid header."
  else match normalized[name]? with
    | none => .ok (normalized.insert name header.2)
    | some before =>
      if isAmbiguousSingleton name then
        fail .invalidArgument "The HTTP request contains an ambiguous header."
      else .ok (normalized.insert name (before ++ separator name ++ header.2))

def create (method : HttpMethod) (target : Text) (headers : List (Text × Text))
    (body remoteAddress correlation : Text) : Result HttpRequest :=
  if target.isEmpty || target.length > 8192 || target.head? != some (ch '/')
      || (Text.of "//").isPrefixOf target || target.contains (ch '#') || invalidTargetCharacter target
      || remoteAddress.isEmpty || remoteAddress.length > 256 || hasControl remoteAddress
      || correlation.isEmpty || headers.length > 256 then
    fail .invalidArgument "The HTTP request target is invalid."
  else if (splitAt (ch '?') target).1.isEmpty then
    fail .invalidArgument "The HTTP request path is invalid."
  else match headers.foldlM addHeader ∅ with
    | .error e => .error e
    | .ok normalized =>
      if normalized.holds "content-length" && normalized.holds "transfer-encoding" then
        fail .invalidArgument "The HTTP request framing is ambiguous."
      else .ok ⟨method,target,normalized,body,remoteAddress,correlation⟩

def trusted (name : Text) : Bool := (Text.of "x-openproof-").isPrefixOf name

def stripTrustedIdentityHeaders (request : HttpRequest) : HttpRequest :=
  (request.headers.keys.filter trusted).foldl HttpRequest.eraseHeader request

def connectionHeaders (request : HttpRequest) : List Text :=
  match request.header "connection" with
  | none => []
  | some connection =>
    (((connection.splitOn (ch ',')).map trimmed).filter fun item => !item.isEmpty).map lowercase

def hopByHop : List Text :=
  [Text.of "connection",Text.of "proxy-connection",Text.of "keep-alive",Text.of "transfer-encoding",
    Text.of "te",Text.of "trailer",Text.of "upgrade"]

def stripHopByHop (request : HttpRequest) : HttpRequest :=
  hopByHop.foldl HttpRequest.eraseHeader ((connectionHeaders request).foldl HttpRequest.eraseHeader request)

section
variable {request : HttpRequest} {name : Text}

@[simp] theorem header_eraseHeader (erased name : Text) :
    (request.eraseHeader erased).header name = if erased = name then none else request.header name :=
  Map.find_erase erased name

@[simp] theorem header_setHeader (set name value : Text) :
    (request.setHeader set value).header name = if set = name then some value else request.header name :=
  Map.find_insert set name value

theorem header_eraseAll (names : List Text) (request : HttpRequest) (name : Text) :
    (names.foldl HttpRequest.eraseHeader request).header name =
      if name ∈ names then none else request.header name := by
  induction names generalizing request with
  | nil => simp
  | cons first rest ih =>
    rw [List.foldl_cons,ih,header_eraseHeader]
    by_cases later : name ∈ rest
    · simp [later]
    · by_cases here : first = name
      · simp [here]
      · simp [later,here,Ne.symm here]

theorem header_stripHopByHop (request : HttpRequest) (name : Text) : (stripHopByHop request).header name =
      if name ∈ hopByHop ∨ name ∈ connectionHeaders request then none else request.header name := by
  rw [stripHopByHop,header_eraseAll,header_eraseAll]
  by_cases hop : name ∈ hopByHop
  · simp [hop]
  · simp [hop]

theorem header_stripTrusted (request : HttpRequest) (name : Text) :
    (stripTrustedIdentityHeaders request).header name = if trusted name then none else request.header name := by
  rw [stripTrustedIdentityHeaders,header_eraseAll]
  cases mine : trusted name with
  | false => simp [mine]
  | true =>
    cases stored : request.header name with
    | none => simp
    | some value =>
      have present : name ∈ request.headers.keys := by
        rw [ExtTreeMap.mem_keys]
        exact ExtTreeMap.mem_iff_isSome_getElem?.mpr (Option.isSome_iff_exists.mpr ⟨value,stored⟩)
      simp [mine,present]

structure SameEnvelope (before after : HttpRequest) : Prop where
  method : after.method = before.method
  target : after.target = before.target
  body : after.body = before.body
  remoteAddress : after.remoteAddress = before.remoteAddress
  correlation : after.correlation = before.correlation

theorem SameEnvelope.refl (request : HttpRequest) : SameEnvelope request request := ⟨rfl,rfl,rfl,rfl,rfl⟩

theorem SameEnvelope.eraseAll (names : List Text) (request : HttpRequest) :
    SameEnvelope request (names.foldl HttpRequest.eraseHeader request) := by
  induction names generalizing request with
  | nil => exact .refl request
  | cons first rest ih =>
    have later := ih (request.eraseHeader first)
    exact ⟨later.method,later.target,later.body,later.remoteAddress,later.correlation⟩

end

theorem request_ext (envelope : SameEnvelope one two) (headers : ∀ name,two.header name = one.header name) : two = one := by
  obtain ⟨method,target,first,body,remoteAddress,correlation⟩ := one
  obtain ⟨method',target',second,body',remoteAddress',correlation'⟩ := two
  obtain ⟨rfl,rfl,rfl,rfl,rfl⟩ := envelope
  have same : second = first := ExtTreeMap.ext_getElem? (headers ·)
  rw [same]

def merged (name : Text) (before : Option Text) (headers : List (Text × Text)) : Option Text :=
  headers.foldl (fun before header =>
    if lowercase header.1 = name then
      some (before.elim header.2 fun before => before ++ separator name ++ header.2)
    else before) before

theorem addHeader_merges (done : addHeader normalized header = .ok added) (name : Text) :
    added[name]? = merged name normalized[name]? [header] := by
  simp only [addHeader] at done
  split at done
  · cases done
  · by_cases here : lowercase header.1 = name
    · subst here
      split at done
      · rename_i absent
        cases done
        simp [merged,absent]
      · rename_i before present
        split at done
        · cases done
        · cases done
          simp [merged,present]
    · have same : added[name]? = normalized[name]? := by
        split at done
        · cases done
          simp [here]
        · split at done
          · cases done
          · cases done
            simp [here]
      simp [merged,here,same]

theorem addHeaders_merge (done : headers.foldlM addHeader normalized = .ok added) (name : Text) :
    added[name]? = merged name normalized[name]? headers := by
  induction headers generalizing normalized with
  | nil =>
    cases done
    rfl
  | cons header rest ih =>
    rw [List.foldlM_cons] at done
    obtain ⟨next,first,further⟩ := bind_ok done
    rw [ih further,addHeader_merges first]
    rfl

def ordinary (headers : List (Text × Text)) : List (Text × Text) :=
  headers.filter fun header => !trusted (lowercase header.1)

theorem merged_ordinary {name : Text} (plain : trusted name = false) (before : Option Text)
    (headers : List (Text × Text)) : merged name before headers = merged name before (ordinary headers) := by
  induction headers generalizing before with
  | nil => rfl
  | cons header rest ih =>
    by_cases here : lowercase header.1 = name
    · have kept : ordinary (header :: rest) = header :: ordinary rest := by
        simp [ordinary,here,plain]
      rw [kept]
      exact ih _
    · have skip : merged name before (header :: rest) = merged name before rest := by
        simp [merged,here]
      rw [skip,ih before]
      by_cases mine : trusted (lowercase header.1) = true
      · simp [ordinary,mine]
      · simp [ordinary,mine,merged,here]

theorem create_spec {request : HttpRequest}
    (done : create method target headers body remoteAddress correlation = .ok request) :
    (∀ name,request.header name = merged name none headers) ∧ request.method = method ∧
      request.target = target ∧ request.body = body ∧ request.remoteAddress = remoteAddress ∧
        request.correlation = correlation := by
  obtain ⟨_,done⟩ := passed done
  obtain ⟨_,done⟩ := passed done
  split at done
  · cases done
  · rename_i normalized folded
    obtain ⟨_,done⟩ := passed done
    cases done
    refine ⟨fun name => ?_,rfl,rfl,rfl,rfl,rfl⟩
    simpa [HttpRequest.header] using addHeaders_merge folded name

theorem stripped_equal (made : create method target one body remoteAddress correlation = .ok first)
    (again : create method target two body remoteAddress correlation = .ok second)
    (agree : ordinary one = ordinary two) :
    stripTrustedIdentityHeaders second = stripTrustedIdentityHeaders first := by
  obtain ⟨found,rfl,rfl,rfl,rfl,rfl⟩ := create_spec made
  obtain ⟨others,methods,targets,bodies,addresses,correlations⟩ := create_spec again
  have left := SameEnvelope.eraseAll (first.headers.keys.filter trusted) first
  have right := SameEnvelope.eraseAll (second.headers.keys.filter trusted) second
  refine request_ext ⟨?_,?_,?_,?_,?_⟩ fun name => ?_
  · exact right.method.trans (methods.trans left.method.symm)
  · exact right.target.trans (targets.trans left.target.symm)
  · exact right.body.trans (bodies.trans left.body.symm)
  · exact right.remoteAddress.trans (addresses.trans left.remoteAddress.symm)
  · exact right.correlation.trans (correlations.trans left.correlation.symm)
  · rw [header_stripTrusted,header_stripTrusted]
    cases mine : trusted name with
    | true => rfl
    | false =>
      rw [if_neg Bool.false_ne_true,if_neg Bool.false_ne_true,others,found,merged_ordinary mine,
        merged_ordinary mine none one,agree]

end OpenProof.GatewayRequests
