import OpenProof.Tokens

namespace OpenProof.Http
open Foundation Clients

inductive HttpMethod where
  | get
  | head
  | post
  | put
  | patch
  | delete
  | options
  deriving DecidableEq

-- What the JSON library hands over. Numbers that are not `int64` carry nothing
-- the endpoints read.
inductive Json where
  | null
  | bool (value : Bool)
  | int64 (value : Int)
  | number
  | string (value : Text)
  | array (items : List Json)
  | object (fields : List (Text × Json))

abbrev JsonObject := List (Text × Json)

def JsonObject.find (object : JsonObject) (name : Text) : Option Json :=
  (List.find? (fun field => field.1 == name) object).map Prod.snd

def jsonString (object : JsonObject) (name : Text) : Option Text :=
  match object.find name with
  | some (.string value) => some value
  | _ => none

-- Header names are stored in lower case, as `HttpRequest::create` leaves them.
structure HttpRequest where
  method : HttpMethod
  target : Text
  headers : Map Text Text
  body : Text
  remoteAddress : Text
  correlation : Text

namespace HttpRequest

def path (request : HttpRequest) : Text := (splitAt (ch '?') request.target).1
def query (request : HttpRequest) : Option Text := (splitAt (ch '?') request.target).2
def header (request : HttpRequest) (name : Text) : Option Text := request.headers[name]?
def eraseHeader (request : HttpRequest) (name : Text) : HttpRequest :=
  { request with headers := request.headers.erase name }
def setHeader (request : HttpRequest) (name value : Text) : HttpRequest :=
  { request with headers := request.headers.insert name value }

end HttpRequest

-- The markup of a page is constant: a page is its template and what is spliced into it.
inductive Body where
  | text (bytes : Text)
  | json (value : Json)
  | page (template : Text) (values : List Text)

structure HttpResponse where
  status : Nat
  headers : Map Text Text
  repeatedHeaders : List (Text × Text)
  body : Body

namespace HttpResponse

def plain (status : Nat) : HttpResponse := ⟨status,∅,[],.text []⟩

def setHeader (response : HttpResponse) (name value : Text) : HttpResponse :=
  { response with
    repeatedHeaders := response.repeatedHeaders.filter fun header => header.1 != name
    headers := response.headers.insert name value }

def addHeader (response : HttpResponse) (name value : Text) : HttpResponse :=
  if response.headers.holds name then
    { response with repeatedHeaders := response.repeatedHeaders ++ [(name,value)] }
  else { response with headers := response.headers.insert name value }

end HttpResponse

def secure (response : HttpResponse) : HttpResponse :=
  (((response.setHeader "cache-control" "no-store").setHeader "pragma" "no-cache").setHeader
    "x-content-type-options" "nosniff").setHeader "referrer-policy" "no-referrer"

def cors (response : HttpResponse) : HttpResponse :=
  (((response.setHeader "access-control-allow-origin" "*").setHeader
    "access-control-allow-methods" "GET, POST, OPTIONS").setHeader
    "access-control-allow-headers" "authorization, content-type").setHeader
    "access-control-max-age" "600"

def withType (status : Nat) (type : Text) (body : Body) : HttpResponse :=
  ⟨status,(∅ : Map Text Text).insert "content-type" type,[],body⟩

def textField (name value : Text) : Text × Json := (name,.string value)

def toClientJson (failure : Error) (requestId : Text) : Json :=
  .object [(Text.of "error",.object
    (textField "code" (errorCodeName failure.code) :: textField "message" failure.message ::
      if requestId.isEmpty then [] else [textField "request_id" requestId]))]

def redirect (location : Text) (status : Nat) : HttpResponse :=
  secure ⟨status,(∅ : Map Text Text).insert "location" location,[],.text []⟩

def unreserved (byte : UInt8) : Bool :=
  isUpper byte || isLower byte || isDigit byte || byte == ch '-' || byte == ch '.'
    || byte == ch '_' || byte == ch '~'

def hexDigit (value : Nat) : UInt8 := if value < 10 then ch '0'+value.toUInt8 else ch 'A'+(value-10).toUInt8

def percentEncode (input : Text) : Text :=
  input.flatMap fun byte =>
    if unreserved byte then [byte] else [ch '%',hexDigit (byte.toNat / 16),hexDigit (byte.toNat % 16)]

def hexValue (byte : UInt8) : Option Nat :=
  if isDigit byte then some (byte.toNat-48)
  else if ch 'A' ≤ byte && byte ≤ ch 'F' then some (byte.toNat-55)
  else if ch 'a' ≤ byte && byte ≤ ch 'f' then some (byte.toNat-87)
  else none

def percentDecode : Text → Result Text
  | [] => .ok []
  | byte :: rest =>
    if byte == ch '+' then (percentDecode rest).map (ch ' ' :: ·)
    else if byte != ch '%' then (percentDecode rest).map (byte :: ·)
    else match rest with
      | high :: low :: rest =>
        match hexValue high,hexValue low with
        | some high,some low =>
          if high*16+low = 0 then fail .invalidArgument "The request encoding is invalid."
          else (percentDecode rest).map ((high*16+low).toUInt8 :: ·)
        | _,_ => fail .invalidArgument "The request encoding is invalid."
      | _ => fail .invalidArgument "The request encoding is invalid."

abbrev Parameters := Map Text Text

def addParameter (output : Parameters) (pair : Text) : Result Parameters :=
  if pair.isEmpty then .ok output
  else match percentDecode (splitAt (ch '=') pair).1,
      percentDecode ((splitAt (ch '=') pair).2.getD []) with
    | .ok key,.ok value =>
      if key.isEmpty || key.length > 128 || value.length > 16*1024 || output.holds key then
        fail .invalidArgument "The request parameters are invalid."
      else .ok (output.insert key value)
    | _,_ => fail .invalidArgument "The request parameters are invalid."

def parseParameters (encoded : Text) : Result Parameters :=
  (encoded.splitOn (ch '&')).foldlM addParameter ∅

def queryParameters (request : HttpRequest) : Result Parameters :=
  match request.query with
  | none => .ok ∅
  | some query => parseParameters query

def maximumFormBody : Nat := 16*1024

def formParameters (request : HttpRequest) : Result Parameters :=
  match request.header "content-type" with
  | none => fail .invalidArgument "The request form is invalid."
  | some type =>
    if !(Text.of "application/x-www-form-urlencoded").isPrefixOf type || request.body.isEmpty
        || request.body.length > maximumFormBody then
      fail .invalidArgument "The request form is invalid."
    else parseParameters request.body

def required (parameters : Parameters) (name : Text) (maximum : Nat) : Result Text :=
  match parameters[name]? with
  | none => fail .invalidArgument "The request parameters are invalid."
  | some value =>
    if value.isEmpty || value.length > maximum then
      fail .invalidArgument "The request parameters are invalid."
    else .ok value

def optional (parameters : Parameters) (name : Text) : Option Text :=
  match parameters[name]? with
  | none => none
  | some value => if value.isEmpty then none else some value

def scopes (input : Text) : Result (List Scope) :=
  match parseScopes ((input.splitOn (ch ' ')).filter fun part => !part.isEmpty) with
  | .error e => .error e
  | .ok output =>
    if output.isEmpty then fail .invalidArgument "At least one OAuth scope is required."
    else if adjacentEqual (sortScopes output) then
      fail .invalidArgument "OAuth scopes must be unique."
    else .ok (sortScopes output)

def scopeString (scopes : List Text) : Text :=
  scopes.foldl (fun output scope => (if output.isEmpty then output else output ++ " ") ++ scope) []

def oidcOnlyScope (scope : Text) : Bool :=
  scope == Text.of "openid" || scope == Text.of "profile" || scope == Text.of "email"
    || scope == Text.of "phone" || scope == Text.of "offline_access" || scope == Text.of "account"

def scopeStrings (scopes : List Scope) : List Text := scopes.map Scope.value

def resourceScopeStrings (scopes : List Scope) : List Text :=
  (scopeStrings scopes).filter fun scope => !oidcOnlyScope scope

def consentAudience (clientId : ClientId) (resource : Option Text) : Text :=
  resource.getD ("urn:openproof:client:" ++ clientId.value)

def unsignedInteger (value : Text) : Result Nat :=
  let number := value.foldl (fun n byte => n*10+(byte.toNat-48)) 0
  if value.isEmpty || !value.all isDigit || number ≥ 18446744073709551616 then
    fail .invalidArgument "The request parameters are invalid."
  else .ok number

def decimal (value : Int) : Text := toString value

def cookie (name value path : Text) (maximumAge : Int) : Text :=
  name ++ "=" ++ value ++ "; Path=" ++ path ++ "; Max-Age=" ++ decimal maximumAge
    ++ "; Secure; HttpOnly; SameSite=Lax"

def cookieValue (request : HttpRequest) (wanted : Text) : Option Text :=
  match request.header "cookie" with
  | none => none
  | some header =>
    let items := (header.splitOn (ch ';')).map fun item =>
      splitAt (ch '=') (item.dropWhile fun byte => byte == ch ' ' || byte == ch '\t')
    match items.filterMap fun item => if item.1 == wanted then item.2 else none with
    | [value] => some value
    | _ => none

def validReturnTarget (target : Text) : Bool :=
  ((Text.of "/oauth/authorize?").isPrefixOf target || target == Text.of "/oauth/device"
    || (Text.of "/oauth/device?").isPrefixOf target || target == Text.of "/admin/console"
    || target == Text.of "/account/security")
  && !(Text.of "//").isPrefixOf target && !target.contains (ch '\r') && !target.contains (ch '\n')
  && target.length ≤ 8192

def appendRedirectParameter (redirectUri key value : Text) : Text :=
  redirectUri ++ [if redirectUri.contains (ch '?') then ch '&' else ch '?']
    ++ percentEncode key ++ "=" ++ percentEncode value

@[simp] theorem mem_resourceScopeStrings (scope : Text) (scopes : List Scope) :
    scope ∈ resourceScopeStrings scopes ↔ scope ∈ scopeStrings scopes ∧ oidcOnlyScope scope = false := by
  simp [resourceScopeStrings]

end OpenProof.Http
