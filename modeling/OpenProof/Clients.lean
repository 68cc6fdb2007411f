import Mathlib.Data.List.Sort
import OpenProof.Applications

namespace OpenProof.Clients
open Foundation Applications

structure ClientIdTag
abbrev ClientId := StrongId ClientIdTag

inductive ClientKind where
  | web
  | native
  | browser
  | service
  deriving DecidableEq

def clientKindName : ClientKind → Text
  | .web => "web"
  | .native => "native"
  | .browser => "browser"
  | .service => "service"

def clientIsPublic (kind : ClientKind) : Bool := kind == .native || kind == .browser

inductive ClientStatus where
  | active
  | suspended
  | revoked
  deriving DecidableEq

def clientStatusName : ClientStatus → Text
  | .active => "active"
  | .suspended => "suspended"
  | .revoked => "revoked"

def scopeByte (byte : UInt8) : Bool :=
  byte == 0x21 || (0x23 ≤ byte && byte ≤ 0x5B) || (0x5D ≤ byte && byte ≤ 0x7E)

def validScope (value : Text) : Bool := !value.isEmpty && value.length ≤ 128 && value.all scopeByte

structure Scope where
  value : Text
  valid : validScope value = true
  deriving DecidableEq

def Scope.create (value : Text) : Result Scope :=
  if valid : validScope value then .ok ⟨value,valid⟩
  else fail .invalidArgument "The OAuth scope is invalid."

-- `parsed.push_back(create(value))` over a list, up to the first failure.
def parseScopes (values : List Text) : Result (List Scope) := values.mapM Scope.create

def sortScopes (scopes : List Scope) : List Scope :=
  scopes.insertionSort fun a b => a.value ≤ b.value

@[simp] theorem mem_sortScopes (scope : Scope) (scopes : List Scope) :
    scope ∈ sortScopes scopes ↔ scope ∈ scopes := List.mem_insertionSort _

def validPort (value : Text) : Bool :=
  !value.isEmpty && value.all isDigit && value.length ≤ 5
    && 0 < value.foldl (fun port byte => port*10+(byte.toNat-48)) 0
    && value.foldl (fun port byte => port*10+(byte.toNat-48)) 0 ≤ 65535

structure Authority where
  host : Text
  port : Option Text
  deriving DecidableEq

-- `find_first_of("/?")`.
def beforePath (rest : Text) : Text := rest.takeWhile fun byte => byte != ch '/' && byte != ch '?'
def fromPath (rest : Text) : Text := rest.dropWhile fun byte => byte != ch '/' && byte != ch '?'

-- `rfind(':')` and the two parts around it.
def splitLastColon (value : Text) : Option (Text × Text) :=
  if value.contains (ch ':') then
    let port := (value.reverse.takeWhile (· != ch ':')).reverse
    some (value.take (value.length-port.length-1),port)
  else none

def bracketed (value : Text) : Option Authority :=
  match splitAt (ch ']') value with
  | (_,none) => none
  | (host,some []) => some ⟨host ++ [ch ']'],none⟩
  | (host,some (colon :: port)) =>
    if colon != ch ':' || !validPort port then none else some ⟨host ++ [ch ']'],some port⟩

def authority (uri scheme : Text) : Option Authority :=
  if !scheme.isPrefixOf uri then none else
  let value := beforePath (uri.drop scheme.length)
  if value.isEmpty || value.contains (ch '@') then none
  else if value.head? = some (ch '[') then bracketed value
  else match splitLastColon value with
    | none => some ⟨value,none⟩
    | some (host,port) =>
      if host.isEmpty || host.contains (ch ':') || !validPort port then none
      else some ⟨host,some port⟩

def validHttps (uri : Text) : Bool := (authority uri "https://").any fun parsed => !parsed.host.isEmpty

def loopbackHost (host : Text) : Bool := host == Text.of "127.0.0.1" || host == Text.of "[::1]"

def loopbackHttp (uri : Text) : Bool :=
  (authority uri "http://").any fun parsed => parsed.port.isSome && loopbackHost parsed.host

structure LoopbackRedirect where
  host : Text
  pathAndQuery : Text
  deriving DecidableEq

def parseLoopbackRedirect (uri : Text) : Option LoopbackRedirect :=
  match authority uri "http://" with
  | none => none
  | some parsed =>
    if parsed.port.isNone || !loopbackHost parsed.host then none
    else some ⟨parsed.host,fromPath (uri.drop (Text.of "http://").length)⟩

def sameNativeLoopbackRedirect (registered presented : Text) : Bool :=
  match parseLoopbackRedirect registered,parseLoopbackRedirect presented with
  | some expected,some actual =>
    expected.host == actual.host && expected.pathAndQuery == actual.pathAndQuery
  | _,_ => false

structure RedirectUri where
  value : Text
  deriving DecidableEq

def RedirectUri.create (value : Text) (clientKind : ClientKind) : Result RedirectUri :=
  if value.isEmpty || value.length > 2048 || value.contains (ch '#') || value.contains (ch '\\')
      || value.any isBlankOrControl then
    fail .invalidArgument "The redirect URI is invalid."
  else if !validHttps value && !(clientKind == .native && loopbackHttp value) then
    fail .invalidArgument "Redirect URIs require HTTPS except native loopback callbacks."
  else if clientKind == .service then
    fail .invalidArgument "Service clients do not use redirect URIs."
  else .ok ⟨value⟩

abbrev ClientSecretDigest := Sha256Digest

structure Client where
  id : ClientId
  applicationId : ApplicationId
  displayName : Text
  kind : ClientKind
  status : ClientStatus
  redirectUris : List RedirectUri
  scopes : List Scope
  secretDigest : Option ClientSecretDigest
  createdAt : Instant
  updatedAt : Instant
  deriving DecidableEq

namespace Client

def create (id : ClientId) (applicationId : ApplicationId) (displayName : Text) (kind : ClientKind)
    (redirectUris : List RedirectUri) (scopes : List Scope) (secretDigest : Option ClientSecretDigest)
    (createdAt : Instant) : Result Client := do
  if id.empty || applicationId.empty || !validDisplayName displayName
      || scopes.isEmpty || scopes.length > 64 then
    fail .invalidArgument "The client registration is invalid."
  if kind = .service then
    if !redirectUris.isEmpty || secretDigest.isNone then
      fail .invalidArgument "A service client requires a secret and no redirect URI."
  else if redirectUris.isEmpty || redirectUris.length > 32 then
    fail .invalidArgument "The client redirect registration is invalid."
  if clientIsPublic kind && secretDigest.isSome then
    fail .invalidArgument "Public clients must not rely on a client secret."
  if !clientIsPublic kind && secretDigest.isNone then
    fail .invalidArgument "Confidential clients require a client secret."
  let redirectUris := redirectUris.insertionSort fun a b => a.value ≤ b.value
  if adjacentEqual redirectUris then
    fail .invalidArgument "Redirect URIs must be unique."
  let scopes := sortScopes scopes
  if adjacentEqual scopes then
    fail .invalidArgument "Client scopes must be unique."
  return ⟨id,applicationId,displayName,kind,.active,redirectUris,scopes,secretDigest,createdAt,createdAt⟩

def restore (id : ClientId) (applicationId : ApplicationId) (displayName : Text) (kind : ClientKind)
    (status : ClientStatus) (redirectUris : List RedirectUri) (scopes : List Scope)
    (secretDigest : Option ClientSecretDigest) (createdAt updatedAt : Instant) : Result Client :=
  match create id applicationId displayName kind redirectUris scopes secretDigest createdAt with
  | .error e => .error e
  | .ok restored =>
    if updatedAt < createdAt then fail .internal "Stored client timestamps are invalid."
    else .ok { restored with status := status, updatedAt := updatedAt }

structure Registrable (id : ClientId) (applicationId : ApplicationId) (displayName : Text) (kind : ClientKind)
    (redirectUris : List RedirectUri) (scopes : List Scope) (secretDigest : Option ClientSecretDigest) : Prop where
  fields : ¬(id.empty || applicationId.empty || !validDisplayName displayName || scopes.isEmpty || scopes.length > 64) = true
  service : kind = .service → ¬(!redirectUris.isEmpty || secretDigest.isNone) = true
  visited : kind ≠ .service → ¬(redirectUris.isEmpty || redirectUris.length > 32) = true
  secretless : ¬(clientIsPublic kind && secretDigest.isSome) = true
  secretful : ¬(!clientIsPublic kind && secretDigest.isNone) = true
  uris : ¬adjacentEqual (redirectUris.insertionSort fun a b => a.value ≤ b.value) = true
  names : ¬adjacentEqual (sortScopes scopes) = true

section
variable {id : ClientId} {applicationId : ApplicationId} {displayName : Text} {kind : ClientKind}
  {redirectUris : List RedirectUri} {scopes : List Scope} {secretDigest : Option ClientSecretDigest} {createdAt : Instant}
  {client : Client}

theorem create_iff : create id applicationId displayName kind redirectUris scopes secretDigest createdAt = .ok client ↔
    Registrable id applicationId displayName kind redirectUris scopes secretDigest ∧
      client = ⟨id,applicationId,displayName,kind,.active,redirectUris.insertionSort fun a b => a.value ≤ b.value,
        sortScopes scopes,secretDigest,createdAt,createdAt⟩ := by
  simp only [create,bind,Except.bind,pure,Except.pure]
  constructor
  · intro done
    obtain ⟨fields,done⟩ := passed done
    by_cases service : kind = .service
    · rw [if_pos service] at done
      obtain ⟨secret,done⟩ := passed done
      obtain ⟨secretless,done⟩ := passed done
      obtain ⟨secretful,done⟩ := passed done
      obtain ⟨uris,done⟩ := passed done
      obtain ⟨names,done⟩ := passed done
      exact ⟨⟨fields,fun _ => secret,fun other => absurd service other,secretless,secretful,uris,names⟩,(Except.ok.inj done).symm⟩
    · rw [if_neg service] at done
      obtain ⟨visited,done⟩ := passed done
      obtain ⟨secretless,done⟩ := passed done
      obtain ⟨secretful,done⟩ := passed done
      obtain ⟨uris,done⟩ := passed done
      obtain ⟨names,done⟩ := passed done
      exact ⟨⟨fields,fun other => absurd other service,fun _ => visited,secretless,secretful,uris,names⟩,(Except.ok.inj done).symm⟩
  · rintro ⟨guards,rfl⟩
    rw [if_neg guards.fields]
    by_cases service : kind = .service
    · rw [if_pos service,if_neg (guards.service service),if_neg guards.secretless,if_neg guards.secretful,if_neg guards.uris,
        if_neg guards.names]
    · rw [if_neg service,if_neg (guards.visited service),if_neg guards.secretless,if_neg guards.secretful,if_neg guards.uris,
        if_neg guards.names]

theorem create_spec (done : create id applicationId displayName kind redirectUris scopes secretDigest createdAt = .ok client) :
    client.id = id ∧ client.applicationId = applicationId := by
  obtain ⟨-,rfl⟩ := create_iff.mp done
  exact ⟨rfl,rfl⟩

end

def isPublic (client : Client) : Bool := clientIsPublic client.kind
def permitsAuthorization (client : Client) : Bool := client.status == .active

def permitsRedirect (client : Client) (redirectUri : Text) : Bool :=
  client.redirectUris.any fun item =>
    item.value == redirectUri
      || (client.kind == .native && sameNativeLoopbackRedirect item.value redirectUri)

def permitsScope (client : Client) (scope : Text) : Bool :=
  client.scopes.any fun item => item.value == scope

def permitsScopes (client : Client) (requested : List Scope) : Bool :=
  requested.all fun scope => client.permitsScope scope.value

def suspend (client : Client) (now : Instant) : Result Client :=
  if client.status ≠ .active ∨ now < client.updatedAt then
    fail .failedPrecondition "The client cannot be suspended."
  else .ok { client with status := .suspended, updatedAt := now }

def activate (client : Client) (now : Instant) : Result Client :=
  if client.status ≠ .suspended ∨ now < client.updatedAt then
    fail .failedPrecondition "The client cannot be activated."
  else .ok { client with status := .active, updatedAt := now }

def revoke (client : Client) (now : Instant) : Result Client :=
  if client.status = .revoked ∨ now < client.updatedAt then
    fail .failedPrecondition "The client cannot be revoked."
  else .ok { client with status := .revoked, updatedAt := now }

def replaceSecret (client : Client) (digest : ClientSecretDigest) (now : Instant) : Result Client :=
  if client.isPublic ∨ client.status = .revoked ∨ now < client.updatedAt then
    fail .failedPrecondition "The client secret cannot be replaced."
  else .ok { client with secretDigest := some digest, updatedAt := now }

theorem permitsScopes_eq_true (client : Client) (requested : List Scope) : client.permitsScopes requested = true ↔
      ∀ scope ∈ requested,∃ registered ∈ client.scopes,registered.value = scope.value := by
  simp [permitsScopes,permitsScope]

structure SameRegistration (before after : Client) : Prop where
  id : after.id = before.id
  applicationId : after.applicationId = before.applicationId
  kind : after.kind = before.kind
  redirectUris : after.redirectUris = before.redirectUris
  scopes : after.scopes = before.scopes

theorem suspend_same {client changed : Client} (done : client.suspend now = .ok changed) : SameRegistration client changed := by
  unfold suspend at done
  split_ifs at done
  cases done
  exact ⟨rfl,rfl,rfl,rfl,rfl⟩

theorem activate_same {client changed : Client} (done : client.activate now = .ok changed) : SameRegistration client changed := by
  unfold activate at done
  split_ifs at done
  cases done
  exact ⟨rfl,rfl,rfl,rfl,rfl⟩

theorem revoke_same {client changed : Client} (done : client.revoke now = .ok changed) : SameRegistration client changed := by
  unfold revoke at done
  split_ifs at done
  cases done
  exact ⟨rfl,rfl,rfl,rfl,rfl⟩

theorem replaceSecret_same {client changed : Client} (done : client.replaceSecret digest now = .ok changed) : SameRegistration client changed := by
  unfold replaceSecret at done
  split_ifs at done
  cases done
  exact ⟨rfl,rfl,rfl,rfl,rfl⟩

end Client

-- `InMemoryClientRepository`.
abbrev ClientStore := Map ClientId Client

namespace ClientStore

def add (client : Client) (clients : ClientStore) : Result Unit × ClientStore :=
  if clients.holds client.id then (fail .alreadyExists "The OAuth client already exists.",clients)
  else (.ok (),clients.insert client.id client)

def save (client : Client) (clients : ClientStore) : Result Unit × ClientStore :=
  match clients[client.id]? with
  | none => (.error (.plain .notFound),clients)
  | some found =>
    if found.applicationId ≠ client.applicationId ∨ found.kind ≠ client.kind then
      (fail .failedPrecondition "Immutable client registration fields changed.",clients)
    else (.ok (),clients.insert client.id client)

def findById (id : ClientId) (clients : ClientStore) : Option Client := clients[id]?

def clientsOf (applicationId : ApplicationId) (clients : ClientStore) : List Client :=
  clients.elements.filter fun client => client.applicationId = applicationId

end ClientStore

end OpenProof.Clients
