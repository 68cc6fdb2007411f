import OpenProof.SavedStates
import OpenProof.Resources
import OpenProof.Sessions

namespace OpenProof.SavedRecords
open Foundation SavedStates Resources Applications Clients Sessions

inductive ApplicationCall where
  | suspend (now : Instant)
  | activate (now : Instant)
  | revoke (now : Instant)
  | rename (displayName : Text) (now : Instant)

def ApplicationCall.make : ApplicationCall → Application → Result Application
  | .suspend now,application => application.suspend now
  | .activate now,application => application.activate now
  | .revoke now,application => application.revoke now
  | .rename displayName now,application => application.rename displayName now

inductive ClientCall where
  | suspend (now : Instant)
  | activate (now : Instant)
  | revoke (now : Instant)
  | replaceSecret (digest : ClientSecretDigest) (now : Instant)

def ClientCall.make : ClientCall → Client → Result Client
  | .suspend now,client => client.suspend now
  | .activate now,client => client.activate now
  | .revoke now,client => client.revoke now
  | .replaceSecret digest now,client => client.replaceSecret digest now

structure StatusCall where
  status : ResourceStatus
  now : Instant

def StatusCall.make (call : StatusCall) (resource : ResourceServer) : Result ResourceServer :=
  resource.setStatus call.status call.now

inductive ServiceCall where
  | activate (now : Instant)
  | deactivate (now : Instant)

def ServiceCall.step : ServiceCall → ServiceIdentity → ServiceIdentity
  | .activate now,service => service.activate now
  | .deactivate now,service => service.deactivate now

inductive SessionCall where
  | use (presented : TokenDigest) (now : Instant)
  | rotateToken (expected replacement : TokenDigest) (now : Instant)
  | revoke (now : Instant)
  | markExpired

def SessionCall.step : SessionCall → Session → Session
  | .use presented now,session => (session.use presented now).2
  | .rotateToken expected replacement now,session => (session.rotateToken expected replacement now).2
  | .revoke now,session => (session.revoke now).2
  | .markExpired,session => session.markExpired

def applicationLoads (a : Application) : Prop :=
  Application.restore a.id a.owner a.identifier a.displayName a.environment a.status a.createdAt a.updatedAt = .ok a

def clientLoads (c : Client) : Prop :=
  Client.restore c.id c.applicationId c.displayName c.kind c.status c.redirectUris c.scopes c.secretDigest c.createdAt
    c.updatedAt = .ok c

def resourceLoads (r : ResourceServer) : Prop :=
  ResourceServer.restore r.id r.audience r.displayName r.scopes.items r.status r.createdAt r.updatedAt = .ok r

def serviceLoads (s : ServiceIdentity) : Prop :=
  ServiceIdentity.restore s.identity s.client s.audiences.items s.scopes.items s.active s.createdAt s.updatedAt = .ok s

def sessionLoads (s : Session) : Prop :=
  Session.restore s.id s.identity s.provider s.assurance s.strength s.state s.authenticatedAt s.tokenDigest s.issuedAt
    s.lastSeenAt s.absoluteExpiresAt s.idleTimeout s.revokedAt s.userAgent s.remoteAddress = .ok s

theorem later {createdAt updatedAt now : Instant} {refused : Prop} (ordered : createdAt ≤ updatedAt)
    (timely : ¬(refused ∨ now < updatedAt)) : createdAt ≤ now :=
  Int.le_trans ordered (Int.not_lt.mp (not_or.mp timely).2)

section
variable {a : Application}

theorem applicationLoads_iff : applicationLoads a ↔
    a.id.empty = false ∧ a.owner.empty = false ∧ Applications.validDisplayName a.displayName = true ∧
      a.createdAt ≤ a.updatedAt := by
  unfold applicationLoads Application.restore Application.create
  constructor
  · intro loaded
    split at loaded
    · cases loaded
    · rename_i made
      split_ifs at made loaded with invalid late
      simp only [Bool.or_eq_true,Bool.not_eq_true',not_or,Bool.not_eq_true,Bool.not_eq_false] at invalid
      exact ⟨invalid.1.1.1,invalid.1.1.2,invalid.2,Int.not_lt.mp late⟩
  · rintro ⟨id,owner,displayed,ordered⟩
    rw [dif_neg (by simp [id,owner,displayed,a.named])]
    exact if_neg (Int.not_lt.mpr ordered)

theorem application_kept (call : ApplicationCall) (a : Application) (loads : applicationLoads a) :
    applicationLoads (stepOf ApplicationCall.make call a) := by
  obtain ⟨id,owner,displayed,ordered⟩ := applicationLoads_iff.mp loads
  unfold stepOf
  split
  · rename_i changed done
    apply applicationLoads_iff.mpr
    cases call with
    | suspend now =>
      simp only [ApplicationCall.make,Application.suspend] at done
      split_ifs at done with _ early
      cases done
      exact ⟨id,owner,displayed,later ordered early⟩
    | activate now =>
      simp only [ApplicationCall.make,Application.activate] at done
      split_ifs at done with _ early
      cases done
      exact ⟨id,owner,displayed,later ordered early⟩
    | revoke now =>
      simp only [ApplicationCall.make,Application.revoke] at done
      split_ifs at done with early
      cases done
      exact ⟨id,owner,displayed,later ordered early⟩
    | rename displayName now =>
      simp only [ApplicationCall.make,Application.rename] at done
      split_ifs at done with early
      cases done
      obtain ⟨timely,valid⟩ := not_or.mp (not_or.mp early).2
      exact ⟨id,owner,by simpa using valid,Int.le_trans ordered (Int.not_lt.mp timely)⟩
  · exact loads

theorem created_application {id : ApplicationId}
    (made : Application.create id owner identifier displayName environment createdAt = .ok a) : applicationLoads a := by
  have again := made
  unfold Application.create at made
  split_ifs at made
  cases made
  unfold applicationLoads Application.restore
  rw [again]
  exact if_neg (Int.lt_irrefl createdAt)

end

section
variable {c : Client}

theorem sorted_again {α β : Type} [LinearOrder β] (key : α → β) (items : List α) :
    (items.insertionSort fun a b => key a ≤ key b).insertionSort (fun a b => key a ≤ key b) =
      items.insertionSort fun a b => key a ≤ key b := by
  have total : Std.Total fun a b : α => key a ≤ key b := ⟨fun a b => le_total (key a) (key b)⟩
  have trans : IsTrans α fun a b => key a ≤ key b := ⟨fun a b c => le_trans⟩
  exact (List.pairwise_insertionSort (fun a b : α => key a ≤ key b) items).insertionSort_eq

theorem isEmpty_sorted {α : Type} {r : α → α → Prop} [DecidableRel r] (items : List α) :
    (items.insertionSort r).isEmpty = items.isEmpty := by
  rw [Bool.eq_iff_iff,List.isEmpty_iff_length_eq_zero,List.isEmpty_iff_length_eq_zero,List.length_insertionSort]

theorem create_again {id : ClientId} (alike : digest.isSome = secretDigest.isSome)
    (made : Client.create id applicationId displayName kind redirectUris scopes secretDigest createdAt = .ok c) :
    Client.create c.id c.applicationId c.displayName c.kind c.redirectUris c.scopes digest c.createdAt =
      .ok { c with secretDigest := digest } := by
  have missing : digest.isNone = secretDigest.isNone := by
    rw [← Option.not_isSome,← Option.not_isSome,alike]
  obtain ⟨guards,rfl⟩ := Client.create_iff.mp made
  have again : Clients.sortScopes (Clients.sortScopes scopes) = Clients.sortScopes scopes := sorted_again Scope.value scopes
  have empty : (Clients.sortScopes scopes).isEmpty = scopes.isEmpty := isEmpty_sorted scopes
  have length : (Clients.sortScopes scopes).length = scopes.length := List.length_insertionSort _ _
  refine Client.create_iff.mpr ⟨⟨?_,?_,?_,?_,?_,?_,?_⟩,?_⟩
  · rw [empty,length]
    exact guards.fields
  · rw [isEmpty_sorted,missing]
    exact guards.service
  · rw [isEmpty_sorted,List.length_insertionSort]
    exact guards.visited
  · rw [alike]
    exact guards.secretless
  · rw [missing]
    exact guards.secretful
  · rw [sorted_again]
    exact guards.uris
  · rw [again]
    exact guards.names
  · rw [sorted_again,again]

theorem clientLoads_iff : clientLoads c ↔
    (∃ made,Client.create c.id c.applicationId c.displayName c.kind c.redirectUris c.scopes c.secretDigest c.createdAt =
      .ok made ∧ { made with status := c.status, updatedAt := c.updatedAt } = c) ∧ c.createdAt ≤ c.updatedAt := by
  unfold clientLoads Client.restore
  constructor
  · intro loaded
    split at loaded
    · cases loaded
    · rename_i made done
      split_ifs at loaded with late
      exact ⟨⟨made,done,Except.ok.inj loaded⟩,Int.not_lt.mp late⟩
  · intro ⟨⟨made,done,same⟩,ordered⟩
    rw [done]
    simp only
    rw [if_neg (Int.not_lt.mpr ordered),same]

theorem created_client {id : ClientId}
    (made : Client.create id applicationId displayName kind redirectUris scopes secretDigest createdAt = .ok c) :
    clientLoads c := by
  have again : Client.create c.id c.applicationId c.displayName c.kind c.redirectUris c.scopes secretDigest c.createdAt =
      .ok { c with secretDigest := secretDigest } := create_again rfl made
  obtain ⟨-,rfl⟩ := Client.create_iff.mp made
  exact clientLoads_iff.mpr ⟨⟨_,again,rfl⟩,Int.le_refl _⟩

theorem restamped (loads : clientLoads c) (status : Clients.ClientStatus) (ordered : c.createdAt ≤ now) :
    clientLoads { c with status := status, updatedAt := now } := by
  obtain ⟨⟨made,done,same⟩,-⟩ := clientLoads_iff.mp loads
  refine clientLoads_iff.mpr ⟨⟨made,done,?_⟩,ordered⟩
  rw [← same]

theorem created_secret {id : ClientId}
    (made : Client.create id applicationId displayName kind redirectUris scopes secretDigest createdAt = .ok c)
    (confidential : Clients.clientIsPublic kind = false) : secretDigest.isSome = true := by
  have secretful := (Client.create_iff.mp made).1.secretful
  simpa [confidential,Option.isSome_iff_ne_none] using secretful

theorem resealed (loads : clientLoads c) (confidential : c.isPublic = false) (digest : ClientSecretDigest)
    (ordered : c.createdAt ≤ now) : clientLoads { c with secretDigest := some digest, updatedAt := now } := by
  obtain ⟨⟨made,done,same⟩,-⟩ := clientLoads_iff.mp loads
  have again : Client.create made.id made.applicationId made.displayName made.kind made.redirectUris made.scopes
      (some digest) made.createdAt = .ok { made with secretDigest := some digest } :=
    create_again (created_secret done confidential).symm done
  obtain ⟨id,applicationId,displayName,kind,status,redirectUris,scopes,secretDigest,createdAt,updatedAt⟩ := c
  cases same
  exact clientLoads_iff.mpr ⟨⟨_,again,rfl⟩,ordered⟩

theorem client_kept (call : ClientCall) (c : Client) (loads : clientLoads c) :
    clientLoads (stepOf ClientCall.make call c) := by
  have ordered := (clientLoads_iff.mp loads).2
  unfold stepOf
  split
  · rename_i changed done
    cases call with
    | suspend now =>
      simp only [ClientCall.make,Client.suspend] at done
      split_ifs at done with early
      cases done
      exact restamped loads _ (later ordered early)
    | activate now =>
      simp only [ClientCall.make,Client.activate] at done
      split_ifs at done with early
      cases done
      exact restamped loads _ (later ordered early)
    | revoke now =>
      simp only [ClientCall.make,Client.revoke] at done
      split_ifs at done with early
      cases done
      exact restamped loads _ (later ordered early)
    | replaceSecret digest now =>
      simp only [ClientCall.make,Client.replaceSecret] at done
      split_ifs at done with early
      cases done
      obtain ⟨confidential,timely⟩ := not_or.mp early
      exact resealed loads (Bool.eq_false_iff.mpr confidential) digest (later ordered timely)
  · exact loads

end

section
variable {r : ResourceServer}

theorem resourceLoads_iff : resourceLoads r ↔ normalizedScopes r.scopes.items = .ok r.scopes ∧ r.id.empty = false ∧
      validAudience r.audience = true ∧ r.displayName.isEmpty = false ∧ r.displayName.length ≤ 256 ∧
      r.createdAt ≤ r.updatedAt := by
  unfold resourceLoads ResourceServer.restore
  constructor
  · intro loaded
    split at loaded
    · cases loaded
    · rename_i normalized done
      split_ifs at loaded with invalid
      have same := congrArg ResourceServer.scopes (Except.ok.inj loaded)
      simp only [Bool.or_eq_true,Bool.not_eq_true',not_or,Bool.not_eq_true,Bool.not_eq_false,decide_eq_true_eq] at invalid
      obtain ⟨⟨⟨⟨id,audience⟩,named⟩,short⟩,ordered⟩ := invalid
      exact ⟨done.trans (congrArg Except.ok same),id,audience,named,Nat.not_lt.mp short,Int.not_lt.mp ordered⟩
  · intro ⟨normalized,id,audience,named,short,ordered⟩
    rw [normalized]
    refine if_neg ?_
    simp [id,audience,named,Nat.not_lt.mpr short,Int.not_lt.mpr ordered]

theorem parseScopes_iff :
    (∃ parsed,Clients.parseScopes values = .ok parsed) ↔ ∀ value ∈ values,Clients.validScope value = true := by
  induction values with
  | nil => simp [Clients.parseScopes,pure,Except.pure]
  | cons value rest ih =>
    rw [List.forall_mem_cons,← ih]
    simp only [Clients.parseScopes,List.mapM_cons,bind,Except.bind,pure,Except.pure,Scope.create]
    by_cases valid : Clients.validScope value = true
    · rw [dif_pos valid]
      cases rest.mapM Scope.create with
      | error | ok => simp [valid]
    · rw [dif_neg valid]
      simp [valid]

theorem normalized_again (done : normalizedScopes scopes = .ok normalized) :
    normalizedScopes normalized.items = .ok normalized := by
  unfold normalizedScopes at done
  split_ifs at done with shape
  split at done
  · cases done
  · rename_i parsed valid
    cases done
    simp only [Bool.or_eq_true,List.isEmpty_iff,decide_eq_true_eq,not_or] at shape
    have each := parseScopes_iff.mp ⟨parsed,valid⟩
    obtain ⟨also,valid⟩ := parseScopes_iff.mpr (fun value (inside : value ∈ (SortedList.SortedSet.ofList scopes).items) =>
      each value ((SortedList.SortedSet.mem_ofList value scopes).mp inside))
    have short : (SortedList.SortedSet.ofList scopes).items.length ≤ scopes.length := SortedList.sortUnique_length scopes
    unfold normalizedScopes
    rw [if_neg,valid]
    · simp
    · simp [shape.1]
      omega

theorem audiences_again (done : normalizedAudiences audiences = .ok normalized) :
    normalizedAudiences normalized.items = .ok normalized := by
  unfold normalizedAudiences at done
  split_ifs at done with shape
  cases done
  have short : (SortedList.SortedSet.ofList audiences).items.length ≤ audiences.length :=
    SortedList.sortUnique_length audiences
  unfold normalizedAudiences
  rw [if_neg]
  · simp
  · simp only [Bool.or_eq_true,List.isEmpty_iff,decide_eq_true_eq,not_or,List.any_eq_true,not_exists,not_and,gt_iff_lt,
      SortedList.SortedSet.ofList_items_eq_nil,SortedList.SortedSet.mem_ofList] at shape ⊢
    obtain ⟨⟨some_,few⟩,valid⟩ := shape
    exact ⟨⟨some_,fun many => few (Nat.lt_of_lt_of_le many short)⟩,valid⟩

theorem created_resource {id : ResourceId} (made : ResourceServer.create id audience displayName scopes now = .ok r) : resourceLoads r := by
  unfold ResourceServer.create ResourceServer.restore at made
  split at made
  · cases made
  · rename_i normalized done
    split_ifs at made with invalid
    cases made
    unfold resourceLoads ResourceServer.restore
    rw [normalized_again done]
    exact if_neg invalid

def StatusCall.Timely (call : StatusCall) (resource : ResourceServer) : Prop :=
  ¬(resource.status = .revoked ∧ call.status ≠ .revoked) → resource.createdAt ≤ call.now

theorem resource_kept (call : StatusCall) (r : ResourceServer) (loads : resourceLoads r) :
    resourceLoads (stepOf StatusCall.make call r) ↔ call.Timely r := by
  have whole := resourceLoads_iff.mp loads
  unfold stepOf StatusCall.make ResourceServer.setStatus StatusCall.Timely
  split_ifs with ended
  · exact ⟨fun _ taken => absurd ended taken,fun _ => loads⟩
  · constructor
    · intro loaded _
      exact (resourceLoads_iff.mp loaded).2.2.2.2.2
    · intro timely
      obtain ⟨scopes,id,audience,named,short,-⟩ := whole
      exact resourceLoads_iff.mpr ⟨scopes,id,audience,named,short,timely ended⟩

end

section
variable {s : ServiceIdentity}

theorem serviceLoads_iff : serviceLoads s ↔ normalizedAudiences s.audiences.items = .ok s.audiences ∧
      normalizedScopes s.scopes.items = .ok s.scopes ∧ s.identity.empty = false ∧ s.client.empty = false ∧
        s.createdAt ≤ s.updatedAt := by
  unfold serviceLoads ServiceIdentity.restore
  constructor
  · intro loaded
    split at loaded
    · rename_i audiences scopes given declared
      split_ifs at loaded with invalid
      have same := Except.ok.inj loaded
      simp only [Bool.or_eq_true,not_or,Bool.not_eq_true,decide_eq_true_eq] at invalid
      obtain ⟨⟨identity,client⟩,ordered⟩ := invalid
      exact ⟨given.trans (congrArg Except.ok (congrArg ServiceIdentity.audiences same)),
        declared.trans (congrArg Except.ok (congrArg ServiceIdentity.scopes same)),identity,client,Int.not_lt.mp ordered⟩
    · cases loaded
  · intro ⟨audiences,scopes,identity,client,ordered⟩
    rw [audiences,scopes]
    refine if_neg ?_
    simp [identity,client,Int.not_lt.mpr ordered]

theorem created_service (made : ServiceIdentity.create identity clientId audiences scopes now = .ok s) : serviceLoads s := by
  unfold ServiceIdentity.create ServiceIdentity.restore at made
  split at made
  · rename_i granted declared given named
    split_ifs at made with invalid
    cases made
    unfold serviceLoads ServiceIdentity.restore
    rw [audiences_again given,normalized_again named]
    exact if_neg invalid
  · cases made

def ServiceCall.now : ServiceCall → Instant
  | .activate now => now
  | .deactivate now => now

theorem service_kept (call : ServiceCall) (s : ServiceIdentity) (loads : serviceLoads s) :
    serviceLoads (call.step s) ↔ s.createdAt ≤ call.now := by
  obtain ⟨audiences,scopes,identity,client,-⟩ := serviceLoads_iff.mp loads
  cases call with
  | activate now =>
    exact ⟨fun loaded => (serviceLoads_iff.mp loaded).2.2.2.2,
      fun timely => serviceLoads_iff.mpr ⟨audiences,scopes,identity,client,timely⟩⟩
  | deactivate now =>
    exact ⟨fun loaded => (serviceLoads_iff.mp loaded).2.2.2.2,
      fun timely => serviceLoads_iff.mpr ⟨audiences,scopes,identity,client,timely⟩⟩

end

section
variable {s : Session}

structure Storable (s : Session) : Prop where
  seen : s.issuedAt ≤ s.lastSeenAt
  lasts : s.lastSeenAt < s.absoluteExpiresAt
  revoked : decide (s.state = .revoked) = s.revokedAt.isSome
  userAgent : s.userAgent.any (fun text => text.length > 1024) = false
  remoteAddress : s.remoteAddress.any (fun text => text.length > 128) = false

theorem sessionLoads_iff : sessionLoads s ↔ Storable s := by
  constructor
  · intro loaded
    unfold sessionLoads Session.restore at loaded
    split_ifs at loaded with unnamed early unseen unfit
    rw [not_or,not_or] at unseen
    rw [not_or,not_or,not_not] at unfit
    exact ⟨Int.not_lt.mp unseen.1,Int.not_le.mp unseen.2.1,unfit.1,Bool.eq_false_iff.mpr unfit.2.1,Bool.eq_false_iff.mpr unfit.2.2⟩
  · intro storable
    exact Session.restore_same s storable.seen storable.lasts storable.revoked storable.userAgent storable.remoteAddress

theorem created_session {id : Sessions.SessionId}
    (made : Session.create id identity provider assurance strength authenticatedAt tokenDigest issuedAt absoluteLifetime
      idleTimeout userAgent remoteAddress = .ok s) : sessionLoads s := by
  unfold Session.create at made
  split_ifs at made with unnamed fleeting early large
  cases made
  simp only [Bool.or_eq_true,not_or,Bool.not_eq_true] at large
  exact sessionLoads_iff.mpr ⟨Int.le_refl issuedAt,(Session.all_lasting fleeting).1,rfl,large.1,large.2⟩

def SessionCall.Timely : SessionCall → Session → Prop
  | .use presented now,s | .rotateToken presented _ now,s =>
    s.state = .active → s.isExpiredAt now = false → s.tokenDigest = presented → s.issuedAt ≤ now
  | .revoke _,_ | .markExpired,_ => True

theorem Storable.ended (storable : Storable s) (active : s.state = .active) : Storable { s with state := .expired } := by
  refine ⟨storable.seen,storable.lasts,?_,storable.userAgent,storable.remoteAddress⟩
  rw [← storable.revoked,active]
  rfl

theorem Storable.stopped (storable : Storable s) (now : Instant) :
    Storable { s with state := .revoked, revokedAt := some now } :=
  ⟨storable.seen,storable.lasts,rfl,storable.userAgent,storable.remoteAddress⟩

theorem Storable.seenAt (storable : Storable s) (timely : s.isExpiredAt now = false) (digest : TokenDigest) :
    Storable { s with lastSeenAt := now, tokenDigest := digest } ↔ s.issuedAt ≤ now := by
  simp only [Session.isExpiredAt,Bool.or_eq_false_iff,decide_eq_false_iff_not] at timely
  constructor
  · intro later
    exact later.seen
  · intro seen
    exact ⟨seen,Int.not_le.mp timely.1,storable.revoked,storable.userAgent,storable.remoteAddress⟩

theorem use_kept (presented : TokenDigest) (now : Instant) (storable : Storable s) :
    Storable (s.use presented now).2 ↔ SessionCall.Timely (.use presented now) s := by
  rcases Session.use_cases presented now s with ⟨ended,same⟩ | ⟨active,late,same⟩ | ⟨active,other,same⟩ |
    ⟨active,timely,mine,same⟩
  · rw [same]
    exact ⟨fun _ active => absurd active ended,fun _ => storable⟩
  · rw [same]
    refine ⟨fun _ _ timely => ?_,fun _ => storable.ended active⟩
    rw [late] at timely
    cases timely
  · rw [same]
    exact ⟨fun _ _ _ mine => absurd mine other,fun _ => storable⟩
  · rw [same]
    refine (storable.seenAt timely s.tokenDigest).trans ⟨fun seen _ _ _ => seen,fun seen => ?_⟩
    exact seen active timely mine

theorem session_kept (call : SessionCall) (s : Session) (loads : sessionLoads s) :
    sessionLoads (call.step s) ↔ call.Timely s := by
  have storable := sessionLoads_iff.mp loads
  rw [sessionLoads_iff]
  cases call with
  | use presented now => exact use_kept presented now storable
  | rotateToken expected replacement now =>
    rcases Session.rotate_cases expected replacement now s with ⟨e,-,same⟩ | ⟨active,timely,mine,same⟩
    · simp only [SessionCall.step,same]
      exact use_kept expected now storable
    · simp only [SessionCall.step,same]
      refine (storable.seenAt timely replacement).trans ⟨fun seen _ _ _ => seen,fun seen => ?_⟩
      exact seen active timely mine
  | revoke now =>
    refine iff_of_true ?_ trivial
    simp only [SessionCall.step,Session.revoke]
    cases s.state with
    | active => exact storable.stopped now
    | revoked | expired => exact storable
  | markExpired =>
    refine iff_of_true ?_ trivial
    simp only [SessionCall.step,Session.markExpired]
    split
    · rename_i active
      exact storable.ended active
    · exact storable

end

-- Applications and clients load whatever the clock did. A resource server, a service identity and
-- a session load throughout a run exactly when no accepted stamp goes back behind their creation.
theorem saved_records_load (applicationCalls : List ApplicationCall) (clientCalls : List ClientCall)
    (statusCalls : List StatusCall) (serviceCalls : List ServiceCall) (sessionCalls : List SessionCall) :
    (∀ (id : ApplicationId) (owner : Identities.OrganizationId) (identifier displayName : Text)
      (environment : Environment) (createdAt : Instant) (a : Application),
      Application.create id owner identifier displayName environment createdAt = .ok a →
        ∀ later ∈ visited (stepOf ApplicationCall.make) applicationCalls a,applicationLoads later) ∧
    (∀ (id : ClientId) (applicationId : ApplicationId) (displayName : Text) (kind : ClientKind)
      (redirectUris : List RedirectUri) (scopes : List Scope) (secretDigest : Option ClientSecretDigest)
      (createdAt : Instant) (c : Client),
      Client.create id applicationId displayName kind redirectUris scopes secretDigest createdAt = .ok c →
        ∀ later ∈ visited (stepOf ClientCall.make) clientCalls c,clientLoads later) ∧
    (∀ (id : ResourceId) (audience displayName : Text) (scopes : List Text) (now : Instant) (r : ResourceServer),
      ResourceServer.create id audience displayName scopes now = .ok r →
        ((∀ later ∈ visited (stepOf StatusCall.make) statusCalls r,resourceLoads later) ↔
          Throughout (stepOf StatusCall.make) StatusCall.Timely statusCalls r)) ∧
    (∀ (identity : Identities.IdentityId) (clientId : ClientId) (audiences scopes : List Text) (now : Instant)
      (s : ServiceIdentity),ServiceIdentity.create identity clientId audiences scopes now = .ok s →
        ((∀ later ∈ visited ServiceCall.step serviceCalls s,serviceLoads later) ↔
          Throughout ServiceCall.step (fun call s => s.createdAt ≤ call.now) serviceCalls s)) ∧
    ∀ (id : Sessions.SessionId) (identity : Identities.IdentityId) (provider : Identities.ProviderId)
      (assurance : Identities.AssuranceLevel) (strength : Identities.AuthenticationStrength) (authenticatedAt : Instant)
      (tokenDigest : TokenDigest) (issuedAt : Instant) (absoluteLifetime idleTimeout : Duration)
      (userAgent remoteAddress : Option Text) (s : Session),
      Session.create id identity provider assurance strength authenticatedAt tokenDigest issuedAt absoluteLifetime
          idleTimeout userAgent remoteAddress = .ok s →
        ((∀ later ∈ visited SessionCall.step sessionCalls s,sessionLoads later) ↔
          Throughout SessionCall.step SessionCall.Timely sessionCalls s) := by
  refine ⟨?_,?_,?_,?_,?_⟩
  · intro id owner identifier displayName environment createdAt a made
    exact visited_all application_kept (created_application made)
  · intro id applicationId displayName kind redirectUris scopes secretDigest createdAt c made
    exact visited_all client_kept (created_client made)
  · intro id audience displayName scopes now r made
    exact visited_iff resource_kept (created_resource made)
  · intro identity clientId audiences scopes now s made
    exact visited_iff service_kept (created_service made)
  · intro id identity provider assurance strength authenticatedAt tokenDigest issuedAt absoluteLifetime idleTimeout
      userAgent remoteAddress s made
    exact visited_iff session_kept (created_session made)

theorem saved_records_load_suspended : ∃ a,Application.create ⟨"app"⟩ ⟨"org"⟩ "shop" "Shop" .production 100 = .ok a ∧
      ∀ later ∈ visited (stepOf ApplicationCall.make) [.suspend 50,.suspend 120,.rename "Store" 110] a,
        applicationLoads later := by
  have made : (Application.create ⟨"app"⟩ ⟨"org"⟩ "shop" "Shop" .production 100).toOption.any (fun _ => true) = true := by
    decide
  obtain ⟨a,done,-⟩ := made_some made
  exact ⟨a,done,(saved_records_load [.suspend 50,.suspend 120,.rename "Store" 110] [] [] [] []).1 _ _ _ _ _ _ a done⟩

-- Stamps from before the creation are taken by three of the five, and what they leave does not load.
theorem backwards_unloadable :
    ¬(∀ (id : ResourceId) (audience displayName : Text) (scopes : List Text) (now : Instant) (r : ResourceServer)
      (calls : List StatusCall),ResourceServer.create id audience displayName scopes now = .ok r →
        ∀ later ∈ visited (stepOf StatusCall.make) calls r,resourceLoads later) ∧
    ¬(∀ (identity : Identities.IdentityId) (clientId : ClientId) (audiences scopes : List Text) (now : Instant)
      (s : ServiceIdentity) (calls : List ServiceCall),
      ServiceIdentity.create identity clientId audiences scopes now = .ok s →
        ∀ later ∈ visited ServiceCall.step calls s,serviceLoads later) ∧
    ¬∀ (id : Sessions.SessionId) (identity : Identities.IdentityId) (provider : Identities.ProviderId)
      (assurance : Identities.AssuranceLevel) (strength : Identities.AuthenticationStrength) (authenticatedAt : Instant)
      (tokenDigest : TokenDigest) (issuedAt : Instant) (absoluteLifetime idleTimeout : Duration)
      (userAgent remoteAddress : Option Text) (s : Session) (calls : List SessionCall),
      Session.create id identity provider assurance strength authenticatedAt tokenDigest issuedAt absoluteLifetime
          idleTimeout userAgent remoteAddress = .ok s →
        ∀ later ∈ visited SessionCall.step calls s,sessionLoads later := by
  refine ⟨?_,?_,?_⟩
  · intro claimed
    have made : (ResourceServer.create ⟨"res"⟩ "https://api.example" "API" [Text.of "read"] 100).toOption.any
        (fun r => r.status = .active ∧ r.createdAt = 100) = true := by decide
    obtain ⟨r,done,holds⟩ := made_some made
    obtain ⟨active,created⟩ := of_decide_eq_true holds
    have loaded := claimed _ _ _ _ _ r [⟨.suspended,50⟩] done _ (List.mem_cons_of_mem _ (List.mem_singleton.mpr rfl))
    have timely := (resource_kept ⟨.suspended,50⟩ r (created_resource done)).mp loaded (by simp [active])
    rw [created] at timely
    exact absurd timely (by decide)
  · intro claimed
    have made : (ServiceIdentity.create ⟨"svc"⟩ ⟨"robot"⟩ [Text.of "https://api.example"] [Text.of "read"] 100).toOption.any
        (fun s => s.createdAt = 100) = true := by decide
    obtain ⟨s,done,holds⟩ := made_some made
    have created : s.createdAt = 100 := of_decide_eq_true holds
    have loaded := claimed _ _ _ _ _ s [.deactivate 50] done _ (List.mem_cons_of_mem _ (List.mem_singleton.mpr rfl))
    have timely := (service_kept (.deactivate 50) s (created_service done)).mp loaded
    rw [created] at timely
    exact absurd timely (by decide)
  · intro claimed
    have made : (Session.create ⟨"ses"⟩ ⟨"ann"⟩ ⟨"local"⟩ .ial1 ⟨1,false⟩ 100 7 100 1000 1000 none none).toOption.any
        (fun s => s.state = .active ∧ s.isExpiredAt 50 = false ∧ s.tokenDigest = 7 ∧ s.issuedAt = 100) = true := by
      decide
    obtain ⟨s,done,holds⟩ := made_some made
    obtain ⟨active,unexpired,mine,issued⟩ := of_decide_eq_true holds
    have loaded := claimed _ _ _ _ _ _ _ _ _ _ _ _ s [.use 7 50] done _
      (List.mem_cons_of_mem _ (List.mem_singleton.mpr rfl))
    have timely := (session_kept (.use 7 50) s (created_session done)).mp loaded active unexpired mine
    rw [issued] at timely
    exact absurd timely (by decide)

end OpenProof.SavedRecords
