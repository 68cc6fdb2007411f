import OpenProof.AuthenticationRuns
import OpenProof.CallProtocols
import OpenProof.PasskeyRegistration

namespace OpenProof.PasskeyRaces
open AtomicPrograms CallProtocols Foundation Passkeys PasskeyRegistration InMemoryPasskeyRepository
open AuthenticationService AuthenticationWorld ExternalIdentities Identities
open PasskeyProvider (PasskeyAuthenticationProvider)

inductive Held where
  | plain
  | completing (identity : IdentityId)
  | connected
  | unowned (identity : IdentityId)
  | awaiting (identity : IdentityId) (credentialId : Text)
  | removing (identity : IdentityId) (credentialId : Text)
  | refused (identity : IdentityId) (credentialId : Text)
  | bare (identity : IdentityId) (credentialId : Text)
  | done

def quiet : Op → Bool
  | .auth (.attach _) => false
  | .auth _ => true
  | .passkey (.consumeCeremony ..) => true
  | _ => false

def Held.afterOwner (unowned : Held) (owned : Held) : Result (Option IdentityId) → Held
  | .ok none => unowned
  | .ok (some _) => owned
  | .error _ => .done

def Held.afterStep (failed : Held) : Result Unit → Held
  | .ok _ => .done
  | .error _ => failed

def protocol : Protocol Op Op.Ret Held where
  asks
    | .plain,op => quiet op = true ∨ ∃ external owner providers,
        op = .detachIfAnotherAuthenticationMethod external owner providers
    | .completing _,op => quiet op = true
    | .connected,op => op = .auth .now ∨ ∃ credential,op = .passkey (.addCredential credential)
    | .unowned identity,op => op = .auth .now ∨
        ∃ credential,op = .passkey (.addCredential credential) ∧ credential.identity = identity
    | .awaiting identity credentialId,op => op = .auth .now ∨
        (∃ link,op = .auth (.attach link) ∧ link.owner = identity ∧ link.external = passkeyRef identity) ∨
        op = .passkey (.removeCredential identity credentialId)
    | .removing identity credentialId,op => op = .passkey (.removeCredentialIfAnotherExists identity credentialId)
    | .refused identity _,op => op = .auth (.ownerOf (passkeyRef identity))
    | .bare identity credentialId,op => op = .passkey (.removeCredential identity credentialId)
    | .done,_ => False
  after
    | .completing identity,.auth (.ownerOf _),owner => .afterOwner (.unowned identity) .connected owner
    | .connected,.passkey (.addCredential _),_ => .done
    | .unowned identity,.passkey (.addCredential credential),.ok _ => .awaiting identity credential.credentialId
    | .unowned _,.passkey (.addCredential _),.error _ => .done
    | .awaiting identity credentialId,.auth (.attach _),attached => .afterStep (.awaiting identity credentialId) attached
    | .awaiting _ _,.passkey (.removeCredential ..),_ => .done
    | .removing identity credentialId,.passkey (.removeCredentialIfAnotherExists ..),removed =>
      .afterStep (.refused identity credentialId) removed
    | .refused identity credentialId,.auth (.ownerOf _),owner => .afterOwner (.bare identity credentialId) .done owner
    | .bare _ _,.passkey (.removeCredential ..),_ => .done
    | held,_,_ => held

def ends (_ : Held) (_ : Result Unit) : Prop := True

section
variable {p : PasskeyAuthenticationProvider} {a : Authenticator} {credentialId : Text}

def Links (identity : IdentityId) (link : IdentityLink) : Prop :=
  link.owner = identity ∧ link.external = passkeyRef identity

theorem request_links
    (requested : IdentityLink.request identity (passkeyRef identity) requestedAt lifetime = .ok link) : Links identity link := by
  unfold IdentityLink.request at requested
  split_ifs at requested
  cases requested
  exact ⟨rfl,rfl⟩

theorem Links.moved {link after : IdentityLink} {now : Instant} (links : Links identity link)
    (moved : link.transitionTo target now = .ok after) : Links identity after := by
  rw [IdentityLink.transitionTo_spec moved]
  exact links

def Waits (identity : IdentityId) (credentialId : Text) (held : Held) (r : Result IdentityLink) : Prop :=
  held = .awaiting identity credentialId ∧ ∀ link,r = .ok link → Links identity link

theorem linkFor_follows : Follows protocol (Waits identity credentialId) (.awaiting identity credentialId)
    (PasskeyService.linkFor identity) := by
  have stops : ∀ e,Waits identity credentialId (.awaiting identity credentialId) (.error e) := fun e => ⟨rfl,nofun⟩
  refine ⟨.inl rfl,fun requestedAt => ?_⟩
  refine .check (fun link requested => ?_) fun e _ => stops e
  refine ⟨.inl rfl,fun requiredAt => ?_⟩
  refine .check (fun required moved => ?_) fun e _ => stops e
  have links := (request_links requested).moved moved
  refine ⟨.inl rfl,fun verifiedAt => ?_⟩
  refine .check (fun verified moved => ?_) fun e _ => stops e
  have links := links.moved moved
  refine ⟨.inl rfl,fun completedAt => ?_⟩
  refine .checked ⟨rfl,?_⟩
  intro link moved
  exact links.moved moved

theorem withdraw_follows (e : Error) : Follows protocol ends (.awaiting identity credentialId)
    (PasskeyService.withdraw identity credentialId e) := ⟨.inr (.inr rfl),fun _ => trivial⟩

theorem connect_follows : Follows protocol ends (.awaiting identity credentialId)
    (PasskeyService.connect identity credentialId) := by
  refine linkFor_follows.attempt.bind ?_ fun _ _ _ => trivial
  rintro held outcome ⟨_,same,rfl,links⟩
  cases same
  cases outcome with
  | error e => exact withdraw_follows _
  | ok link =>
    obtain ⟨owner,external⟩ := links link rfl
    refine ⟨.inr (.inl ⟨link,rfl,owner,external⟩),fun attached => ?_⟩
    cases attached with
    | error e => exact withdraw_follows e
    | ok _ => trivial

theorem completeRegistration_follows (ceremonyId : ChallengeId) (response : RegistrationResponse) :
    Follows protocol ends (.completing identity) (PasskeyService.completeRegistration p identity ceremonyId response) := by
  refine .check (fun challenge _ => ?_) fun _ _ => trivial
  refine .check (fun attestation verified => ?_) fun _ _ => trivial
  have mine := verifyAttestation_id verified
  refine ⟨rfl,fun consumedAt => ⟨rfl,fun consumed => ?_⟩⟩
  refine .check (fun _ _ => ?_) fun _ _ => trivial
  refine ⟨rfl,fun owner => ?_⟩
  refine .check (fun owner found => ?_) fun _ _ => trivial
  subst found
  refine .refuse (fun _ => ?_) trivial
  cases owner with
  | some owner =>
    refine ⟨.inl rfl,fun createdAt => ⟨.inl rfl,fun lastUsedAt => ⟨.inr ⟨_,rfl⟩,fun added => ?_⟩⟩⟩
    exact .check (fun _ _ => trivial) fun _ _ => trivial
  | none =>
    refine ⟨.inl rfl,fun createdAt => ⟨.inl rfl,fun lastUsedAt => ⟨.inr ⟨_,rfl,rfl⟩,fun added => ?_⟩⟩⟩
    cases added with
    | error e => trivial
    | ok _ =>
      rw [mine]
      exact connect_follows

theorem remove_follows : Follows protocol ends (.removing identity credentialId)
    (PasskeyService.remove identity credentialId) := by
  refine ⟨rfl,fun removed => ?_⟩
  cases removed with
  | ok _ => trivial
  | error e =>
    simp only [Prog.ret_bind]
    split
    · trivial
    · refine ⟨rfl,fun owner => ?_⟩
      cases owner with
      | error e => trivial
      | ok owner =>
        cases owner with
        | none => exact ⟨rfl,fun _ => .checked trivial⟩
        | some owner =>
          simp only [Prog.bind_eq,Prog.ret_bind,Prog.check_ok]
          split <;> trivial

theorem requireActive_only : (ofAuth (requireActiveIdentity a identity)).Only fun op => quiet op = true := by
  unfold requireActiveIdentity ofAuth
  split
  · trivial
  · split
    · trivial
    · refine ⟨rfl,fun canonical => ?_⟩
      cases canonical with
      | error e => trivial
      | ok canonical =>
        simp only [Prog.ret_bind,CallEmbeddings.embed_refuseIf]
        exact .refuseIf _ _ _

theorem plain_still (still : quiet op = true) :
    protocol.asks .plain op ∧ ∀ answer,protocol.after .plain op answer = .plain := ⟨.inl still,fun _ => rfl⟩

theorem disconnect_follows (providerIds : List ProviderId) (external : ExternalIdentityRef) :
    Follows protocol ends .plain (disconnect a providerIds identity external) := by
  refine .past requireActive_only (fun _ => plain_still) (fun _ => ?_) fun _ => trivial
  refine ⟨.inl rfl,fun known => ?_⟩
  refine .refuse (fun _ => ?_) trivial
  refine ⟨.inr ⟨_,_,_,rfl⟩,fun detached => ?_⟩
  refine .check (fun _ _ => ?_) fun _ _ => trivial
  split
  · trivial
  · refine ⟨.inl rfl,fun found => ?_⟩
    refine .check (fun profile _ => ?_) fun _ _ => trivial
    cases profile with
    | none => trivial
    | some profile =>
      dsimp only
      split
      · trivial
      · refine ⟨.inl rfl,fun at_ => ?_⟩
        refine .check (fun reset _ => ?_) fun _ _ => trivial
        exact ⟨.inl rfl,fun saved => .checked trivial⟩

end

abbrev keyOf (identity : IdentityId) : ExternalKey := (passkeyRef identity).key

def Stored (w : State) (identity : IdentityId) (credentialId : Text) : Prop :=
  ∃ credential,w.passkeys.credentials[credentialId]? = some credential ∧ credential.identity = identity

def Backed (w : State) : Prop :=
  ∀ (key : ExternalKey) (owner : IdentityId),w.auth.directory.owners[key]? = some owner → key.provider = ⟨"passkey"⟩ →
    ∃ credentialId,Stored w owner credentialId

-- And it is the account of its own passkeys.
structure Kept (w : State) : Prop where
  own : ∀ (key : ExternalKey) (owner : IdentityId),w.auth.directory.owners[key]? = some owner →
    key.provider = ⟨"passkey"⟩ → key = keyOf owner
  backed : Backed w

def Spared (w : State) (identity : IdentityId) (credentialId : Text) : Prop :=
  w.auth.directory.owners[keyOf identity]? = none ∨ ∃ other,other ≠ credentialId ∧ Stored w identity other

-- What a call went by still holds when it acts: a completion that connects an account without an owner has a
-- credential behind it, and who removes a credential whatever else there is takes the last only from an account
-- without an owner.
def StillHolds : Held → Op → History State → Prop
  | .awaiting identity _,.auth (.attach _),h =>
    h.now.auth.directory.owners[keyOf identity]? = none → ∃ credentialId,Stored h.now identity credentialId
  | .awaiting identity credentialId,.passkey (.removeCredential ..),h => Spared h.now identity credentialId
  | .bare identity credentialId,.passkey (.removeCredential ..),h => Spared h.now identity credentialId
  | _,_,_ => True

def Elsewhere (before after : State) : Prop :=
  (∀ credentialId : Text,after.passkeys.credentials[credentialId]?.map PasskeyCredential.identity =
      before.passkeys.credentials[credentialId]?.map PasskeyCredential.identity) ∧
    ∀ key : ExternalKey,key.provider = ⟨"passkey"⟩ →
      after.auth.directory.owners[key]? = before.auth.directory.owners[key]?

def setting (p : PasskeyAuthenticationProvider) (a : Authenticator) (providerIds : List ProviderId)
    (permits : Held → Op → History State → Prop) : Setting Op Op.Ret Error Unit State Held where
  exec := exec p.sha256
  protocol := protocol
  entry held call :=
    (∃ identity ceremonyId response,held = .completing identity ∧
      call = PasskeyService.completeRegistration p identity ceremonyId response) ∨
    (∃ identity credentialId,held = .removing identity credentialId ∧ call = PasskeyService.remove identity credentialId) ∨
    ∃ identity external,held = .plain ∧ call = disconnect a providerIds identity external
  permits := permits
  drift := Elsewhere

abbrev PasskeyCrew := Crew Op Op.Ret Error Unit State Held

section
variable {w after : State} {credentialId : Text}

theorem stored_iff : Stored w identity credentialId ↔
    w.passkeys.credentials[credentialId]?.map PasskeyCredential.identity = some identity :=
  Option.map_eq_some_iff.symm

theorem Kept.elsewhere (kept : Kept w) (moved : Elsewhere w after) : Kept after := by
  obtain ⟨credentials,owners⟩ := moved
  constructor
  · intro key owner owned mine
    rw [owners key mine] at owned
    exact kept.own key owner owned mine
  · intro key owner owned mine
    rw [owners key mine] at owned
    obtain ⟨credentialId,stored⟩ := kept.backed key owner owned mine
    refine ⟨credentialId,stored_iff.mpr ?_⟩
    rw [credentials credentialId]
    exact stored_iff.mp stored

theorem quiet_elsewhere (sha256 : Text → Result Sha256Digest) (still : quiet op = true) (w : State) :
    Elsewhere w (exec sha256 op w).2 := by
  cases op with
  | passkey op =>
    cases op with
    | consumeCeremony id identity now =>
      have same : (w.passkeys.consumeCeremony id identity now).2.credentials = w.passkeys.credentials := by
        unfold consumeCeremony
        split
        · rfl
        · split <;> rfl
      refine ⟨fun credentialId => ?_,fun _ _ => rfl⟩
      change (w.passkeys.consumeCeremony id identity now).2.credentials[credentialId]?.map _ = _
      rw [same]
    | _ => cases still
  | auth op =>
    have owners : (AuthenticationWorld.exec sha256 op w.auth).2.directory.owners = w.auth.directory.owners := by
      cases op with
      | attach link => cases still
      | updatePresentation external => exact DirectoryChanges.updatePresentation_owners
      | _ => rfl
    refine ⟨fun _ => rfl,fun key _ => ?_⟩
    change (AuthenticationWorld.exec sha256 op w.auth).2.directory.owners[key]? = _
    rw [owners]
  | detachIfAnotherAuthenticationMethod external owner providers => cases still

theorem Kept.fewer (kept : Kept w)
    (owners : ∀ (key : ExternalKey) (owner : IdentityId),after.auth.directory.owners[key]? = some owner →
      w.auth.directory.owners[key]? = some owner)
    (credentials : ∀ (identity : IdentityId) (credentialId : Text),Stored w identity credentialId →
      ∃ other,Stored after identity other) : Kept after := by
  constructor
  · intro key owner owned mine
    exact kept.own key owner (owners key owner owned) mine
  · intro key owner owned mine
    obtain ⟨credentialId,stored⟩ := kept.backed key owner (owners key owner owned) mine
    exact credentials owner credentialId stored

theorem detach_kept (kept : Kept w) (external : ExternalIdentityRef) (owner : IdentityId) (providers : List ProviderId) :
    Kept { w with auth := { w.auth with
      directory := (w.auth.directory.detachIfAnotherAuthenticationMethod external owner providers).2 } } := by
  apply kept.fewer
  · intro key held owned
    unfold Directory.detachIfAnotherAuthenticationMethod at owned
    split at owned
    · exact owned
    · split at owned
      · exact owned
      · split at owned
        · exact owned
        · exact Map.erase_cases owned
  · exact fun identity credentialId stored => ⟨credentialId,stored⟩

theorem add_kept (kept : Kept w) (credential : PasskeyCredential) :
    Kept { w with passkeys := (w.passkeys.addCredential credential).2 } := by
  apply kept.fewer
  · exact fun _ _ owned => owned
  · intro identity credentialId stored
    refine ⟨credentialId,?_⟩
    unfold addCredential
    split
    · exact stored
    · rename_i absent
      obtain ⟨found,there,mine⟩ := stored
      refine ⟨found,?_,mine⟩
      rw [Map.find_insert,if_neg]
      · exact there
      · rintro rfl
        simp [Map.holds,there] at absent

theorem another (credentialId : Text) (several : 1 < (w.passkeys.listCredentials identity).length) : ∃ other,other ≠ credentialId ∧ Stored w identity other := by
  by_contra alone
  have only : ∀ other found,w.passkeys.credentials[other]? = some found → decide (found.identity = identity) = true →
      other = credentialId := by
    intro other found there mine
    by_contra apart
    exact alone ⟨other,apart,found,there,of_decide_eq_true mine⟩
  have listed : w.passkeys.listCredentials identity =
      (KeyedTables.rowsWhere (fun _ credential => decide (credential.identity = identity)) w.passkeys.credentials).map Prod.snd := by
    unfold listCredentials Map.elements
    rw [List.filter_map]
    rfl
  rw [listed,List.length_map] at several
  cases rows : KeyedTables.rowsWhere (fun _ credential => decide (credential.identity = identity)) w.passkeys.credentials with
  | nil =>
    rw [rows] at several
    simp at several
  | cons entry rest =>
    obtain ⟨key,found⟩ := entry
    have inside : (key,found) ∈ KeyedTables.rowsWhere (fun _ credential => decide (credential.identity = identity))
        w.passkeys.credentials := by simp [rows]
    obtain ⟨there,mine⟩ := KeyedTables.mem_rowsWhere.mp inside
    have one : KeyedTables.rowsWhere (fun _ credential => decide (credential.identity = identity)) w.passkeys.credentials =
        [(key,found)] := KeyedTables.rowsWhere_one there mine
      fun other row stored chosen => (only other row stored chosen).trans (only key found there mine).symm
    rw [one] at several
    simp at several

theorem stored_erased (stored : Stored w identity other) (apart : other ≠ credentialId) :
    Stored { w with passkeys := { w.passkeys with credentials := w.passkeys.credentials.erase credentialId } } identity other := by
  obtain ⟨found,there,mine⟩ := stored
  refine ⟨found,?_,mine⟩
  rw [Map.find_erase,if_neg fun same => apart same.symm]
  exact there

theorem stored_apart (stored : Stored w other key) (there : w.passkeys.credentials[credentialId]? = some found)
    (differ : other ≠ found.identity) : key ≠ credentialId := by
  rintro rfl
  obtain ⟨credential,same,mine⟩ := stored
  rw [there] at same
  cases same
  exact differ mine.symm

theorem removeIfAnother_kept (kept : Kept w) (identity : IdentityId) (credentialId : Text) :
    Kept { w with passkeys := (w.passkeys.removeCredentialIfAnotherExists identity credentialId).2 } := by
  apply kept.fewer
  · exact fun _ _ owned => owned
  · intro other key stored
    unfold removeCredentialIfAnotherExists
    split
    · exact ⟨key,stored⟩
    · rename_i found there
      split
      · exact ⟨key,stored⟩
      · rename_i mine
        split
        · exact ⟨key,stored⟩
        · rename_i several
          by_cases same : other = identity
          · subst same
            obtain ⟨further,apart,there'⟩ := another credentialId (Nat.lt_of_not_le several)
            exact ⟨further,stored_erased there' apart⟩
          · have differ : other ≠ found.identity := by
              rw [not_not.mp mine]
              exact same
            exact ⟨key,stored_erased stored (stored_apart stored there differ)⟩

theorem remove_kept (kept : Kept w) (spared : Spared w identity credentialId) :
    Kept { w with passkeys := (w.passkeys.removeCredential identity credentialId).2 } := by
  constructor
  · exact kept.own
  · intro key owner owned mine
    have named := kept.own key owner owned mine
    obtain ⟨other,stored⟩ := kept.backed key owner owned mine
    unfold removeCredential
    split
    · exact ⟨other,stored⟩
    · rename_i found there
      split
      · exact ⟨other,stored⟩
      · rename_i own
        by_cases same : owner = identity
        · subst same
          rcases spared with free | ⟨further,apart,there'⟩
          · rw [named,free] at owned
            cases owned
          · exact ⟨further,stored_erased there' apart⟩
        · have differ : owner ≠ found.identity := by
            rw [not_not.mp own]
            exact same
          exact ⟨other,stored_erased stored (stored_apart stored there differ)⟩

theorem attach_kept (kept : Kept w) (external : link.external = passkeyRef link.owner)
    (stored : w.auth.directory.owners[keyOf link.owner]? = none → ∃ credentialId,Stored w link.owner credentialId) :
    Kept { w with auth := { w.auth with directory := (w.auth.directory.attach link).2 } } := by
  unfold Directory.attach
  split
  · exact kept
  · split
    · split <;> exact kept
    · rename_i free
      rw [external] at free ⊢
      have given : ∀ (key : ExternalKey) (owner : IdentityId),
          (w.auth.directory.owners.insert (keyOf link.owner) link.owner)[key]? = some owner →
          key = keyOf owner ∧ owner = link.owner ∨ w.auth.directory.owners[key]? = some owner := by
        intro key owner owned
        rcases Map.insert_cases owned with ⟨same,rfl⟩ | before
        · exact .inl ⟨same.symm,rfl⟩
        · exact .inr before
      constructor
      · intro key owner owned mine
        rcases given key owner owned with ⟨named,-⟩ | before
        · exact named
        · exact kept.own key owner before mine
      · intro key owner owned mine
        rcases given key owner owned with ⟨-,rfl⟩ | before
        · exact stored free
        · exact kept.backed key owner before mine

theorem quiet_kept (sha256 : Text → Result Sha256Digest) (kept : Kept w) (still : quiet op = true) :
    Kept (exec sha256 op w).2 := kept.elsewhere (quiet_elsewhere sha256 still w)

theorem permitted_kept (sha256 : Text → Result Sha256Digest) (kept : Kept h.now) (asked : protocol.asks held op)
    (permitted : StillHolds held op h) : Kept (exec sha256 op h.now).2 := by
  cases held with
  | plain =>
    rcases asked with still | ⟨external,owner,providers,rfl⟩
    · exact quiet_kept sha256 kept still
    · exact detach_kept kept external owner providers
  | completing identity => exact quiet_kept sha256 kept asked
  | connected =>
    rcases asked with rfl | ⟨credential,rfl⟩
    · exact quiet_kept sha256 kept rfl
    · exact add_kept kept credential
  | unowned identity =>
    rcases asked with rfl | ⟨credential,rfl,-⟩
    · exact quiet_kept sha256 kept rfl
    · exact add_kept kept credential
  | awaiting identity credentialId =>
    rcases asked with rfl | ⟨link,rfl,rfl,external⟩ | rfl
    · exact quiet_kept sha256 kept rfl
    · exact attach_kept kept external permitted
    · exact remove_kept kept permitted
  | removing identity credentialId =>
    cases asked
    exact removeIfAnother_kept kept identity credentialId
  | refused identity credentialId =>
    cases asked
    exact quiet_kept sha256 kept rfl
  | bare identity credentialId =>
    cases asked
    exact remove_kept kept permitted
  | done => exact asked.elim

end

section
variable (p : PasskeyAuthenticationProvider) (a : Authenticator) (providerIds : List ProviderId)

theorem keeps_backed : Keeps (setting p a providerIds StillHolds) ends (fun h _ => Kept h.now) where
  follows := by
    rintro held call (⟨identity,ceremonyId,response,rfl,rfl⟩ | ⟨identity,credentialId,rfl,rfl⟩ |
      ⟨identity,external,rfl,rfl⟩)
    · exact completeRegistration_follows ceremonyId response
    · exact remove_follows
    · exact disconnect_follows providerIds external
  enters := fun h states held call kept _ => kept
  acts := by
    intro h states i held op kept _ asked permitted
    rw [History.push_now]
    exact permitted_kept p.sha256 kept asked permitted
  drifts := by
    intro h states after kept moved
    rw [History.push_now]
    exact kept.elsewhere moved

def returned : Call Unit → Bool
  | .call _ _ => false
  | _ => true

def AlwaysBacked (permits : Held → Op → History State → Prop) (w : State) : Prop :=
  ∀ crew : PasskeyCrew,Runs (setting p a providerIds permits) (.start w) crew →
    (∀ m ∈ crew.members,returned m.rest = true) → Backed crew.hist.now

theorem backed_while_found_holds {w : State} (kept : Kept w) : AlwaysBacked p a providerIds StillHolds w := by
  intro crew path _
  exact ((keeps_backed p a providerIds).start kept path).holds.backed

end

def demoProvider : PasskeyAuthenticationProvider where
  config := ⟨"example.org","https://example.org",[],300000⟩
  hmacSha256 _ _ := .ok 0
  sha256 _ := .ok 0
  parseJson _ := some (.object [("type",.string "webauthn.create"),
    ("challenge",.string (PasskeyProvider.toBase64Url (GatewayWorld.digestBytes 0))),("origin",.string "https://example.org")])
  serialize _ := []
  verifySignature _ _ _ _ := .ok ()

theorem lifetime_positive : (0 : Duration) < 600 := by decide

def demoAuthenticator : Authenticator where
  trustPolicy := ⟨∅,∅⟩
  maximumTransactionLifetime := 600
  lifecycleRepository := false
  organization := ⟨"org"⟩
  profileRepository := false
  sha256 _ := .ok 0
  positive := lifetime_positive

def demoKey : Text :=
  [0xA5,0x01,0x02,0x03,0x26,0x20,0x01] ++ [0x21,0x58,0x20] ++ List.replicate 32 0 ++ [0x22,0x58,0x20] ++ List.replicate 32 0

def demoData : Text :=
  List.replicate 32 0 ++ [0x45,0,0,0,0] ++ List.replicate 16 0 ++ [0,2] ++ Text.of "id" ++ demoKey

def demoAttestation : Text :=
  [0xA3,0x63] ++ Text.of "fmt" ++ [0x64] ++ Text.of "none" ++ [0x67] ++ Text.of "attStmt" ++ [0xA0,0x68]
    ++ Text.of "authData" ++ [0x58,0x86] ++ demoData

def demoResponse : RegistrationResponse := ⟨"aWQ","e30",PasskeyProvider.toBase64Url demoAttestation⟩

def demoWorld : State where
  passkeys := ⟨(∅ : Map ChallengeId RegistrationCeremony).insert ⟨"pkr"⟩ ⟨⟨"pkr"⟩,⟨"ann"⟩,300000⟩,∅⟩
  auth := { AuthenticationRuns.demoWorld with providers := fun _ => none }

theorem demoWorld_free (key : ExternalKey) : demoWorld.auth.directory.owners[key]? = none := by
  simp [demoWorld,AuthenticationRuns.demoWorld]

theorem demoWorld_kept : Kept demoWorld := by
  constructor
  · intro key owner owned
    rw [demoWorld_free] at owned
    cases owned
  · intro key owner owned
    rw [demoWorld_free] at owned
    cases owned

theorem backed_while_found_holds_begun : AlwaysBacked demoProvider demoAuthenticator [] StillHolds demoWorld :=
  backed_while_found_holds demoProvider demoAuthenticator [] demoWorld_kept

abbrev demoSetting (permits : Held → Op → History State → Prop) := setting demoProvider demoAuthenticator [] permits

def demoCompletion : Move (demoSetting fun _ _ _ => True) :=
  .enter (.completing ⟨"ann"⟩) (PasskeyService.completeRegistration demoProvider ⟨"ann"⟩ ⟨"pkr"⟩ demoResponse)
    (.inl ⟨_,_,_,rfl,rfl⟩)

def demoRemoval : Move (demoSetting fun _ _ _ => True) :=
  .enter (.removing ⟨"ann"⟩ "aWQ") (PasskeyService.remove ⟨"ann"⟩ "aWQ") (.inr (.inl ⟨_,_,rfl,rfl⟩))

def demoRace : List (Move (demoSetting fun _ _ _ => True)) :=
  demoCompletion :: demoRemoval :: List.replicate 6 (.act 0) ++ List.replicate 2 (.act 1) ++ List.replicate 5 (.act 0) ++
    [.act 1]

def drifted (crew : PasskeyCrew) : Bool :=
  crew.members.all (fun m => returned m.rest) &&
    decide (crew.hist.now.auth.directory.owners[keyOf ⟨"ann"⟩]? = some ⟨"ann"⟩) &&
    crew.hist.now.passkeys.credentials.isEmpty

-- The removal finds the account without an owner, the completion connects it, and the removal takes the credential.
theorem removal_overtaken : ¬AlwaysBacked demoProvider demoAuthenticator [] (fun _ _ _ => True) demoWorld := by
  intro backed
  have played : (play (fun _ _ _ => true) demoRace (.start demoWorld)).any drifted = true := by
    decide +kernel
  obtain ⟨crew,path,shown⟩ := CallProtocols.play_reaches (fun _ _ _ _ => trivial) played
  simp only [drifted,Bool.and_eq_true,decide_eq_true_eq,List.all_eq_true] at shown
  obtain ⟨⟨ended,owned⟩,bare⟩ := shown
  obtain ⟨credentialId,credential,stored,-⟩ := backed crew path ended _ _ owned rfl
  rw [Std.ExtTreeMap.isEmpty_iff.mp bare] at stored
  simp at stored

end OpenProof.PasskeyRaces
