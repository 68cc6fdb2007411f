import OpenProof.CallHistories
import OpenProof.SessionCalls

namespace OpenProof.SessionRuns
open CallTraces CallLogs CallHistories Foundation Sessions SessionIndex SessionCalls CallProtocols List
open Identities AuthenticationWorld AuthenticationService

inductive SessionCall where
  | issue (authentication : VerifiedAuthentication) (client : ClientContext)
  | issueReplacing (authentication : VerifiedAuthentication) (client : ClientContext) (previousToken : Option Text)
  | authenticate (token : Text)
  | rotate (token : Text)
  | revoke (id : SessionId)
  | revokeAll (identity : IdentityId)
  | revokeOwned (identity : IdentityId) (id : SessionId)
  | list (identity : IdentityId)
  | purgeExpired (now : Instant)

inductive SessionReply where
  | granted (grant : SessionGrant)
  | authenticated (session : Session)
  | revoked
  | counted (count : Nat)
  | listed (sessions : List Session)

def calling (s : SessionService) : SessionCall → Call SessionReply
  | .issue authentication client => (s.issue authentication client).bind fun grant => .ret (.granted grant)
  | .issueReplacing authentication client previousToken =>
    (s.issueReplacing authentication client previousToken).bind fun grant => .ret (.granted grant)
  | .authenticate token => (s.authenticate token).bind fun session => .ret (.authenticated session)
  | .rotate token => (s.rotate token).bind fun grant => .ret (.granted grant)
  | .revoke id => (SessionService.revoke id).bind fun _ => .ret .revoked
  | .revokeAll identity => (SessionService.revokeAll identity).bind fun count => .ret (.counted count)
  | .revokeOwned identity id => (SessionService.revokeOwned identity id).bind fun _ => .ret .revoked
  | .list identity => (SessionService.list identity).bind fun sessions => .ret (.listed sessions)
  | .purgeExpired now => (ask (.session (.purgeExpired now))).bind fun count => .ret (.counted count)

abbrev SessionEntry := Entry Op Op.Ret State
abbrev SessionFloor := Floor Op Op.Ret Error SessionReply State

def sessionStage : Stage Op Op.Ret State where
  exec := exec
  drift before after := before.clock ≤ after.clock ∧ after.repository = before.repository

def Serves (s : SessionService) (floor : SessionFloor) : Prop := ∀ m ∈ floor.members,∃ call,m.begun = calling s call

abbrev indexed (w : State) (digest : TokenDigest) : Option SessionId := w.repository.maps.tokens[digest]?
abbrev stored (w : State) (id : SessionId) : Option Session := w.repository.maps.sessions[id]?

def Does (P : Exchange SessionOp SessionOp.Ret → Prop) : Exchange Op Op.Ret → Prop
  | ⟨.session op,answer⟩ => P ⟨op,answer⟩
  | _ => False

def installed : Exchange Op Op.Ret → Option TokenDigest
  | ⟨.session (.add session),.ok ()⟩ => some session.tokenDigest
  | ⟨.session (.rotate _ _ replacement _),.ok ()⟩ => some replacement
  | _ => none

def Unrepeated (log : List SessionEntry) : Prop := (log.filterMap fun entry => installed entry.exchange).Nodup

section
variable {digest : TokenDigest} {id : SessionId} {session : Session} {exchange : Exchange Op Op.Ret}

theorem does_installed (does : Does (Installs digest id) exchange) : installed exchange = some digest := by
  obtain ⟨op,answer⟩ := exchange
  cases op with
  | now | random => cases does
  | session op =>
    rcases does with ⟨session,rfl,-,same⟩ | ⟨expected,now,same⟩
    · cases same
      rfl
    · cases same
      rfl

theorem world_installs (there : indexed (exec op w).2 digest = some id) :
    indexed w digest = some id ∨ Does (Installs digest id) ⟨op,(exec op w).1⟩ := by
  cases op with
  | now | random => exact .inl there
  | session op => exact exec_installs op w.repository.paired there

theorem world_session (there : stored (exec op w).2 id = some session) :
    (Does (Adds session) ⟨op,(exec op w).1⟩ ∧ session.id = id ∧ stored w id = none) ∨
    ∃ before,stored w id = some before ∧ before.Evolves session ∧
      (session.lastSeenAt = before.lastSeenAt ∧ (∀ now,¬Does (Uses id now) ⟨op,(exec op w).1⟩) ∨
        ∃ now,Does (Uses id now) ⟨op,(exec op w).1⟩ ∧ session.lastSeenAt = now ∧ before.state = .active ∧
          before.isExpiredAt now = false) := by
  cases op with
  | now | random => exact .inr ⟨session,there,.refl _,.inl ⟨rfl,fun _ does => does⟩⟩
  | session op => exact exec_session op w.repository.paired there

def Dead (digest : TokenDigest) (w : State) : Prop :=
  ∀ id session,indexed w digest = some id → stored w id = some session → session.state ≠ .active

theorem dead_kept (dead : Dead digest w) (uninstalled : installed ⟨op,(exec op w).1⟩ ≠ some digest) :
    Dead digest (exec op w).2 := by
  intro id session there after
  rcases world_installs there with before | installs
  · obtain ⟨held,known,-⟩ := w.repository.paired.stored before
    rcases world_session after with ⟨-,-,absent⟩ | ⟨earlier,found,evolves,-⟩
    · rw [stored,known] at absent
      cases absent
    · have ended := dead id earlier before found
      rwa [evolves.ended ended]
  · exact absurd (does_installed installs) uninstalled

theorem dead_still (moved : sessionStage.drift w w') (dead : Dead digest w) : Dead digest w' := by
  intro id session there known
  rw [indexed,moved.2] at there
  rw [stored,moved.2] at known
  exact dead id session there known

theorem dead_unused (dead : Dead digest w) :
    (⟨op,(exec op w).1⟩ : Exchange Op Op.Ret) ≠ ⟨.session (.use digest at_),.ok session⟩ := by
  intro used
  obtain ⟨rfl,answer⟩ := executed_as used
  obtain ⟨there,before,known,active,-⟩ := use_done w.repository.paired answer
  exact dead _ before there known active

theorem dead_unrotated (dead : Dead digest w) :
    (⟨op,(exec op w).1⟩ : Exchange Op Op.Ret) ≠ ⟨.session (.rotate id digest replacement at_),.ok ()⟩ := by
  intro rotated
  obtain ⟨rfl,answer⟩ := executed_as rotated
  obtain ⟨there,-,-,before,known,active,-⟩ := rotate_done w.repository.paired answer
  exact dead id before there known active

theorem rotated_dead
    (rotated : (⟨op,(exec op w).1⟩ : Exchange Op Op.Ret) = ⟨.session (.rotate id digest replacement at_),.ok ()⟩) :
    indexed w digest = some id ∧ Dead digest (exec op w).2 := by
  obtain ⟨rfl,answer⟩ := executed_as rotated
  obtain ⟨there,-,gone,-⟩ := rotate_done w.repository.paired answer
  refine ⟨there,fun other session again => ?_⟩
  rw [indexed] at again
  exact absurd (again.symm.trans gone) (Option.some_ne_none _)

theorem revoke_leaves (id : SessionId) (at_ : Instant) (w : State) :
    (∀ digest,indexed (exec (.session (.revoke id at_)) w).2 digest = indexed w digest) ∧
      ∀ session,stored (exec (.session (.revoke id at_)) w).2 id = some session → session.state ≠ .active := by
  change (∀ digest,(w.repository.maps.revoke id at_).2.tokens[digest]? = _) ∧
    ∀ session,(w.repository.maps.revoke id at_).2.sessions[id]? = some session → _
  rcases revoke_cases id at_ w.repository.maps with ⟨e,same,absent⟩ | ⟨before,-,same⟩
  · rw [same]
    refine ⟨fun digest => rfl,fun session there => ?_⟩
    rw [absent] at there
    cases there
  · rw [same]
    refine ⟨fun digest => rfl,fun session there => ?_⟩
    rw [Map.find_insert,if_pos rfl] at there
    cases there
    exact before.revoke_ends at_

def Owned (digest : TokenDigest) (id : SessionId) (w : State) : Prop := ∀ other,indexed w digest = some other → other = id

theorem owned_by (mine : indexed w digest = some id) : Owned digest id w :=
  fun _ there => Option.some.inj (there.symm.trans mine)

theorem revoked_dead (owned : Owned digest id w) : Dead digest (exec (.session (.revoke id at_)) w).2 := by
  obtain ⟨tokens,ended⟩ := revoke_leaves id at_ w
  intro other session there known
  rw [tokens] at there
  obtain rfl := owned other there
  exact ended session known

theorem revokedAll_dead (mine : indexed w digest = some id) (known : stored w id = some session) :
    Dead digest (exec (.session (.revokeAll session.identity at_)) w).2 := by
  obtain ⟨-,tokens,sessions⟩ := revokeAll_spec session.identity at_ w.repository.maps
  intro other later there after
  change (w.repository.maps.revokeAll session.identity at_).2.tokens[digest]? = some other at there
  change (w.repository.maps.revokeAll session.identity at_).2.sessions[other]? = some later at after
  rw [tokens] at there
  obtain rfl := Option.some.inj (mine.symm.trans there)
  rw [sessions,show w.repository.maps.sessions[id]? = some session from known] at after
  cases after
  unfold ending
  split
  · exact session.revoke_ends at_
  · rename_i spared
    exact fun active => spared ⟨rfl,active⟩

theorem refused_dead (refused : (exec (.session (.use digest at_)) w).1 = .error e) :
    Dead digest (exec (.session (.use digest at_)) w).2 := by
  intro id session there known
  change (w.repository.maps.use digest at_).1 = .error e at refused
  change (w.repository.maps.use digest at_).2.tokens[digest]? = some id at there
  change (w.repository.maps.use digest at_).2.sessions[id]? = some session at known
  rcases use_cases w.repository.paired digest at_ with ⟨absent,same⟩ | ⟨owner,before,own,held,mine,same⟩
  · rw [same,absent] at there
    cases there
  · rw [same] at refused there known
    rw [own] at there
    cases there
    rw [Map.find_insert,if_pos rfl] at known
    cases known
    rcases before.use_cases digest at_ with ⟨ended,used⟩ | ⟨-,-,used⟩ | ⟨-,other,-⟩ | ⟨-,-,-,used⟩
    · rw [used]
      exact ended
    · rw [used]
      exact nofun
    · exact absurd mine other
    · rw [used] at refused
      cases refused

theorem late_dead (mine : indexed w digest = some id)
    (late : (exec (.session (.rotate id expected replacement at_)) w).1 = .error Session.deadlinePassed) :
    Dead digest (exec (.session (.rotate id expected replacement at_)) w).2 := by
  intro other session there known
  change (w.repository.maps.rotate id expected replacement at_).1 = _ at late
  change (w.repository.maps.rotate id expected replacement at_).2.tokens[digest]? = some other at there
  change (w.repository.maps.rotate id expected replacement at_).2.sessions[other]? = some session at known
  rcases rotate_cases id expected replacement at_ w.repository.maps with
    ⟨e,apart,same⟩ | ⟨before,held,-,⟨e,refused,same⟩ | ⟨-,-,-,same⟩⟩
  · rw [same] at late
    exact absurd (Except.error.inj late) apart
  · rw [same] at late there known
    obtain rfl := Except.error.inj late
    obtain rfl := Option.some.inj (mine.symm.trans there)
    rw [Map.find_insert,if_pos rfl] at known
    cases known
    exact used_late refused
  · rw [same] at late
    cases late

theorem seen_dead (late : (⟨op,(exec op w).1⟩ : Exchange Op Op.Ret) =
    ⟨.session (.use digest at_),.error Session.deadlinePassed⟩) : (∃ id,indexed w digest = some id) ∧
      Dead digest (exec op w).2 := by
  obtain ⟨rfl,answer⟩ := executed_as late
  refine ⟨?_,refused_dead answer⟩
  change (w.repository.maps.use digest at_).1 = _ at answer
  rcases use_cases w.repository.paired digest at_ with ⟨-,same⟩ | ⟨owner,-,own,-⟩
  · rw [same] at answer
    have apart : unknownSession "Session token is unknown." ≠ Session.deadlinePassed := by decide
    exact absurd (Except.error.inj answer) apart
  · exact ⟨owner,own⟩

inductive Ends (digest : TokenDigest) (entry : SessionEntry) : Prop where
  | rotated (id : SessionId) (replacement : TokenDigest) (now : Instant)
      (same : entry.exchange = ⟨.session (.rotate id digest replacement now),.ok ()⟩)
  | revoked (id : SessionId) (now : Instant) (mine : indexed entry.found digest = some id)
      (same : entry.exchange = ⟨.session (.revoke id now),.ok ()⟩)
  | revokedAll (id : SessionId) (session : Session) (now : Instant) (count : Nat)
      (mine : indexed entry.found digest = some id) (known : stored entry.found id = some session)
      (same : entry.exchange = ⟨.session (.revokeAll session.identity now),.ok count⟩)
  | used (now : Instant) (same : entry.exchange = ⟨.session (.use digest now),.error Session.deadlinePassed⟩)
  | late (id : SessionId) (expected replacement : TokenDigest) (now : Instant) (mine : indexed entry.found digest = some id)
      (same : entry.exchange = ⟨.session (.rotate id expected replacement now),.error Session.deadlinePassed⟩)

theorem ends_dead {entry : SessionEntry} (ends : Ends digest entry)
    (answered : (⟨entry.exchange.1,(exec entry.exchange.1 entry.found).1⟩ : Exchange Op Op.Ret) = entry.exchange) :
    (∃ id,indexed entry.found digest = some id) ∧ Dead digest (exec entry.exchange.1 entry.found).2 := by
  cases ends with
  | rotated id replacement now same =>
    obtain ⟨there,dead⟩ := rotated_dead (answered.trans same)
    exact ⟨⟨id,there⟩,dead⟩
  | revoked id now mine same =>
    refine ⟨⟨id,mine⟩,?_⟩
    rw [same]
    exact revoked_dead (owned_by mine)
  | revokedAll id session now count mine known same =>
    refine ⟨⟨id,mine⟩,?_⟩
    rw [same]
    exact revokedAll_dead mine known
  | used now same => exact seen_dead (answered.trans same)
  | late id expected replacement now mine same =>
    refine ⟨⟨id,mine⟩,?_⟩
    obtain ⟨op,answer⟩ := executed_as (answered.trans same)
    rw [same]
    exact late_dead mine answer

end

section
variable {initial : State} {floor : SessionFloor} {digest : TokenDigest} {first rest between : List SessionEntry}
  {entry later ending : SessionEntry}

theorem answered (played : Plays sessionStage initial floor) (inside : entry ∈ floor.log) :
    (⟨entry.exchange.1,(exec entry.exchange.1 entry.found).1⟩ : Exchange Op Op.Ret) = entry.exchange :=
  Plays.exchanged played entry inside

theorem installs_stocked : Stocked (X:=TokenDigest) sessionStage (fun exchange digest => installed exchange = some digest)
    fun w digest => ∃ id,indexed w digest = some id where
  brought := by
    rintro op w digest ⟨id,there⟩
    rcases world_installs there with before | installs
    · exact .inl ⟨id,before⟩
    · exact .inr (does_installed installs)
  still := by
    rintro w w' digest moved ⟨id,there⟩
    refine ⟨id,?_⟩
    rwa [indexed,moved.2] at there

theorem unrepeated_after (unrepeated : Unrepeated floor.log) (split : floor.log = first ++ rest)
    (before : ∃ entry ∈ first,installed entry.exchange = some digest) : ∀ later ∈ rest,installed later.exchange ≠ some digest := by
  intro later inside again
  obtain ⟨entry,member,once⟩ := before
  rw [Unrepeated,split,filterMap_append,nodup_append] at unrepeated
  exact unrepeated.2.2 digest (mem_filterMap.mpr ⟨entry,member,once⟩) digest (mem_filterMap.mpr ⟨later,inside,again⟩) rfl

theorem found_once (fresh : initial.repository.maps = .empty) (played : Plays sessionStage initial floor)
    (unrepeated : Unrepeated floor.log) (split : floor.log = first ++ entry :: rest)
    (there : ∃ id,indexed entry.found digest = some id) : ∀ later ∈ entry :: rest,installed later.exchange ≠ some digest := by
  rcases installs_stocked.before played first entry rest split there with ⟨id,impossible⟩ | before
  · simp [indexed,fresh,InMemorySessionRepository.empty] at impossible
  · exact unrepeated_after unrepeated split before

theorem dead_until (played : Plays sessionStage initial floor) (split : floor.log = first ++ entry :: (between ++ later :: rest))
    (dead : Dead digest (exec entry.exchange.1 entry.found).2)
    (uninstalled : ∀ middle ∈ between,installed middle.exchange ≠ some digest) : Dead digest later.found := by
  refine kept_until played (fun w w' moved => dead_still moved) split dead ?_
  intro middle inside holds
  apply dead_kept holds
  rw [answered played (show middle ∈ floor.log by simp [split,inside])]
  exact uninstalled middle inside

theorem never_again (fresh : initial.repository.maps = .empty) (played : Plays sessionStage initial floor)
    (unrepeated : Unrepeated floor.log) (split : floor.log = first ++ ending :: rest) (ends : Ends digest ending) :
    ∀ later ∈ rest,Dead digest later.found := by
  obtain ⟨there,dead⟩ := ends_dead ends (answered played (show ending ∈ floor.log by simp [split]))
  intro later inside
  obtain ⟨between,after,rfl⟩ := append_of_mem inside
  refine dead_until played split dead fun middle member => ?_
  exact found_once fresh played unrepeated split there middle (by simp [member])

theorem authenticate_yields (s : SessionService) (token : Text) : Yields (s.authenticate token) fun trace session =>
    ∃ digest now,s.digest token = .ok digest ∧ ⟨.session (.use digest now),.ok session⟩ ∈ trace := by
  refine .check fun digest hashed => .ask fun now => .ask fun answer => .checked ?_
  rintro session rfl
  exact ⟨digest,now,hashed,by simp⟩

theorem rotate_yields (s : SessionService) (token : Text) : Yields (s.rotate token) fun trace _ =>
    ∃ digest id replacement now,s.digest token = .ok digest ∧
      ⟨.session (.rotate id digest replacement now),.ok ()⟩ ∈ trace := by
  refine .check fun digest hashed => .ask fun at_ => .ask fun answer => .check ?_
  rintro current rfl
  refine .bind .any fun done replacement _ => .check fun fingerprint _ => .ask fun later => .ask fun answer => .check ?_
  rintro ⟨⟩ rfl
  exact .ret ⟨digest,current.id,fingerprint,later,hashed,by simp⟩

theorem authenticated_by {s : SessionService} {session : Session} (played : Plays sessionStage initial floor)
    (finished : floor.members[i]? = some ⟨calling s (.authenticate token),.ret (.authenticated session)⟩) :
    ∃ digest now,s.digest token = .ok digest ∧
      ∃ using_ ∈ floor.log,using_.caller = i ∧ using_.exchange = ⟨.session (.use digest now),.ok session⟩ := by
  have yields : Yields (calling s (.authenticate token)) fun trace reply => ∀ session,reply = .authenticated session →
      ∃ digest now,s.digest token = .ok digest ∧ ⟨.session (.use digest now),.ok session⟩ ∈ trace := by
    refine .bind (authenticate_yields s token) ?_
    rintro done session ⟨digest,now,hashed,used⟩
    apply Yields.ret
    intro other same
    cases same
    exact ⟨digest,now,hashed,by simpa using used⟩
  obtain ⟨digest,now,hashed,used⟩ := yields _ _ (played.returned finished) session rfl
  exact ⟨digest,now,hashed,mem_own.mp used⟩

theorem rotated_by {s : SessionService} (played : Plays sessionStage initial floor)
    (finished : floor.members[i]? = some ⟨calling s (.rotate token),.ret reply⟩) :
    ∃ digest id replacement now,s.digest token = .ok digest ∧ ∃ rotating ∈ floor.log,rotating.caller = i ∧
        rotating.exchange = ⟨.session (.rotate id digest replacement now),.ok ()⟩ := by
  have yields : Yields (calling s (.rotate token)) fun trace _ => ∃ digest id replacement now,s.digest token = .ok digest ∧
      ⟨.session (.rotate id digest replacement now),.ok ()⟩ ∈ trace := by
    refine .bind (rotate_yields s token) ?_
    rintro done grant ⟨digest,id,replacement,now,hashed,rotated⟩
    exact .ret ⟨digest,id,replacement,now,hashed,by simpa using rotated⟩
  obtain ⟨digest,id,replacement,now,hashed,rotated⟩ := yields _ _ (played.returned finished)
  exact ⟨digest,id,replacement,now,hashed,mem_own.mp rotated⟩

theorem rotated_once (fresh : initial.repository.maps = .empty) (played : Plays sessionStage initial floor)
    (unrepeated : Unrepeated floor.log) {id id' : SessionId} {now now' : Instant} (first_ : one ∈ floor.log)
    (second : two ∈ floor.log) (rotated : one.exchange = ⟨.session (.rotate id digest replacement now),.ok ()⟩)
    (rotated' : two.exchange = ⟨.session (.rotate id' digest replacement' now'),.ok ()⟩) : one = two := by
  have never : ∀ {earlier later : SessionEntry} {first rest : List SessionEntry} {id id' : SessionId}
      {replacement replacement' : TokenDigest} {now now' : Instant},floor.log = first ++ earlier :: rest → later ∈ rest →
        earlier.exchange = ⟨.session (.rotate id digest replacement now),.ok ()⟩ →
          later.exchange = ⟨.session (.rotate id' digest replacement' now'),.ok ()⟩ → False := by
    intro earlier later first rest id id' replacement replacement' now now' split inside here there
    have dead := never_again fresh played unrepeated split (.rotated id replacement now here) later inside
    exact dead_unrotated dead ((answered played (show later ∈ floor.log by simp [split,inside])).trans there)
  obtain ⟨before,after,split⟩ := append_of_mem first_
  obtain ⟨before',after',split'⟩ := append_of_mem second
  rcases split_order (split.symm.trans split') with inside | same | inside
  · exact (never split inside rotated rotated').elim
  · exact same.symm
  · exact (never split' inside rotated' rotated).elim

end

structure Created (s : SessionService) (session : Session) : Prop where
  active : session.state = .active
  seen : session.lastSeenAt = session.issuedAt
  absolute : session.absoluteExpiresAt = session.issuedAt+s.policy.absoluteLifetime
  idle : session.idleTimeout = s.policy.idleTimeout

def Asks (s : SessionService) (past : List (Exchange Op Op.Ret)) : Op → Prop
  | .session (.add session) => Created s session ∧ ⟨.now,session.issuedAt⟩ ∈ past
  | .session (.use _ now) => ⟨.now,now⟩ ∈ past
  | .session (.rotate _ _ _ now) => ⟨.now,now⟩ ∈ past
  | _ => True

section
variable {s : SessionService}

abbrev Going (s : SessionService) (past : List (Exchange Op Op.Ret)) {α : Type} (p : Call α) : Prop :=
  Follows (remembering (Asks s)) (fun _ _ => True) past p

theorem randomToken_going (bytes : Nat) : Going s past (randomToken bytes) :=
  .ask trivial fun _ => .checked trivial

theorem issue_going (authentication : VerifiedAuthentication) (client : ClientContext) :
    Going s past (s.issue authentication client) := by
  refine .bind (randomToken_going 32) (fun past id _ => ?_) fun _ _ _ => trivial
  refine .bind (randomToken_going 32) (fun past token _ => ?_) fun _ _ _ => trivial
  refine .check (fun fingerprint _ => ?_) fun _ _ => trivial
  refine .ask trivial fun now => ?_
  refine .check (fun session created => ?_) fun _ _ => trivial
  refine .ask ?_ fun stored => .check (fun _ _ => trivial) fun _ _ => trivial
  unfold Session.create at created
  split_ifs at created
  cases created
  exact ⟨⟨rfl,rfl,rfl,rfl⟩,by simp⟩

theorem authenticate_going (token : Text) : Going s past (s.authenticate token) := by
  refine .check (fun digest _ => ?_) fun _ _ => trivial
  refine .ask trivial fun now => ?_
  refine .ask ?_ fun answer => .checked trivial
  simp [remembering,Asks]

theorem rotate_going (token : Text) : Going s past (s.rotate token) := by
  refine .check (fun digest _ => ?_) fun _ _ => trivial
  refine .ask trivial fun now => ?_
  refine .ask (by simp [remembering,Asks]) fun answer => ?_
  refine .check (fun current _ => ?_) fun _ _ => trivial
  refine .bind (randomToken_going 32) (fun past replacement _ => ?_) fun _ _ _ => trivial
  refine .check (fun fingerprint _ => ?_) fun _ _ => trivial
  refine .ask trivial fun later => ?_
  refine .ask (by simp [remembering,Asks]) fun rotated => ?_
  exact .check (fun _ _ => trivial) fun _ _ => trivial

theorem revoke_going (id : SessionId) : Going s past (SessionService.revoke id) :=
  .ask trivial fun _ => .ask trivial fun _ => .checked trivial

theorem revokeOwned_going (identity : IdentityId) (id : SessionId) : Going s past (SessionService.revokeOwned identity id) := by
  refine .ask trivial fun found => ?_
  cases found with
  | none => trivial
  | some session =>
    dsimp only
    split
    · trivial
    · exact revoke_going id

theorem previousId_going (previousToken : Option Text) : Going s past (s.previousId previousToken) := by
  unfold SessionService.previousId
  cases previousToken with
  | none => trivial
  | some token =>
    dsimp only
    split
    · trivial
    · refine .bind (.attempt (authenticate_going token)) (fun past existing _ => ?_) fun _ _ _ => trivial
      cases existing <;> trivial

theorem issueReplacing_going (authentication : VerifiedAuthentication) (client : ClientContext)
    (previousToken : Option Text) : Going s past (s.issueReplacing authentication client previousToken) := by
  refine .bind (previousId_going previousToken) (fun past previous _ => ?_) fun _ _ _ => trivial
  refine .bind (issue_going authentication client) (fun past created _ => ?_) fun _ _ _ => trivial
  cases previous with
  | none => trivial
  | some id =>
    dsimp only
    split
    · trivial
    · refine .bind (.attempt (revoke_going id)) (fun past revoked _ => ?_) fun _ _ _ => trivial
      cases revoked with
      | ok done => trivial
      | error e =>
        exact .bind (.attempt (revoke_going created.id)) (fun _ _ _ => trivial) fun _ _ _ => trivial

theorem revokeAll_going (identity : IdentityId) : Going s past (SessionService.revokeAll identity) :=
  .ask trivial fun _ => .ask trivial fun _ => .checked trivial

theorem list_going (identity : IdentityId) : Going s past (SessionService.list identity) :=
  .ask trivial fun _ => .ask trivial fun _ => trivial

theorem calling_going (call : SessionCall) : Going s [] (calling s call) := by
  cases call with
  | issue authentication client => exact .bind (issue_going authentication client) (fun _ _ _ => trivial) fun _ _ _ => trivial
  | issueReplacing authentication client previousToken =>
    exact .bind (issueReplacing_going authentication client previousToken) (fun _ _ _ => trivial) fun _ _ _ => trivial
  | authenticate token => exact .bind (authenticate_going token) (fun _ _ _ => trivial) fun _ _ _ => trivial
  | rotate token => exact .bind (rotate_going token) (fun _ _ _ => trivial) fun _ _ _ => trivial
  | revoke id => exact .bind (revoke_going id) (fun _ _ _ => trivial) fun _ _ _ => trivial
  | revokeAll identity => exact .bind (revokeAll_going identity) (fun _ _ _ => trivial) fun _ _ _ => trivial
  | revokeOwned identity id => exact .bind (revokeOwned_going identity id) (fun _ _ _ => trivial) fun _ _ _ => trivial
  | list identity => exact .bind (list_going identity) (fun _ _ _ => trivial) fun _ _ _ => trivial
  | purgeExpired now => exact .ask trivial fun _ => trivial

end

def Seen (id : SessionId) (at_ : Instant) (exchange : Exchange Op Op.Ret) : Prop :=
  Does (Uses id at_) exchange ∨ ∃ session,Does (Adds session) exchange ∧ session.id = id ∧ session.issuedAt = at_

def LastSeen (id : SessionId) (at_ : Instant) (log : List SessionEntry) : Prop :=
  Latest (Seen id at_) (fun exchange => ∃ time,Seen id time exchange) log

def Origin (id : SessionId) (origin : Session) (log : List SessionEntry) : Prop :=
  Latest (fun exchange => Does (Adds origin) exchange ∧ origin.id = id)
    (fun exchange => ∃ other,Does (Adds other) exchange ∧ other.id = id) log

structure InTime (s : SessionService) (first : List SessionEntry) (using_ : SessionEntry) (id : SessionId) (now : Instant) :
    Prop where
  read : ⟨.now,now⟩ ∈ own using_.caller first
  passed : now ≤ using_.found.clock
  absolute : ∃ origin,Origin id origin first ∧ now < origin.issuedAt+s.policy.absoluteLifetime
  idle : ∃ last,LastSeen id last first ∧ now < last+s.policy.idleTimeout

section
variable {s : SessionService} {initial : State} {floor : SessionFloor} {first rest : List SessionEntry}
  {using_ : SessionEntry} {id : SessionId} {session : Session} {now : Instant}

theorem adds_new (adds : Does (Adds session) ⟨op,(exec op w).1⟩) : stored w session.id = none := by
  cases op with
  | now | random => cases adds
  | session op =>
    obtain ⟨rfl,answer⟩ := executed_as (show (⟨op,(op.exec w.repository.maps).1⟩ : Exchange SessionOp SessionOp.Ret) =
      ⟨.add session,.ok ()⟩ from adds)
    rcases add_cases session w.repository.maps with ⟨e,same⟩ | ⟨new,-,-⟩
    · have refused : (w.repository.maps.add session).1 = .ok () := answer
      rw [same] at refused
      cases refused
    · exact new

theorem uses_active (uses : Does (Uses id now) ⟨op,(exec op w).1⟩) :
    ∃ before,stored w id = some before ∧ before.state = .active ∧ before.isExpiredAt now = false := by
  cases op with
  | now | random => cases uses
  | session op => exact exec_uses w.repository.paired uses

theorem asked (serves : Serves s floor) (played : Plays sessionStage initial floor)
    (split : floor.log = first ++ using_ :: rest) : Asks s (own using_.caller first) using_.exchange.1 := by
  have entered := played.accounted.entered using_ (by simp [split])
  obtain ⟨call,same⟩ := serves _ (getElem_mem entered)
  have going : Going s [] floor.members[using_.caller].begun := by
    rw [same]
    exact calling_going call
  exact asked_then played split (getElem?_eq_getElem entered) going

theorem adds_created (serves : Serves s floor) (played : Plays sessionStage initial floor) :
    ∀ entry ∈ floor.log,∀ session,Does (Adds session) entry.exchange → Created s session := by
  intro entry inside session adds
  obtain ⟨first,rest,split⟩ := append_of_mem inside
  have asks := asked serves played split
  obtain ⟨caller,found,op,answer⟩ := entry
  cases op with
  | now | random => cases adds
  | session op =>
    have same : op = .add session := congrArg Sigma.fst adds
    subst same
    exact asks.1

theorem traced (fresh : initial.repository.maps = .empty) (played : Plays sessionStage initial floor)
    (created : ∀ entry ∈ floor.log,∀ session,Does (Adds session) entry.exchange → Created s session) :
    ∀ id session,stored floor.world id = some session → LastSeen id session.lastSeenAt floor.log ∧
      ∃ origin,Origin id origin floor.log ∧ Created s origin ∧ session.absoluteExpiresAt = origin.absoluteExpiresAt ∧
        session.idleTimeout = origin.idleTimeout := by
  induction played with
  | start =>
    intro id session there
    simp [stored,fresh,InMemorySessionRepository.empty] at there
  | @move middle next played moved ih =>
    cases moved with
    | enter p => exact ih created
    | drift moved =>
      intro id session there
      rw [stored,moved.2] at there
      exact ih created id session there
    | @act i p op next waiting =>
      intro id session there
      have before := ih fun entry inside => created entry (mem_append_left _ inside)
      rcases world_session there with ⟨adds,mine,-⟩ | ⟨earlier,known,evolves,seen⟩
      · have made := created _ (mem_append_right _ mem_cons_self) session adds
        exact ⟨.here _ (.inr ⟨session,adds,mine,made.seen.symm⟩),session,.here _ ⟨adds,mine⟩,made,rfl,rfl⟩
      · obtain ⟨last,origin,from_,made,absolute,idle⟩ := before id earlier known
        have unadded : ¬∃ other,Does (Adds other) ⟨op,(exec op middle.world).1⟩ ∧ other.id = id := by
          rintro ⟨other,adds,rfl⟩
          rw [adds_new adds] at known
          cases known
        refine ⟨?_,origin,from_.past unadded,made,evolves.absoluteExpiresAt.trans absolute,evolves.idleTimeout.trans idle⟩
        rcases seen with ⟨same,unseen⟩ | ⟨now,uses,same,-⟩
        · rw [same]
          refine last.past ?_
          rintro ⟨time,uses | ⟨other,adds,mine,-⟩⟩
          · exact unseen time uses
          · exact unadded ⟨other,adds,mine⟩
        · rw [same]
          exact .here _ (.inl uses)

theorem clock_kept (now : Instant) (op : Op) (w : State) (passed : now ≤ w.clock) : now ≤ (exec op w).2.clock := by
  cases op <;> exact passed

theorem uses_asked {past : List (Exchange Op Op.Ret)} {exchange : Exchange Op Op.Ret} (asks : Asks s past exchange.1)
    (uses : Does (Uses id now) exchange) : ⟨.now,now⟩ ∈ past := by
  obtain ⟨op,answer⟩ := exchange
  cases op with
  | now | random => cases uses
  | session op =>
    rcases uses with ⟨token,session,-,same⟩ | ⟨expected,replacement,same⟩
    · cases same
      exact asks
    · cases same
      exact asks

theorem read_passed (played : Plays sessionStage initial floor) (split : floor.log = first ++ using_ :: rest)
    (read : ⟨.now,now⟩ ∈ own using_.caller first) : now ≤ using_.found.clock := by
  obtain ⟨reading,inside,-,same⟩ := mem_own.mp read
  obtain ⟨before,between,rfl⟩ := append_of_mem inside
  have shape : floor.log = before ++ reading :: (between ++ using_ :: rest) := by simp [split]
  refine kept_until played (fun w w' moved passed => le_trans passed moved.1) shape ?_ fun entry _ passed =>
    clock_kept now _ _ passed
  obtain ⟨op,answer⟩ := executed_as ((Plays.exchanged played reading (by simp [shape])).trans same)
  refine clock_kept now _ _ (le_of_eq ?_)
  exact answer.symm

theorem used_in_time (fresh : initial.repository.maps = .empty) (serves : Serves s floor)
    (played : Plays sessionStage initial floor) (split : floor.log = first ++ using_ :: rest)
    (uses : Does (Uses id now) using_.exchange) : InTime s first using_ id now := by
  have read := uses_asked (asked serves played split) uses
  obtain ⟨earlier,reached,rfl,found,-⟩ := Plays.before played _ _ _ split
  rw [← Plays.exchanged played using_ (by simp [split])] at uses
  obtain ⟨session,known,-,timely⟩ := uses_active uses
  rw [← found] at known
  have created := adds_created serves played
  obtain ⟨last,origin,from_,made,absolute,idle⟩ := traced fresh reached
    (fun entry inside => created entry (by simp [split,inside])) id session known
  simp only [Session.isExpiredAt,Session.idleExpiresAt,ge_iff_le,Bool.or_eq_false_iff,decide_eq_false_iff_not,
    Int.not_le] at timely
  refine ⟨read,read_passed played split read,⟨origin,from_,?_⟩,session.lastSeenAt,last,?_⟩
  · rw [← made.absolute,← absolute]
    exact timely.1
  · rw [← made.idle,← idle]
    exact timely.2

theorem sessions_guarded (fresh : initial.repository.maps = .empty) (serves : Serves s floor)
    (played : Plays sessionStage initial floor) (unrepeated : Unrepeated floor.log) :
    (∀ (i j : Nat) token one two,floor.members[i]? = some ⟨calling s (.rotate token),.ret one⟩ →
      floor.members[j]? = some ⟨calling s (.rotate token),.ret two⟩ → i = j) ∧ (∀ (i : Nat) token session,
      floor.members[i]? = some ⟨calling s (.authenticate token),.ret (.authenticated session)⟩ →
        ∃ digest now,s.digest token = .ok digest ∧ ∃ using_ ∈ floor.log,using_.caller = i ∧
          using_.exchange = ⟨.session (.use digest now),.ok session⟩) ∧
    (∀ first ending rest digest,floor.log = first ++ ending :: rest → Ends digest ending →
      ∀ later ∈ rest,(∀ now session,later.exchange ≠ ⟨.session (.use digest now),.ok session⟩) ∧
        ∀ id replacement now,later.exchange ≠ ⟨.session (.rotate id digest replacement now),.ok ()⟩) ∧
    ∀ first using_ rest id now,floor.log = first ++ using_ :: rest → Does (Uses id now) using_.exchange →
      InTime s first using_ id now := by
  refine ⟨?_,?_,?_,?_⟩
  · intro i j token one two first second
    obtain ⟨digest,id,replacement,now,hashed,rotating,inside,rfl,rotated⟩ := rotated_by played first
    obtain ⟨digest',id',replacement',now',hashed',rotating',inside',rfl,rotated'⟩ := rotated_by played second
    obtain rfl := Except.ok.inj (hashed.symm.trans hashed')
    rw [rotated_once fresh played unrepeated inside inside' rotated rotated']
  · intro i token session finished
    exact authenticated_by played finished
  · intro first ending rest digest split ends later inside
    have dead := never_again fresh played unrepeated split ends later inside
    have same := answered played (show later ∈ floor.log by simp [split,inside])
    exact ⟨fun now session used => dead_unused dead (same.trans used),
      fun id replacement now rotated => dead_unrotated dead (same.trans rotated)⟩
  · intro first using_ rest id now split uses
    exact used_in_time fresh serves played split uses

end

theorem demo_long : 32 ≤ (List.replicate 32 (0 : UInt8)).length := by decide

theorem demo_positive : (0 : Duration) < 100 ∧ (0 : Duration) < 10 := by decide

theorem demo_within : (10 : Duration) ≤ 100 := by decide

def demoService : SessionService where
  key := ⟨List.replicate 32 0,demo_long⟩
  policy := ⟨100,10,demo_positive,demo_within⟩
  hmacSha256 _ message := .ok (BitVec.ofNat 256 (message.foldl (fun sum byte => 256*sum+byte.toNat) 0))

theorem demo_named : (⟨"mail"⟩ : Identities.ProviderId).empty = false ∧
    (⟨"ann"⟩ : ExternalIdentities.ExternalSubject).empty = false := ⟨rfl,rfl⟩

def demoAuthentication : VerifiedAuthentication :=
  ⟨⟨⟨"mail"⟩,⟨"ann"⟩,⟨∅⟩,.ial2,⟨Identities.AuthenticationFactor.knowledge,false⟩,∅,0,demo_named⟩,⟨"ann"⟩⟩

def demoWorld (entropy : List Text) : State := ⟨5,entropy.map .ok,⟨.empty,empty_paired⟩⟩

def demoIssue : Call SessionReply := calling demoService (.issue demoAuthentication ⟨[],[]⟩)

def demoRotate : Call SessionReply := calling demoService (.rotate "t1")

theorem returned {r : Except Error SessionReply} (good : r.toBool = true) : ∃ reply,r = .ok reply := by
  cases r with
  | error e => cases good
  | ok reply => exact ⟨reply,rfl⟩

-- Two rotate one token at once: both find it good, and the first to come back has it.
theorem sessions_guarded_race : ∃ (floor : SessionFloor) (reply : SessionReply),
    Plays sessionStage (demoWorld ["s1","t1","r1","r2"]) floor ∧ floor.members[1]? = some ⟨demoRotate,.ret reply⟩ ∧
      ∀ (j : Nat) other,floor.members[j]? = some ⟨demoRotate,.ret other⟩ → 1 = j := by
  let turns : List (Turn Op Op.Ret Error SessionReply State) := .enter demoIssue :: steps 0 4 ++
    .enter demoRotate :: .enter demoRotate :: steps 1 3 ++ steps 2 3 ++ steps 1 2 ++ steps 2 2
  have done : (takeTurns exec turns (⟨demoWorld ["s1","t1","r1","r2"],[],[]⟩ : SessionFloor)).any (fun floor =>
      (floor.members[1]?.bind fun m => ended m.rest).any Except.toBool &&
        decide (floor.log.filterMap fun entry => installed entry.exchange).Nodup) = true := by
    decide
  obtain ⟨floor,taken,holds⟩ := (Option.any_eq_true _ _).mp done
  obtain ⟨first,unrepeated⟩ := Bool.and_eq_true_iff.mp holds
  have played : Plays sessionStage (demoWorld ["s1","t1","r1","r2"]) floor :=
    Plays.start.turns (by simp [turns,steps,Turn.Allowed]) taken
  have serves : Serves demoService floor := by
    refine takeTurns_all (P:=fun p => ∃ call,p = calling demoService call) taken ?_
    rw [show turns.filterMap Turn.entered = [demoIssue,demoRotate,demoRotate] from rfl]
    simp only [List.forall_mem_cons,List.not_mem_nil,false_implies,implies_true,and_true]
    exact ⟨⟨_,rfl⟩,⟨_,rfl⟩,⟨_,rfl⟩⟩
  obtain ⟨r,member,good⟩ := takeTurns_ended taken rfl first
  obtain ⟨reply,rfl⟩ : ∃ reply,r = .ok reply := returned good
  have apart : (floor.log.filterMap fun entry => installed entry.exchange).Nodup := of_decide_eq_true unrepeated
  obtain ⟨once,-⟩ := sessions_guarded rfl serves played apart
  exact ⟨floor,reply,played,member,fun j other rival => once 1 j _ reply other member rival⟩

end OpenProof.SessionRuns
