import OpenProof.SessionRuns

namespace OpenProof.SessionReplacements
open CallTraces CallLogs CallHistories Foundation Sessions SessionIndex SessionCalls SessionRuns
open AuthenticationWorld AuthenticationService

def presented : Exchange Op Op.Ret → Option TokenDigest
  | ⟨.session (.use digest _),_⟩ => some digest
  | _ => none

def added : Exchange Op Op.Ret → Option Session
  | ⟨.session (.add session),.ok ()⟩ => some session
  | _ => none

structure Novel (log : List SessionEntry) : Prop where
  tokens : log.Pairwise fun earlier later => (installed later.exchange).isSome →
    installed earlier.exchange ≠ installed later.exchange ∧ presented earlier.exchange ≠ installed later.exchange
  ids : (log.filterMap fun entry => (added entry.exchange).map Session.id).Nodup

inductive Looked (s : SessionService) : Option Text → List (Exchange Op Op.Ret) → Option SessionId → Prop where
  | unpresented : Looked s none [] none
  | undigested (token : Text) (failed : ∀ digest,s.digest token ≠ .ok digest) : Looked s (some token) [] none
  | refused (token : Text) (digest : TokenDigest) (now : Instant) (e : Error) (hashed : s.digest token = .ok digest) :
      Looked s (some token) [⟨.now,now⟩,⟨.session (.use digest now),.error e⟩] none
  | found (token : Text) (digest : TokenDigest) (now : Instant) (session : Session) (hashed : s.digest token = .ok digest) :
      Looked s (some token) [⟨.now,now⟩,⟨.session (.use digest now),.ok session⟩] (some session.id)

inductive Issued (s : SessionService) : List (Exchange Op Op.Ret) → SessionGrant → Session → Prop where
  | issued (id token : Text) (now : Instant) (session : Session) (named : session.id = ⟨id⟩)
      (hashed : s.digest token = .ok session.tokenDigest) (created : Created s session) :
      Issued s [⟨.random 32,.ok id⟩,⟨.random 32,.ok token⟩,⟨.now,now⟩,⟨.session (.add session),.ok ()⟩] ⟨⟨id⟩,token⟩ session

inductive Replaces (s : SessionService) (previousToken : Option Text) : List (Exchange Op Op.Ret) →
    Except Error SessionGrant → Prop where
  | issued (look issue : List (Exchange Op Op.Ret)) (previous : Option SessionId) (grant : SessionGrant) (session : Session)
      (looked : Looked s previousToken look previous) (issued : Issued s issue grant session)
      (same : previous = none ∨ previous = some grant.id) : Replaces s previousToken (look ++ issue) (.ok grant)
  | replaced (look issue : List (Exchange Op Op.Ret)) (id : SessionId) (grant : SessionGrant) (session : Session)
      (now : Instant) (looked : Looked s previousToken look (some id)) (issued : Issued s issue grant session)
      (other : id ≠ grant.id) : Replaces s previousToken
        (look ++ (issue ++ [⟨.now,now⟩,⟨.session (.revoke id now),.ok ()⟩])) (.ok grant)
  | unissued (done : List (Exchange Op Op.Ret)) (e : Error) (none_ : done.filterMap added = []) :
      Replaces s previousToken done (.error e)
  | undone (look issue : List (Exchange Op Op.Ret)) (id : SessionId) (grant : SessionGrant) (session : Session)
      (now later : Instant) (e : Error) (answer : Result Unit) (looked : Looked s previousToken look (some id))
      (issued : Issued s issue grant session) : Replaces s previousToken
        (look ++ (issue ++ [⟨.now,now⟩,⟨.session (.revoke id now),.error e⟩,⟨.now,later⟩,
          ⟨.session (.revoke grant.id later),answer⟩])) (.error e)

section
variable {s : SessionService} {previousToken : Option Text} {grant : SessionGrant} {session : Session}

theorem Looked.unadded (looked : Looked s previousToken look previous) : look.filterMap added = [] := by
  cases looked <;> rfl

theorem Issued.added (issued : Issued s issue grant session) : issue.filterMap added = [session] := by
  cases issued
  rfl

theorem Issued.ends (issued : Issued s issue grant session) :
    (∃ draws,issue = draws ++ [⟨.session (.add session),.ok ()⟩]) ∧ session.id = grant.id ∧
      s.digest grant.token = .ok session.tokenDigest ∧ Created s session := by
  cases issued with
  | issued id token now _ named hashed created =>
    exact ⟨⟨[⟨.random 32,.ok id⟩,⟨.random 32,.ok token⟩,⟨.now,now⟩],rfl⟩,named,hashed,created⟩

theorem authenticate_leaves (token : Text) : Leaves (s.authenticate token) fun trace r =>
    (trace = [] ∧ (∃ e,r = .error e) ∧ ∀ digest,s.digest token ≠ .ok digest) ∨
    ∃ digest now,s.digest token = .ok digest ∧ trace = [⟨.now,now⟩,⟨.session (.use digest now),r⟩] := by
  refine .check (fun digest hashed => ?_) fun e failed => ?_
  · exact .ask fun now => .ask fun answer => .checked (.inr ⟨digest,now,hashed,rfl⟩)
  · refine .inl ⟨rfl,⟨e,rfl⟩,fun digest hashed => ?_⟩
    rw [failed] at hashed
    cases hashed

theorem previousId_leaves (previousToken : Option Text) : Leaves (s.previousId previousToken) fun trace r =>
    ∃ previous,r = .ok previous ∧ Looked s previousToken trace previous := by
  unfold SessionService.previousId
  cases previousToken with
  | none => exact .ret ⟨none,rfl,.unpresented⟩
  | some token =>
    dsimp only
    split
    · rename_i absent
      refine .ret ⟨none,rfl,.undigested token fun digest hashed => ?_⟩
      rw [SessionService.digest,if_pos absent] at hashed
      cases hashed
    · refine .bind (.attempt (authenticate_leaves token)) ?_ ?_
      · rintro done existing ⟨outcome,same,holds⟩
        cases same
        rcases holds with ⟨rfl,⟨e,rfl⟩,failed⟩ | ⟨digest,now,hashed,rfl⟩
        · exact .ret ⟨none,rfl,.undigested token failed⟩
        · cases existing with
          | ok session => exact .ret ⟨some session.id,rfl,.found token digest now session hashed⟩
          | error e => exact .ret ⟨none,rfl,.refused token digest now e hashed⟩
      · rintro done e ⟨outcome,impossible,-⟩
        cases impossible

theorem revoke_goes (id : SessionId) : Leaves (SessionService.revoke id) fun trace r =>
    ∃ now,trace = [⟨.now,now⟩,⟨.session (.revoke id now),r⟩] :=
  .ask fun now => .ask fun _ => .checked ⟨now,rfl⟩

theorem randomToken_leaves (bytes : Nat) : Leaves (randomToken bytes) fun trace r => trace = [⟨.random bytes,r⟩] :=
  .ask fun _ => .checked rfl

section
variable (authentication : VerifiedAuthentication)
include authentication

theorem issue_leaves (client : ClientContext) :
    Leaves (s.issue authentication client) fun trace r => (∀ grant,r = .ok grant → ∃ session,Issued s trace grant session) ∧
      ∀ e,r = .error e → trace.filterMap added = [] := by
  refine .bind (randomToken_leaves 32) ?_ ?_
  · rintro _ id rfl
    refine .bind (randomToken_leaves 32) ?_ ?_
    · rintro _ token rfl
      refine .check (fun fingerprint hashed => ?_) fun e failed => ⟨nofun,fun _ _ => rfl⟩
      refine .ask fun now => ?_
      refine .check (fun session created => ?_) fun e failed => ⟨nofun,fun _ _ => rfl⟩
      refine .ask fun stored => .check ?_ ?_
      · rintro ⟨⟩ rfl
        refine .ret ⟨?_,nofun⟩
        rintro grant same
        cases same
        unfold Session.create at created
        split_ifs at created
        cases created
        exact ⟨_,.issued id token now _ rfl hashed ⟨rfl,rfl,rfl,rfl⟩⟩
      · rintro e rfl
        exact ⟨nofun,fun _ _ => rfl⟩
    · rintro _ e rfl
      exact ⟨nofun,fun _ _ => rfl⟩
  · rintro _ e rfl
    exact ⟨nofun,fun _ _ => rfl⟩

theorem issueReplacing_leaves (client : ClientContext) (previousToken : Option Text) : Leaves (s.issueReplacing authentication client previousToken)
      (Replaces s previousToken) := by
  refine .bind (previousId_leaves previousToken) ?_ ?_
  · rintro look previous ⟨_,same,looked⟩
    cases same
    refine .bind (issue_leaves authentication client) ?_ ?_
    · rintro issue grant ⟨issued,-⟩
      obtain ⟨session,issued⟩ := issued grant rfl
      cases previous with
      | none =>
        refine .ret ?_
        simpa using Replaces.issued look issue none grant session looked issued (.inl rfl)
      | some id =>
        dsimp only
        split
        · rename_i same
          refine .ret ?_
          simpa using Replaces.issued look issue (some id) grant session looked issued (.inr (congrArg some same))
        · rename_i other
          refine .bind (.attempt (revoke_goes id)) ?_ ?_
          · rintro _ revoked ⟨_,same,now,rfl⟩
            cases same
            cases revoked with
            | ok done =>
              refine .ret ?_
              simpa using Replaces.replaced look issue id grant session now looked issued other
            | error e =>
              refine .bind (.attempt (revoke_goes grant.id)) ?_ ?_
              · rintro _ answer ⟨_,same,later,rfl⟩
                cases same
                refine .fail ?_
                simpa using Replaces.undone look issue id grant session now later e answer looked issued
              · rintro _ e ⟨_,impossible,-⟩
                cases impossible
          · rintro _ e ⟨_,impossible,-⟩
            cases impossible
    · rintro issue e ⟨-,none_⟩
      refine .unissued (look ++ issue) e ?_
      rw [List.filterMap_append,looked.unadded,none_ e rfl]
      rfl
  · rintro look e ⟨previous,impossible,-⟩
    cases impossible

theorem calling_leaves (client : ClientContext) (previousToken : Option Text) :
    Leaves (calling s (.issueReplacing authentication client previousToken)) fun trace r =>
      (∀ grant,r = .ok (.granted grant) → Replaces s previousToken trace (.ok grant)) ∧
        ∀ e,r = .error e → Replaces s previousToken trace (.error e) := by
  refine .bind (issueReplacing_leaves authentication client previousToken) ?_ ?_
  · intro done grant replaces
    refine .ret ⟨?_,nofun⟩
    intro other same
    cases same
    simpa using replaces
  · intro done e replaces
    refine ⟨nofun,?_⟩
    intro other same
    cases same
    exact replaces

end

end

section
variable {initial : State} {floor : SessionFloor} {digest : TokenDigest} {first rest between : List SessionEntry}
  {entry later : SessionEntry} {id : SessionId} {session : Session} {now : Instant}

theorem novel_after (novel : Novel floor.log) (split : floor.log = first ++ entry :: rest)
    (known : installed entry.exchange = some digest ∨ presented entry.exchange = some digest) :
    ∀ later ∈ rest,installed later.exchange ≠ some digest := by
  intro later inside again
  have pairs := novel.tokens
  rw [split] at pairs
  have apart := (List.pairwise_cons.mp (List.pairwise_append.mp pairs).2.1).1 later inside (by simp [again])
  rw [again] at apart
  rcases known with known | known
  · exact apart.1 known
  · exact apart.2 known

theorem dead_since (played : Plays sessionStage initial floor) (split : floor.log = first ++ entry :: rest)
    (dead : Dead digest (exec entry.exchange.1 entry.found).2)
    (uninstalled : ∀ later ∈ rest,installed later.exchange ≠ some digest) : Dead digest floor.world := by
  refine played.since (fun w w' moved => dead_still moved) first entry rest split dead ?_
  intro later inside holds
  apply dead_kept holds
  rw [answered played (show later ∈ floor.log by simp [split,inside])]
  exact uninstalled later inside

theorem owned_kept (owned : Owned digest id w) (uninstalled : installed ⟨op,(exec op w).1⟩ ≠ some digest) :
    Owned digest id (exec op w).2 := by
  intro other there
  rcases world_installs there with before | installs
  · exact owned other before
  · exact absurd (does_installed installs) uninstalled

theorem owned_until (played : Plays sessionStage initial floor)
    (split : floor.log = first ++ entry :: (between ++ later :: rest))
    (used : entry.exchange = ⟨.session (.use digest now),.ok session⟩)
    (uninstalled : ∀ middle ∈ between,installed middle.exchange ≠ some digest) : Owned digest session.id later.found := by
  have mine := answered played (show entry ∈ floor.log by simp [split])
  refine kept_until played (fun w w' moved owned other there => ?_) split ?_ ?_
  · rw [indexed,moved.2] at there
    exact owned other there
  · obtain ⟨op,answer⟩ := executed_as (mine.trans used)
    refine owned_kept (owned_by (use_done entry.found.repository.paired answer).1) ?_
    rw [mine,used]
    intro impossible
    cases impossible
  · intro middle inside holds
    refine owned_kept holds ?_
    rw [answered played (show middle ∈ floor.log by simp [split,inside])]
    exact uninstalled middle inside

theorem replaced_dead (owned : Owned digest session.id w)
    (adds : (⟨op,(exec op w).1⟩ : Exchange Op Op.Ret) = ⟨.session (.add session),.ok ()⟩)
    (other : session.tokenDigest ≠ digest) : Dead digest (exec op w).2 := by
  intro found later there known
  have new : stored w session.id = none := by
    have does : Does (Adds session) ⟨op,(exec op w).1⟩ := by
      rw [adds]
      rfl
    exact adds_new does
  rcases world_installs there with before | installs
  · obtain rfl := owned found before
    obtain ⟨held,impossible,-⟩ := w.repository.paired.stored before
    rw [stored,impossible] at new
    cases new
  · have mine := does_installed installs
    rw [adds] at mine
    exact absurd (Option.some.inj mine) other

variable {s : SessionService} {token : Text} {previousToken : Option Text} {grant : SessionGrant} {i : Nat}

theorem previous_dead (played : Plays sessionStage initial floor) (novel : Novel floor.log)
    (replaces : Replaces s (some token) (own i floor.log) (.ok grant)) (hashed : s.digest token = .ok digest) :
    Dead digest floor.world := by
  generalize goes : own i floor.log = trace at replaces
  cases replaces with
  | issued look issue previous _ session looked issued same =>
    cases looked with
    | undigested _ failed => exact absurd hashed (failed digest)
    | refused _ other now e known =>
      obtain rfl := Except.ok.inj (known.symm.trans hashed)
      have goes : own i floor.log = [⟨.now,now⟩] ++ ⟨.session (.use other now),.error e⟩ :: issue := goes
      obtain ⟨before,entry,after,split,-,refused,-⟩ := own_split goes
      obtain ⟨op,answer⟩ := executed_as ((answered played (show entry ∈ floor.log by simp [split])).trans refused)
      have dead : Dead other (exec entry.exchange.1 entry.found).2 := by
        rw [op]
        exact refused_dead answer
      exact dead_since played split dead (novel_after novel split (.inr (by rw [refused]; rfl)))
    | found _ other now previous known =>
      obtain rfl := Except.ok.inj (known.symm.trans hashed)
      have goes : own i floor.log = [⟨.now,now⟩] ++ ⟨.session (.use other now),.ok previous⟩ :: issue := goes
      obtain ⟨before,using_,after,split,-,used,-,rest⟩ := own_split goes
      have fresh := novel_after novel split (.inr (show presented using_.exchange = some other by rw [used]; rfl))
      obtain ⟨⟨draws,rfl⟩,named,-⟩ := issued.ends
      obtain ⟨between,adding,late,rfl,-,adds,-⟩ := own_split rest
      have owned := owned_until played split used fun middle inside => fresh middle (by simp [inside])
      have same : previous.id = session.id := by
        rcases same with impossible | same
        · cases impossible
        · exact (Option.some.inj same).trans named.symm
      rw [same] at owned
      have apart : session.tokenDigest ≠ other := by
        intro mine
        apply fresh adding (by simp)
        rw [adds,← mine]
        rfl
      have dead := replaced_dead owned ((answered played (show adding ∈ floor.log by simp [split])).trans adds) apart
      have shape : floor.log = (before ++ using_ :: between) ++ adding :: late := by simp [split]
      exact dead_since played shape dead fun later inside => fresh later (by simp [inside])
  | replaced look issue id _ session now looked issued other =>
    cases looked with
    | found _ used_ now' previous known =>
      obtain rfl := Except.ok.inj (known.symm.trans hashed)
      have goes : own i floor.log = [⟨.now,now'⟩] ++ ⟨.session (.use used_ now'),.ok previous⟩ ::
          ((issue ++ [⟨.now,now⟩]) ++ ⟨.session (.revoke previous.id now),.ok ()⟩ :: []) := by
        simpa using goes
      obtain ⟨before,using_,after,split,-,used,-,rest⟩ := own_split goes
      have fresh := novel_after novel split (.inr (show presented using_.exchange = some used_ by rw [used]; rfl))
      obtain ⟨between,revoking,late,rfl,-,revoked,-⟩ := own_split rest
      have owned := owned_until played split used fun middle inside => fresh middle (by simp [inside])
      have dead : Dead used_ (exec revoking.exchange.1 revoking.found).2 := by
        rw [revoked]
        exact revoked_dead owned
      have shape : floor.log = (before ++ using_ :: between) ++ revoking :: late := by simp [split]
      exact dead_since played shape dead fun later inside => fresh later (by simp [inside])

def Lively (id : SessionId) (w : State) : Prop := ∃ session,stored w id = some session ∧ session.state = .active

theorem lively_still (moved : sessionStage.drift w w') (lively : Lively id w) : Lively id w' := by
  obtain ⟨session,known,active⟩ := lively
  refine ⟨session,?_,active⟩
  rwa [stored,moved.2]

theorem lively_revoke (apart : other ≠ id) (lively : Lively id w) :
    Lively id (exec (.session (.revoke other now)) w).2 := by
  obtain ⟨session,known,active⟩ := lively
  refine ⟨session,?_,active⟩
  change (w.repository.maps.revoke other now).2.sessions[id]? = some session
  rcases revoke_cases other now w.repository.maps with ⟨e,same,-⟩ | ⟨before,-,same⟩
  · rw [same]
    exact known
  · rw [same,Map.find_insert,if_neg apart]
    exact known

theorem added_lively (adds : (⟨op,(exec op w).1⟩ : Exchange Op Op.Ret) = ⟨.session (.add session),.ok ()⟩)
    (active : session.state = .active) : Lively session.id (exec op w).2 := by
  obtain ⟨rfl,answer⟩ := executed_as adds
  change (w.repository.maps.add session).1 = .ok () at answer
  refine ⟨session,?_,active⟩
  change (w.repository.maps.add session).2.sessions[session.id]? = some session
  rcases add_cases session w.repository.maps with ⟨e,same⟩ | ⟨-,-,same⟩
  · rw [same] at answer
    cases answer
  · rw [same]
    simp

def Leaving (session : Session) (i : Nat) (floor : SessionFloor) : Prop :=
  ∃ first adding rest,floor.log = first ++ adding :: rest ∧ adding.caller = i ∧
    adding.exchange = ⟨.session (.add session),.ok ()⟩ ∧
      ((∀ entry ∈ rest,entry.caller ≠ i → Keeping sessionStage (Lively session.id) entry) → Lively session.id floor.world)

theorem leaving_of (played : Plays sessionStage initial floor)
    (goes : own i floor.log = early ++ ⟨.session (.add session),.ok ()⟩ :: tail) (active : session.state = .active)
    (quiet : ∀ w op,⟨op,(exec op w).1⟩ ∈ tail → Lively session.id w → Lively session.id (exec op w).2) :
    Leaving session i floor := by
  obtain ⟨first,adding,rest,split,mine,adds,-,further⟩ := own_split goes
  refine ⟨first,adding,rest,split,mine,adds,fun others => ?_⟩
  refine played.since (fun w w' moved => lively_still moved) first adding rest split ?_ ?_
  · exact added_lively ((answered played (show adding ∈ floor.log by simp [split])).trans adds) active
  · intro entry inside
    by_cases own_ : entry.caller = i
    · intro lively
      refine quiet entry.found entry.exchange.1 ?_ lively
      rw [answered played (show entry ∈ floor.log by simp [split,inside]),← further]
      exact mem_own.mpr ⟨entry,inside,own_,rfl⟩
    · exact others entry inside own_

theorem created_one (played : Plays sessionStage initial floor)
    (replaces : Replaces s previousToken (own i floor.log) (.ok grant)) :
    ∃ session,(own i floor.log).filterMap added = [session] ∧ session.id = grant.id ∧
      s.digest grant.token = .ok session.tokenDigest ∧ Created s session ∧ Leaving session i floor := by
  generalize goes : own i floor.log = trace at replaces
  cases replaces with
  | issued look issue previous _ session looked issued same =>
    have one : (look ++ issue).filterMap added = [session] := by
      rw [List.filterMap_append,looked.unadded,issued.added]
      rfl
    obtain ⟨⟨draws,rfl⟩,named,hashed,created⟩ := issued.ends
    have goes : own i floor.log = (look ++ draws) ++ ⟨.session (.add session),.ok ()⟩ :: [] := by simpa using goes
    refine ⟨session,one,named,hashed,created,leaving_of played goes created.active ?_⟩
    intro w op impossible
    cases impossible
  | replaced look issue id _ session now looked issued other =>
    have one : List.filterMap added (look ++ (issue ++ [⟨.now,now⟩,⟨.session (.revoke id now),.ok ()⟩])) = [session] := by
      rw [List.filterMap_append,List.filterMap_append,looked.unadded,issued.added]
      rfl
    obtain ⟨⟨draws,rfl⟩,named,hashed,created⟩ := issued.ends
    have goes : own i floor.log = (look ++ draws) ++ ⟨.session (.add session),.ok ()⟩ ::
        [⟨.now,now⟩,⟨.session (.revoke id now),.ok ()⟩] := by
      simpa using goes
    refine ⟨session,one,named,hashed,created,leaving_of played goes created.active ?_⟩
    intro w op inside lively
    rcases List.mem_cons.mp inside with looking | inside
    · obtain rfl : op = .now := congrArg Sigma.fst looking
      exact lively
    · obtain rfl : op = .session (.revoke id now) := congrArg Sigma.fst (List.mem_singleton.mp inside)
      rw [← named] at other
      exact lively_revoke other lively

def Gone (id : SessionId) (w : State) : Prop := ∀ session,stored w id = some session → session.state ≠ .active

theorem gone_kept (gone : Gone id w) (unadded : (added ⟨op,(exec op w).1⟩).map Session.id ≠ some id) :
    Gone id (exec op w).2 := by
  intro session there
  rcases world_session there with ⟨adds,rfl,-⟩ | ⟨before,known,evolves,-⟩
  · refine absurd ?_ unadded
    cases op with
    | now | random => cases adds
    | session op =>
      have same : (⟨.session op,(exec (.session op) w).1⟩ : Exchange Op Op.Ret) = ⟨.session (.add session),.ok ()⟩ := by
        obtain ⟨rfl,answer⟩ := executed_as (show (⟨op,(op.exec w.repository.maps).1⟩ : Exchange SessionOp SessionOp.Ret) =
          ⟨.add session,.ok ()⟩ from adds)
        exact congrArg (Sigma.mk _) answer
      rw [same]
      rfl
  · have ended := gone before known
    rwa [evolves.ended ended]

theorem created_gone (played : Plays sessionStage initial floor) (novel : Novel floor.log)
    (replaces : Replaces s previousToken (own i floor.log) (.error e))
    (put : session ∈ (own i floor.log).filterMap added) : Gone session.id floor.world := by
  generalize goes : own i floor.log = trace at replaces
  cases replaces with
  | unissued done _ none_ =>
    rw [goes,none_] at put
    cases put
  | undone look issue id grant made now later _ answer looked issued =>
    have one : (own i floor.log).filterMap added = [made] := by
      rw [goes,List.filterMap_append,List.filterMap_append,looked.unadded,issued.added]
      rfl
    rw [one,List.mem_singleton] at put
    subst put
    obtain ⟨⟨draws,rfl⟩,named,-⟩ := issued.ends
    have goes : own i floor.log = (look ++ draws ++ ⟨.session (.add session),.ok ()⟩ ::
        [⟨.now,now⟩,⟨.session (.revoke id now),.error e⟩,⟨.now,later⟩]) ++ ⟨.session (.revoke grant.id later),answer⟩ :: [] := by
      simpa using goes
    obtain ⟨before,revoking,after,split,-,revoked,done,-⟩ := own_split goes
    have gone : Gone session.id (exec revoking.exchange.1 revoking.found).2 := by
      rw [revoked,named]
      exact (revoke_leaves grant.id later revoking.found).2
    have put : ∃ adding ∈ before,(added adding.exchange).map Session.id = some session.id := by
      obtain ⟨adding,inside,-,adds⟩ := mem_own.mp (show ⟨.session (.add session),.ok ()⟩ ∈ own i before by simp [done])
      exact ⟨adding,inside,by rw [adds]; rfl⟩
    refine played.since (fun w w' moved gone session there => ?_) before revoking after split gone ?_
    · rw [stored,moved.2] at there
      exact gone session there
    · intro entry inside gone
      apply gone_kept gone
      rw [answered played (show entry ∈ floor.log by simp [split,inside])]
      intro again
      have apart := novel.ids
      rw [split,List.filterMap_append,List.nodup_append] at apart
      obtain ⟨adding,member,once⟩ := put
      exact apart.2.2 session.id (List.mem_filterMap.mpr ⟨adding,member,once⟩) session.id
        (List.mem_filterMap.mpr ⟨entry,List.mem_cons_of_mem _ inside,again⟩) rfl

theorem session_replaced (played : Plays sessionStage initial floor) (novel : Novel floor.log)
    (authentication : VerifiedAuthentication) (client : ClientContext) (previousToken : Option Text) (i : Nat) :
    (∀ grant,
      floor.members[i]? = some ⟨calling s (.issueReplacing authentication client previousToken),.ret (.granted grant)⟩ →
        (∀ token digest,previousToken = some token → s.digest token = .ok digest → ∀ now session,
          (exec (.session (.use digest now)) floor.world).1 ≠ .ok session) ∧
        ∃ session,(own i floor.log).filterMap added = [session] ∧ session.id = grant.id ∧
          s.digest grant.token = .ok session.tokenDigest ∧ Created s session ∧ Leaving session i floor) ∧
    ∀ e,floor.members[i]? = some ⟨calling s (.issueReplacing authentication client previousToken),.fail e⟩ →
      ∀ session ∈ (own i floor.log).filterMap added,Gone session.id floor.world := by
  refine ⟨?_,?_⟩
  · intro grant finished
    obtain ⟨goes,-⟩ := calling_leaves authentication client previousToken _ _ (played.returned finished)
    have replaces := goes grant rfl
    refine ⟨?_,created_one played replaces⟩
    rintro token digest rfl hashed now session answer
    have dead := previous_dead played novel replaces hashed
    exact dead_unused dead (congrArg (Sigma.mk _) answer)
  · intro e finished session put
    obtain ⟨-,goes⟩ := calling_leaves authentication client previousToken _ _
      (ended_then played (r:=.error e) finished)
    exact created_gone played novel (goes e rfl) put

end

def demoReplace : Call SessionReply :=
  calling demoService (.issueReplacing demoAuthentication ⟨[],[]⟩ (some "t1"))

def grants : Except Error SessionReply → Bool
  | .ok (.granted _) => true
  | _ => false

theorem grants_grant (good : grants r = true) : ∃ grant,r = .ok (.granted grant) := by
  cases r with
  | error e => cases good
  | ok reply =>
    cases reply with
    | granted grant => exact ⟨grant,rfl⟩
    | _ => cases good

theorem session_replaced_demo : ∃ (floor : SessionFloor) (grant : SessionGrant) (digest : TokenDigest),
    Plays sessionStage (demoWorld ["s1","t1","s2","t2"]) floor ∧
      floor.members[1]? = some ⟨demoReplace,.ret (.granted grant)⟩ ∧ demoService.digest "t1" = .ok digest ∧
        ∀ now session,(exec (.session (.use digest now)) floor.world).1 ≠ .ok session := by
  let turns : List (Turn Op Op.Ret Error SessionReply State) :=
    .enter demoIssue :: steps 0 4 ++ .enter demoReplace :: steps 1 8
  have done : (takeTurns exec turns (⟨demoWorld ["s1","t1","s2","t2"],[],[]⟩ : SessionFloor)).any (fun floor =>
      (floor.members[1]?.bind fun m => ended m.rest).any grants &&
        (decide (floor.log.Pairwise fun earlier later => (installed later.exchange).isSome →
          installed earlier.exchange ≠ installed later.exchange ∧ presented earlier.exchange ≠ installed later.exchange) &&
        decide (floor.log.filterMap fun entry => (added entry.exchange).map Session.id).Nodup)) = true := by
    decide
  obtain ⟨floor,taken,holds⟩ := (Option.any_eq_true _ _).mp done
  obtain ⟨first,rest⟩ := Bool.and_eq_true_iff.mp holds
  obtain ⟨tokens,ids⟩ := Bool.and_eq_true_iff.mp rest
  have novel : Novel floor.log := ⟨of_decide_eq_true tokens,of_decide_eq_true ids⟩
  have played : Plays sessionStage (demoWorld ["s1","t1","s2","t2"]) floor :=
    Plays.start.turns (by simp [turns,steps,Turn.Allowed]) taken
  obtain ⟨r,member,good⟩ := takeTurns_ended taken rfl first
  obtain ⟨grant,rfl⟩ : ∃ grant,r = .ok (.granted grant) := grants_grant good
  obtain ⟨succeeds,-⟩ := session_replaced (s:=demoService) played novel demoAuthentication ⟨[],[]⟩ (some "t1") 1
  exact ⟨floor,grant,_,played,member,rfl,(succeeds grant member).1 _ _ rfl rfl⟩

end OpenProof.SessionReplacements
