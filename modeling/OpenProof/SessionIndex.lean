import OpenProof.CallTraces
import OpenProof.Sessions

namespace OpenProof.SessionIndex
open Foundation CallTraces Sessions InMemorySessionRepository Identities Option

def Adds (session : Session) (exchange : Exchange SessionOp SessionOp.Ret) : Prop := exchange = ⟨.add session,.ok ()⟩

-- The session was used in time, by its token or for another token.
inductive Uses (id : SessionId) (now : Instant) (exchange : Exchange SessionOp SessionOp.Ret) : Prop where
  | used (token : TokenDigest) (session : Session) (mine : session.id = id) (same : exchange = ⟨.use token now,.ok session⟩)
  | rotated (expected replacement : TokenDigest) (same : exchange = ⟨.rotate id expected replacement now,.ok ()⟩)

-- The token of that digest became the token of the session.
inductive Installs (digest : TokenDigest) (id : SessionId) (exchange : Exchange SessionOp SessionOp.Ret) : Prop where
  | added (session : Session) (mine : session.tokenDigest = digest) (own : session.id = id) (adds : Adds session exchange)
  | rotated (expected : TokenDigest) (now : Instant) (same : exchange = ⟨.rotate id expected digest now,.ok ()⟩)

structure Paired (repository : InMemorySessionRepository) : Prop where
  keyed : ∀ (id : SessionId) (session : Session),repository.sessions[id]? = some session → session.id = id
  matched : ∀ (digest : TokenDigest) (id : SessionId),repository.tokens[digest]? = some id ↔
    repository.sessions[id]?.map Session.tokenDigest = some digest

section
variable {repository : InMemorySessionRepository} {id : SessionId} {digest token expected replacement : TokenDigest}
  {session changed : Session} {now : Instant}

theorem empty_paired : Paired empty := ⟨fun id session there => by simp [empty] at there,by simp [empty]⟩

namespace Paired

section
variable (paired : Paired repository)
include paired

theorem indexed (stored : repository.sessions[id]? = some session) :
    repository.tokens[session.tokenDigest]? = some id := by
  rw [paired.matched,stored]
  rfl

theorem stored (indexed : repository.tokens[digest]? = some id) :
    ∃ session,repository.sessions[id]? = some session ∧ session.tokenDigest = digest :=
  map_eq_some_iff.mp ((paired.matched digest id).mp indexed)

theorem apart (stored : repository.sessions[id]? = some session) (there : repository.sessions[other]? = some found)
    (different : id ≠ other) : found.tokenDigest ≠ session.tokenDigest := by
  intro same
  have known := paired.indexed there
  rw [same,paired.indexed stored] at known
  exact different (Option.some.inj known)

theorem unowned (unused : repository.tokens[digest]? = none) (there : repository.sessions[id]? = some session) : session.tokenDigest ≠ digest := by
  rintro rfl
  rw [paired.indexed there] at unused
  cases unused

theorem added (session : Session) (new : repository.sessions[session.id]? = none)
    (unused : repository.tokens[session.tokenDigest]? = none) :
    Paired ⟨repository.sessions.insert session.id session,repository.tokens.insert session.tokenDigest session.id⟩ := by
  refine ⟨Map.insert_keyed paired.keyed session,?_⟩
  intro digest id
  simp only [Map.find_insert]
  by_cases here : session.id = id
  · subst here
    have absent : ∀ digest : TokenDigest,repository.tokens[digest]? ≠ some session.id := by
      intro digest indexed
      obtain ⟨stored,there,-⟩ := paired.stored indexed
      rw [new] at there
      cases there
    by_cases mine : session.tokenDigest = digest
    · simp [mine]
    · simp [mine,absent digest]
  · by_cases mine : session.tokenDigest = digest
    · subst mine
      have others : ∀ other : Session,repository.sessions[id]? = some other → other.tokenDigest ≠ session.tokenDigest :=
        fun other there => paired.unowned unused there
      simpa [here] using others
    · simp [here,mine,paired.matched digest id]

theorem keyed_changed (stored : repository.sessions[id]? = some session) (own : changed.id = session.id)
    {found : Session} (there : (repository.sessions.insert id changed)[other]? = some found) : found.id = other := by
  rcases Map.insert_cases there with ⟨rfl,rfl⟩ | before
  · exact own.trans (paired.keyed id session stored)
  · exact paired.keyed other found before

theorem rewritten (stored : repository.sessions[id]? = some session) (own : changed.id = session.id)
    (same : changed.tokenDigest = session.tokenDigest) :
    Paired { repository with sessions := repository.sessions.insert id changed } := by
  constructor
  · exact fun other found => paired.keyed_changed stored own
  · intro digest other
    rw [paired.matched,Map.find_insert]
    by_cases here : id = other
    · subst here
      simp [stored,same]
    · simp [here]

theorem rotated (changed : Session) (stored : repository.sessions[id]? = some session)
    (unused : repository.tokens[changed.tokenDigest]? = none) (own : changed.id = session.id) :
    Paired ⟨repository.sessions.insert id changed,
      (repository.tokens.erase session.tokenDigest).insert changed.tokenDigest id⟩ := by
  constructor
  · exact fun other found => paired.keyed_changed stored own
  · intro digest other
    simp only [Map.find_insert,Map.find_erase]
    by_cases here : id = other
    · subst here
      by_cases new : changed.tokenDigest = digest
      · simp [new]
      · have gone : session.tokenDigest ≠ digest → repository.tokens[digest]? ≠ some id := by
          intro apart there
          rw [paired.matched,stored] at there
          exact apart (Option.some.inj there)
        by_cases old : session.tokenDigest = digest
        · simp [new,old]
        · simp [new,old,gone old]
    · by_cases new : changed.tokenDigest = digest
      · subst new
        have others : ∀ found : Session,repository.sessions[other]? = some found →
            found.tokenDigest ≠ changed.tokenDigest := fun found there => paired.unowned unused there
        simpa [here] using others
      · by_cases old : session.tokenDigest = digest
        · subst old
          have others : ∀ found : Session,repository.sessions[other]? = some found →
              found.tokenDigest ≠ session.tokenDigest := fun found there => paired.apart stored there here
          simpa [new,here] using others
        · simp [new,old,here,paired.matched digest other]

theorem dropped (stored : repository.sessions[id]? = some session) :
    Paired ⟨repository.sessions.erase id,repository.tokens.erase session.tokenDigest⟩ := by
  constructor
  · intro other found there
    exact paired.keyed other found (Map.erase_cases there)
  · intro digest other
    simp only [Map.find_erase]
    by_cases old : session.tokenDigest = digest
    · subst old
      by_cases here : id = other
      · simp [here]
      · have others : ∀ found : Session,repository.sessions[other]? = some found →
            found.tokenDigest ≠ session.tokenDigest := fun found there => paired.apart stored there here
        simpa [here] using others
    · by_cases here : id = other
      · subst here
        have gone : repository.tokens[digest]? ≠ some id := by
          intro there
          rw [paired.matched,stored] at there
          exact old (Option.some.inj there)
        simp [old,gone]
      · simp [old,here,paired.matched digest other]

end

end Paired

theorem add_cases (session : Session) (repository : InMemorySessionRepository) :
    (∃ e,repository.add session = (.error e,repository)) ∨
    (repository.sessions[session.id]? = none ∧ repository.tokens[session.tokenDigest]? = none ∧
      repository.add session = (.ok (),⟨repository.sessions.insert session.id session,
        repository.tokens.insert session.tokenDigest session.id⟩)) := by
  unfold add
  split
  · exact .inl ⟨_,rfl⟩
  · rename_i free
    simp only [Map.holds,Bool.or_eq_true,not_or,not_isSome_iff_eq_none] at free
    exact .inr ⟨free.1,free.2,rfl⟩

theorem use_cases (paired : Paired repository) (token : TokenDigest) (now : Instant) :
    (repository.tokens[token]? = none ∧
      repository.use token now = (.error (unknownSession "Session token is unknown."),repository)) ∨
    ∃ id session,repository.tokens[token]? = some id ∧ repository.sessions[id]? = some session ∧
      session.tokenDigest = token ∧
      repository.use token now = ((session.use token now).1.map fun _ => (session.use token now).2,
        { repository with sessions := repository.sessions.insert id (session.use token now).2 }) := by
  unfold use
  cases indexed : repository.tokens[token]? with
  | none => exact .inl ⟨rfl,rfl⟩
  | some id =>
    obtain ⟨session,there,mine⟩ := paired.stored indexed
    refine .inr ⟨id,session,rfl,there,mine,?_⟩
    simp only [there]
    cases answer : session.use token now with
    | mk answered used => cases answered <;> rfl

theorem rotate_cases (id : SessionId) (expected replacement : TokenDigest) (now : Instant)
    (repository : InMemorySessionRepository) :
    (∃ e,e ≠ Session.deadlinePassed ∧ repository.rotate id expected replacement now = (.error e,repository)) ∨
    ∃ session,repository.sessions[id]? = some session ∧ repository.tokens[replacement]? = none ∧
      ((∃ e,(session.use expected now).1 = .error e ∧ repository.rotate id expected replacement now =
          (.error e,{ repository with sessions := repository.sessions.insert id (session.use expected now).2 })) ∨
        (session.state = .active ∧ session.isExpiredAt now = false ∧ session.tokenDigest = expected ∧
          repository.rotate id expected replacement now = (.ok (),
            ⟨repository.sessions.insert id { session with lastSeenAt := now, tokenDigest := replacement },
              (repository.tokens.erase expected).insert replacement id⟩))) := by
  unfold rotate
  cases stored : repository.sessions[id]? with
  | none => exact .inl ⟨_,by decide,rfl⟩
  | some session =>
    dsimp only
    split
    · exact .inl ⟨_,by decide,rfl⟩
    · rename_i unused
      simp only [Map.holds,not_isSome_iff_eq_none] at unused
      refine .inr ⟨session,rfl,unused,?_⟩
      rcases session.rotate_cases expected replacement now with ⟨e,refused,same⟩ | ⟨active,timely,rfl,same⟩
      · exact .inl ⟨e,refused,by rw [same]⟩
      · exact .inr ⟨active,timely,rfl,by rw [same]⟩

theorem revoke_cases (id : SessionId) (now : Instant) (repository : InMemorySessionRepository) :
    (∃ e,repository.revoke id now = (.error e,repository) ∧ repository.sessions[id]? = none) ∨
    ∃ session,repository.sessions[id]? = some session ∧ repository.revoke id now =
      ((session.revoke now).1,{ repository with sessions := repository.sessions.insert id (session.revoke now).2 }) := by
  unfold revoke
  cases stored : repository.sessions[id]? with
  | none => exact .inl ⟨_,rfl,rfl⟩
  | some session => exact .inr ⟨session,rfl,rfl⟩

-- What `revokeAll` makes of a session.
def ending (identity : IdentityId) (now : Instant) (session : Session) : Session :=
  if session.identity = identity ∧ session.state = .active then (session.revoke now).2 else session

def Remaining (rest : List (SessionId × Session)) (repository : InMemorySessionRepository) : Prop :=
  rest.Pairwise (fun one two => one.1 ≠ two.1) ∧ ∀ entry ∈ rest,repository.sessions[entry.1]? = some entry.2

theorem remaining_all (repository : InMemorySessionRepository) : Remaining repository.sessions.toList repository := by
  constructor
  · refine Std.ExtTreeMap.distinct_keys_toList.imp ?_
    rintro one two different same
    exact different (by simp [same])
  · rintro ⟨id,session⟩ inside
    simpa [Std.ExtTreeMap.mem_toList_iff_getElem?_eq_some] using inside

theorem Remaining.tail (remaining : Remaining (entry :: rest) repository) : Remaining rest repository :=
  ⟨(List.pairwise_cons.mp remaining.1).2,fun later inside => remaining.2 later (List.mem_cons_of_mem entry inside)⟩

theorem Remaining.past {entry : SessionId × Session} {after : InMemorySessionRepository}
    (remaining : Remaining (entry :: rest) repository)
    (frame : ∀ id : SessionId,entry.1 ≠ id → after.sessions[id]? = repository.sessions[id]?) : Remaining rest after := by
  obtain ⟨apart,there⟩ := remaining
  refine ⟨(List.pairwise_cons.mp apart).2,?_⟩
  intro later inside
  rw [frame _ ((List.pairwise_cons.mp apart).1 later inside)]
  exact there later (List.mem_cons_of_mem entry inside)

theorem revokeEach_spec (identity : IdentityId) (now : Instant) (revoked : Nat)
    (remaining : Remaining rest repository) :
    (∃ count,(revokeEach identity now rest revoked repository).1 = .ok count) ∧
    (revokeEach identity now rest revoked repository).2.tokens = repository.tokens ∧
    ∀ id : SessionId,(revokeEach identity now rest revoked repository).2.sessions[id]? =
      if id ∈ rest.map Prod.fst then repository.sessions[id]?.map (ending identity now) else repository.sessions[id]? := by
  induction rest generalizing revoked repository with
  | nil => simp [revokeEach]
  | cons entry rest ih =>
    obtain ⟨here,session⟩ := entry
    have stored : repository.sessions[here]? = some session := remaining.2 (here,session) List.mem_cons_self
    have once : here ∉ rest.map Prod.fst := by
      intro again
      obtain ⟨later,inside,same⟩ := List.mem_map.mp again
      exact (List.pairwise_cons.mp remaining.1).1 later inside same.symm
    unfold revokeEach
    split
    · rename_i chosen
      obtain ⟨changed,ended⟩ : ∃ changed,session.revoke now = (.ok (),changed) :=
        ⟨_,Session.revoke_active now chosen.2⟩
      rw [ended]
      have frame : ∀ id : SessionId,here ≠ id →
          (repository.sessions.insert here changed)[id]? = repository.sessions[id]? := by
        intro id other
        simp [other]
      have further : Remaining rest { repository with sessions := repository.sessions.insert here changed } :=
        remaining.past frame
      obtain ⟨answered,tokens,sessions⟩ := ih (revoked+1) further
      refine ⟨answered,tokens,fun id => ?_⟩
      rw [sessions id]
      by_cases mine : here = id
      · subst mine
        simp [once,stored,ending,chosen,ended]
      · have elsewhere : id ≠ here := fun same => mine same.symm
        simp only [frame id mine,List.map_cons,List.mem_cons,elsewhere,false_or]
    · rename_i spared
      obtain ⟨answered,tokens,sessions⟩ := ih revoked remaining.tail
      refine ⟨answered,tokens,fun id => ?_⟩
      rw [sessions id]
      by_cases mine : here = id
      · subst mine
        simp [once,stored,ending,spared]
      · have elsewhere : id ≠ here := fun same => mine same.symm
        simp only [List.map_cons,List.mem_cons,elsewhere,false_or]

theorem revokeAll_spec (identity : IdentityId) (now : Instant) (repository : InMemorySessionRepository) :
    (∃ count,(repository.revokeAll identity now).1 = .ok count) ∧
    (repository.revokeAll identity now).2.tokens = repository.tokens ∧
    ∀ id : SessionId,(repository.revokeAll identity now).2.sessions[id]? =
      repository.sessions[id]?.map (ending identity now) := by
  obtain ⟨answered,tokens,sessions⟩ := revokeEach_spec identity now 0 (remaining_all repository)
  refine ⟨answered,tokens,fun id => ?_⟩
  rw [revokeAll,sessions id]
  split
  · rfl
  · rename_i absent
    have unstored : repository.sessions[id]? = none := by
      apply eq_none_iff_forall_not_mem.mpr
      intro session there
      exact absent (List.mem_map.mpr ⟨(id,session),Std.ExtTreeMap.mem_toList_iff_getElem?_eq_some.mpr there,rfl⟩)
    simp [unstored]

theorem purgeEach_keeps {φ : InMemorySessionRepository → Prop}
    (drop : ∀ repository (id : SessionId) (session : Session),φ repository → repository.sessions[id]? = some session →
      φ ⟨repository.sessions.erase id,repository.tokens.erase session.tokenDigest⟩)
    (remaining : Remaining rest repository) (holds : φ repository) : φ (purgeEach now rest removed repository).2 := by
  induction rest generalizing removed repository with
  | nil => exact holds
  | cons entry rest ih =>
    have stored := remaining.2 entry List.mem_cons_self
    unfold purgeEach
    split
    · refine ih ?_ (drop _ _ _ holds stored)
      apply remaining.past
      intro id other
      simp [other]
    · exact ih remaining.tail holds

theorem purge_keeps {φ : InMemorySessionRepository → Prop} (now : Instant)
    (drop : ∀ repository (id : SessionId) (session : Session),φ repository → repository.sessions[id]? = some session →
      φ ⟨repository.sessions.erase id,repository.tokens.erase session.tokenDigest⟩)
    (holds : φ repository) : φ (repository.purgeExpired now).2 := purgeEach_keeps drop (remaining_all repository) holds

theorem purge_sessions (there : (repository.purgeExpired now).2.sessions[id]? = some session) :
    repository.sessions[id]? = some session := by
  refine purge_keeps (φ:=fun after => ∀ session,after.sessions[id]? = some session → repository.sessions[id]? = some session)
    now ?_ (fun _ before => before) session there
  intro after other dropped kept _ session found
  exact kept session (Map.erase_cases found)

theorem purge_tokens (there : (repository.purgeExpired now).2.tokens[digest]? = some id) :
    repository.tokens[digest]? = some id := by
  refine purge_keeps (φ:=fun after => ∀ id,after.tokens[digest]? = some id → repository.tokens[digest]? = some id)
    now ?_ (fun _ before => before) id there
  intro after other dropped kept _ id found
  exact kept id (Map.erase_cases found)

theorem ending_evolves (identity : IdentityId) (now : Instant) (session : Session) :
    session.Evolves (ending identity now session) := by
  unfold ending
  split
  · exact session.revoke_evolves now
  · exact .refl session

@[simp] theorem ending_id (identity : IdentityId) (now : Instant) (session : Session) :
    (ending identity now session).id = session.id := (ending_evolves identity now session).id

@[simp] theorem ending_digest (identity : IdentityId) (now : Instant) (session : Session) :
    (ending identity now session).tokenDigest = session.tokenDigest := by
  unfold ending
  split <;> simp

theorem exec_paired (op : SessionOp) (paired : Paired repository) : Paired (op.exec repository).2 := by
  cases op with
  | add session =>
    rcases add_cases session repository with ⟨e,same⟩ | ⟨new,unused,same⟩
    · rw [SessionOp.exec,same]
      exact paired
    · rw [SessionOp.exec,same]
      exact paired.added session new unused
  | use token now =>
    rcases use_cases paired token now with ⟨-,same⟩ | ⟨id,session,-,stored,-,same⟩
    · rw [SessionOp.exec,same]
      exact paired
    · rw [SessionOp.exec,same]
      exact paired.rewritten stored (session.use_evolves token now).id (session.use_digest token now)
  | rotate id expected replacement now =>
    rcases rotate_cases id expected replacement now repository with
      ⟨e,-,same⟩ | ⟨session,stored,unused,⟨e,-,same⟩ | ⟨-,-,rfl,same⟩⟩
    · rw [SessionOp.exec,same]
      exact paired
    · rw [SessionOp.exec,same]
      exact paired.rewritten stored (session.use_evolves expected now).id (session.use_digest expected now)
    · rw [SessionOp.exec,same]
      exact paired.rotated { session with lastSeenAt := now, tokenDigest := replacement } stored unused rfl
  | revoke id now =>
    rcases revoke_cases id now repository with ⟨e,same,-⟩ | ⟨session,stored,same⟩
    · rw [SessionOp.exec,same]
      exact paired
    · rw [SessionOp.exec,same]
      exact paired.rewritten stored (session.revoke_evolves now).id (session.revoke_digest now)
  | revokeAll identity now =>
    obtain ⟨-,tokens,sessions⟩ := revokeAll_spec identity now repository
    constructor
    · intro id session there
      rw [SessionOp.exec,sessions id] at there
      obtain ⟨before,stored,rfl⟩ := map_eq_some_iff.mp there
      rw [ending_id]
      exact paired.keyed id before stored
    · intro digest id
      rw [SessionOp.exec,tokens,sessions id,paired.matched,map_map]
      simp only [Function.comp_def,ending_digest]
  | find | list => exact paired
  | purgeExpired now =>
    exact purge_keeps now (fun _ _ _ holds stored => Paired.dropped holds stored) paired

theorem exec_installs (op : SessionOp) (paired : Paired repository)
    (indexed : (op.exec repository).2.tokens[digest]? = some id) :
    repository.tokens[digest]? = some id ∨ Installs digest id ⟨op,(op.exec repository).1⟩ := by
  cases op with
  | add session =>
    rcases add_cases session repository with ⟨e,same⟩ | ⟨-,-,same⟩
    · rw [SessionOp.exec,same] at indexed
      exact .inl indexed
    · rw [SessionOp.exec,same] at indexed ⊢
      rcases Map.insert_cases indexed with ⟨mine,rfl⟩ | before
      · exact .inr (.added session mine rfl rfl)
      · exact .inl before
  | use token now =>
    rcases use_cases paired token now with ⟨-,same⟩ | ⟨_,_,-,-,-,same⟩
    · rw [SessionOp.exec,same] at indexed
      exact .inl indexed
    · rw [SessionOp.exec,same] at indexed
      exact .inl indexed
  | rotate other expected replacement now =>
    rcases rotate_cases other expected replacement now repository with
      ⟨e,-,same⟩ | ⟨session,stored,unused,⟨e,-,same⟩ | ⟨-,-,-,same⟩⟩
    · rw [SessionOp.exec,same] at indexed
      exact .inl indexed
    · rw [SessionOp.exec,same] at indexed
      exact .inl indexed
    · rw [SessionOp.exec,same] at indexed ⊢
      rcases Map.insert_cases indexed with ⟨rfl,rfl⟩ | before
      · exact .inr (.rotated expected now rfl)
      · exact .inl (Map.erase_cases before)
  | revoke other now =>
    rcases revoke_cases other now repository with ⟨e,same,-⟩ | ⟨session,-,same⟩
    · rw [SessionOp.exec,same] at indexed
      exact .inl indexed
    · rw [SessionOp.exec,same] at indexed
      exact .inl indexed
  | revokeAll identity now =>
    rw [SessionOp.exec,(revokeAll_spec identity now repository).2.1] at indexed
    exact .inl indexed
  | find | list => exact .inl indexed
  | purgeExpired now => exact .inl (purge_tokens indexed)

theorem rotate_done (paired : Paired repository) (answer : (repository.rotate id expected replacement now).1 = .ok ()) :
    repository.tokens[expected]? = some id ∧ repository.tokens[replacement]? = none ∧
      (repository.rotate id expected replacement now).2.tokens[expected]? = none ∧
      ∃ before,repository.sessions[id]? = some before ∧ before.state = .active ∧ before.isExpiredAt now = false := by
  rcases rotate_cases id expected replacement now repository with
    ⟨e,-,same⟩ | ⟨session,stored,unused,⟨e,-,same⟩ | ⟨active,timely,rfl,same⟩⟩
  · rw [same] at answer
    cases answer
  · rw [same] at answer
    cases answer
  · have indexed := paired.indexed stored
    have apart : replacement ≠ session.tokenDigest := by
      rintro rfl
      rw [indexed] at unused
      cases unused
    rw [same]
    exact ⟨indexed,unused,by simp [apart],session,stored,active,timely⟩

theorem use_done (paired : Paired repository) (answer : (repository.use token now).1 = .ok session) :
    repository.tokens[token]? = some session.id ∧ ∃ before,repository.sessions[session.id]? = some before ∧
      before.state = .active ∧ before.isExpiredAt now = false := by
  rcases use_cases paired token now with ⟨-,same⟩ | ⟨id,before,indexed,stored,-,same⟩
  · rw [same] at answer
    cases answer
  · rw [same] at answer
    rcases before.use_cases token now with ⟨-,refused⟩ | ⟨-,-,refused⟩ | ⟨-,-,refused⟩ | ⟨active,timely,-,done⟩
    · rw [refused] at answer
      cases answer
    · rw [refused] at answer
      cases answer
    · rw [refused] at answer
      cases answer
    · rw [done] at answer
      cases answer
      obtain rfl := paired.keyed id before stored
      exact ⟨indexed,before,stored,active,timely⟩

theorem used_late {before : Session} (late : (before.use token now).1 = .error Session.deadlinePassed) :
    (before.use token now).2.state ≠ .active := by
  rcases before.use_cases token now with ⟨ended,refused⟩ | ⟨-,-,refused⟩ | ⟨-,-,refused⟩ | ⟨-,-,-,done⟩
  · rw [refused]
    exact ended
  · rw [refused]
    exact nofun
  · rw [refused] at late
    have apart : Session.digestMismatch ≠ Session.deadlinePassed := by decide
    exact absurd (Except.error.inj late) apart
  · rw [done] at late
    cases late

theorem exec_uses (paired : Paired repository) (uses : Uses id now ⟨op,(op.exec repository).1⟩) :
    ∃ before,repository.sessions[id]? = some before ∧ before.state = .active ∧ before.isExpiredAt now = false := by
  rcases uses with ⟨token,session,rfl,same⟩ | ⟨expected,replacement,same⟩
  · obtain ⟨rfl,answer⟩ := executed_as same
    exact (use_done paired answer).2
  · obtain ⟨rfl,answer⟩ := executed_as same
    exact (rotate_done paired answer).2.2.2

theorem not_uses (others : ∀ token,op ≠ .use token now)
    (unrotated : ∀ expected replacement,op ≠ .rotate id expected replacement now) : ¬Uses id now ⟨op,answer⟩ := by
  rintro (⟨token,session,-,same⟩ | ⟨expected,replacement,same⟩)
  · exact others token (congrArg Sigma.fst same)
  · exact unrotated expected replacement (congrArg Sigma.fst same)

theorem uses_used (uses : Uses id at_ ⟨.use token now,answer⟩) :
    ∃ session,answer = .ok session ∧ session.id = id := by
  rcases uses with ⟨token,session,mine,same⟩ | ⟨_,_,same⟩
  · cases same
    exact ⟨session,rfl,mine⟩
  · cases same

theorem uses_rotated (uses : Uses id at_ ⟨.rotate other expected replacement now,answer⟩) : answer = .ok () ∧ other = id := by
  rcases uses with ⟨_,_,_,same⟩ | ⟨_,_,same⟩
  · cases same
  · cases same
    exact ⟨rfl,rfl⟩

def Proceeds (repository : InMemorySessionRepository) (id : SessionId) (exchange : Exchange SessionOp SessionOp.Ret)
    (session : Session) : Prop :=
  ∃ before,repository.sessions[id]? = some before ∧ before.Evolves session ∧
    (session.lastSeenAt = before.lastSeenAt ∧ (∀ now,¬Uses id now exchange) ∨
      ∃ now,Uses id now exchange ∧ session.lastSeenAt = now ∧ before.state = .active ∧ before.isExpiredAt now = false)

theorem proceeds_unchanged (unseen : ∀ now,¬Uses id now exchange) (stored : repository.sessions[id]? = some session) : Proceeds repository id exchange session :=
  ⟨session,stored,.refl _,.inl ⟨rfl,unseen⟩⟩

theorem use_proceeds (paired : Paired repository) (token : TokenDigest) (now : Instant)
    (there : (repository.use token now).2.sessions[id]? = some session) :
    Proceeds repository id ⟨.use token now,(repository.use token now).1⟩ session := by
  rcases use_cases paired token now with ⟨-,same⟩ | ⟨other,before,-,stored,mine,same⟩
  · rw [same] at there ⊢
    refine proceeds_unchanged ?_ there
    intro at_ uses
    obtain ⟨used,answer,-⟩ := uses_used uses
    cases answer
  · rw [same] at there ⊢
    have keyed := paired.keyed other before stored
    by_cases here : other = id
    · subst here
      rw [Map.find_insert,if_pos rfl] at there
      cases there
      refine ⟨before,stored,before.use_evolves token now,?_⟩
      rcases before.use_cases token now with ⟨-,ended⟩ | ⟨-,-,ended⟩ | ⟨-,-,ended⟩ | ⟨active,timely,-,used⟩
      case inr.inr.inr =>
        rw [used]
        exact .inr ⟨now,.used token { before with lastSeenAt := now } keyed rfl,rfl,active,timely⟩
      all_goals
        have refused := congrArg Prod.fst ended
        refine .inl ⟨Session.use_unseen refused,fun at_ uses => ?_⟩
        rw [ended] at uses
        obtain ⟨used,impossible,-⟩ := uses_used uses
        cases impossible
    · rw [Map.find_insert,if_neg here] at there
      refine proceeds_unchanged ?_ there
      intro at_ uses
      obtain ⟨used,answer,own⟩ := uses_used uses
      cases outcome : (before.use token now).1 with
      | error e =>
        rw [outcome] at answer
        cases answer
      | ok done =>
        rw [outcome] at answer
        cases answer
        exact here (keyed.symm.trans ((before.use_evolves token now).id.symm.trans own))

theorem rotate_proceeds (expected replacement : TokenDigest) (now : Instant)
    (there : (repository.rotate other expected replacement now).2.sessions[id]? = some session) :
    Proceeds repository id ⟨.rotate other expected replacement now,(repository.rotate other expected replacement now).1⟩
      session := by
  have unseen : ∀ e at_,¬Uses id at_ ⟨.rotate other expected replacement now,.error e⟩ := by
    intro e at_ uses
    obtain ⟨impossible,-⟩ := uses_rotated uses
    cases impossible
  rcases rotate_cases other expected replacement now repository with
    ⟨e,-,same⟩ | ⟨before,stored,-,⟨e,refused,same⟩ | ⟨active,timely,rfl,same⟩⟩
  · rw [same] at there ⊢
    exact proceeds_unchanged (unseen e) there
  · rw [same] at there ⊢
    rcases Map.insert_cases there with ⟨rfl,rfl⟩ | kept
    · exact ⟨before,stored,before.use_evolves expected now,.inl ⟨Session.use_unseen refused,unseen e⟩⟩
    · exact proceeds_unchanged (unseen e) kept
  · rw [same] at there ⊢
    by_cases here : other = id
    · subst here
      rw [Map.find_insert,if_pos rfl] at there
      cases there
      exact ⟨before,stored,.ongoing active rfl rfl rfl rfl,.inr ⟨now,.rotated before.tokenDigest replacement rfl,rfl,
        active,timely⟩⟩
    · rw [Map.find_insert,if_neg here] at there
      exact proceeds_unchanged (fun at_ uses => here (uses_rotated uses).2) there

theorem exec_session (op : SessionOp) (paired : Paired repository)
    (there : (op.exec repository).2.sessions[id]? = some session) :
    (Adds session ⟨op,(op.exec repository).1⟩ ∧ session.id = id ∧ repository.sessions[id]? = none) ∨
      Proceeds repository id ⟨op,(op.exec repository).1⟩ session := by
  cases op with
  | add added =>
    have unseen : ∀ now,¬Uses id now ⟨.add added,(SessionOp.exec (.add added) repository).1⟩ :=
      fun now => not_uses nofun nofun
    rcases add_cases added repository with ⟨e,same⟩ | ⟨new,-,same⟩
    · rw [SessionOp.exec,same] at there
      exact .inr (proceeds_unchanged unseen there)
    · rw [SessionOp.exec,same] at there
      rcases Map.insert_cases there with ⟨rfl,rfl⟩ | before
      · exact .inl ⟨by rw [SessionOp.exec,same]; rfl,rfl,new⟩
      · exact .inr (proceeds_unchanged unseen before)
  | use token now => exact .inr (use_proceeds paired token now there)
  | rotate other expected replacement now => exact .inr (rotate_proceeds expected replacement now there)
  | revoke other now =>
    right
    have unseen : ∀ at_,¬Uses id at_ ⟨.revoke other now,(SessionOp.exec (.revoke other now) repository).1⟩ :=
      fun at_ => not_uses nofun nofun
    rcases revoke_cases other now repository with ⟨e,same,-⟩ | ⟨before,stored,same⟩
    · rw [SessionOp.exec,same] at there
      exact proceeds_unchanged unseen there
    · rw [SessionOp.exec,same] at there
      rcases Map.insert_cases there with ⟨rfl,rfl⟩ | kept
      · exact ⟨before,stored,before.revoke_evolves now,.inl ⟨before.revoke_seen now,unseen⟩⟩
      · exact proceeds_unchanged unseen kept
  | revokeAll identity now =>
    right
    rw [SessionOp.exec,(revokeAll_spec identity now repository).2.2 id] at there
    obtain ⟨before,stored,rfl⟩ := map_eq_some_iff.mp there
    refine ⟨before,stored,ending_evolves identity now before,.inl ⟨?_,fun at_ => not_uses nofun nofun⟩⟩
    unfold ending
    split
    · exact before.revoke_seen now
    · rfl
  | find | list => exact .inr (proceeds_unchanged (fun now => not_uses nofun nofun) there)
  | purgeExpired now => exact .inr (proceeds_unchanged (fun now => not_uses nofun nofun) (purge_sessions there))

theorem refusedIn_other (state : SessionState) :
    Session.refusedIn state ≠ inconsistent ∧ Session.refusedIn state ≠ Session.digestMismatch := by
  cases state <;> decide

theorem use_consistent (paired : Paired repository) (token : TokenDigest) (now : Instant) :
    (repository.use token now).1 ≠ .error inconsistent ∧ (repository.use token now).1 ≠ .error Session.digestMismatch := by
  rcases use_cases paired token now with ⟨-,same⟩ | ⟨id,session,-,-,mine,same⟩
  · rw [same]
    exact ⟨by simp; decide,by simp; decide⟩
  · rw [same]
    rcases session.use_cases token now with ⟨-,used⟩ | ⟨-,-,used⟩ | ⟨-,other,-⟩ | ⟨-,-,-,used⟩
    · rw [used]
      obtain ⟨one,two⟩ := refusedIn_other session.state
      exact ⟨fun same => one (Except.error.inj same),fun same => two (Except.error.inj same)⟩
    · rw [used]
      have apart : Session.deadlinePassed ≠ inconsistent ∧ Session.deadlinePassed ≠ Session.digestMismatch := by decide
      exact ⟨fun same => apart.1 (Except.error.inj same),fun same => apart.2 (Except.error.inj same)⟩
    · exact absurd mine other
    · rw [used]
      exact ⟨nofun,nofun⟩

end

def after (operations : List SessionOp) (repository : InMemorySessionRepository) : InMemorySessionRepository :=
  operations.foldl (fun repository op => (op.exec repository).2) repository

section
variable {repository : InMemorySessionRepository} {digest : TokenDigest}

theorem after_append (first rest : List SessionOp) (repository : InMemorySessionRepository) :
    after (first ++ rest) repository = after rest (after first repository) := List.foldl_append

theorem after_paired (operations : List SessionOp) (paired : Paired repository) : Paired (after operations repository) := by
  induction operations generalizing repository with
  | nil => exact paired
  | cons op rest ih => exact ih (exec_paired op paired)

def InstalledBy (operations : List SessionOp) (digest : TokenDigest) (repository : InMemorySessionRepository) : Prop :=
  ∃ first op rest id,operations = first ++ op :: rest ∧
    Installs digest id ⟨op,(op.exec (after first repository)).1⟩

theorem after_out (paired : Paired repository) (out : repository.tokens[digest]? = none)
    (uninstalled : ¬InstalledBy operations digest repository) : (after operations repository).tokens[digest]? = none := by
  induction operations generalizing repository with
  | nil => exact out
  | cons op rest ih =>
    apply ih (exec_paired op paired)
    · apply eq_none_iff_forall_not_mem.mpr
      intro id there
      rcases exec_installs op paired there with before | installs
      · rw [out] at before
        cases before
      · exact uninstalled ⟨[],op,rest,id,rfl,installs⟩
    · rintro ⟨first,later,more,id,rfl,installs⟩
      exact uninstalled ⟨op :: first,later,more,id,rfl,installs⟩

end

theorem repository_paired (operations : List SessionOp) : Paired (after operations empty) ∧
    (∀ token now,((after operations empty).use token now).1 ≠ .error inconsistent ∧
      ((after operations empty).use token now).1 ≠ .error Session.digestMismatch) ∧
    ∀ first id expected replacement now rest,operations = first ++ .rotate id expected replacement now :: rest →
      ((after first empty).rotate id expected replacement now).1 = .ok () →
        ¬InstalledBy rest expected ((after first empty).rotate id expected replacement now).2 →
          (after operations empty).tokens[expected]? = none := by
  have paired := fun operations => after_paired operations empty_paired
  refine ⟨paired operations,fun token now => use_consistent (paired operations) token now,?_⟩
  rintro first id expected replacement now rest rfl done uninstalled
  rw [after_append]
  obtain ⟨-,-,out,-⟩ := rotate_done (paired first) done
  change (after rest (SessionOp.exec (.rotate id expected replacement now) (after first empty)).2).tokens[expected]? = none
  exact after_out (exec_paired (.rotate id expected replacement now) (paired first)) out uninstalled

theorem demo_lasting : (0 : Instant) < 3600000 ∧ (0 : Duration) < 1800000 := by decide

def demo (digest : TokenDigest) : Session where
  id := ⟨Text.of "s1"⟩
  identity := ⟨Text.of "ann"⟩
  provider := ⟨Text.of "passkey"⟩
  assurance := .ial2
  strength := ⟨Identities.AuthenticationFactor.knowledge,false⟩
  state := .active
  authenticatedAt := 0
  tokenDigest := digest
  issuedAt := 0
  lastSeenAt := 0
  absoluteExpiresAt := 3600000
  idleTimeout := 1800000
  revokedAt := none
  userAgent := none
  remoteAddress := none
  named := ⟨rfl,rfl,rfl⟩
  lasting := demo_lasting
  grown := Int.le_refl 0

theorem rotated_back : ¬∀ operations first id expected replacement now rest,
    operations = first ++ SessionOp.rotate id expected replacement now :: rest →
      ((after first empty).rotate id expected replacement now).1 = .ok () →
        (after operations empty).tokens[expected]? = none := by
  intro always
  have gone := always _ [.add (demo 1)] ⟨Text.of "s1"⟩ 1 2 1 [.rotate ⟨Text.of "s1"⟩ 2 1 2] rfl (by decide)
  have there : (after [.add (demo 1),.rotate ⟨Text.of "s1"⟩ 1 2 1,.rotate ⟨Text.of "s1"⟩ 2 1 2] empty).tokens[(1 : TokenDigest)]? =
      some ⟨Text.of "s1"⟩ := by
    decide
  exact absurd (there.symm.trans gone) (Option.some_ne_none _)

end OpenProof.SessionIndex
