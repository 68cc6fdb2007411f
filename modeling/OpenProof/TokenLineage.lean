import OpenProof.TokenRevocation

namespace OpenProof.TokenLineage
open AtomicPrograms Foundation World Services TokenService TokenActs TokenFamilies TokenRevocation Resources Option
open Tokens

variable {d : Deployment} {born : Nat} {h : History State}

inductive Token where
  | access (digest : TokenDigest)
  | refresh (digest : TokenDigest)

def Token.context (store : TokenStore) : Token → Option TokenContext
  | .access key => store.access[key]?.map AccessTokenRecord.context
  | .refresh key => store.refresh[key]?.map RefreshTokenRecord.context

def IssuedAt (d : Deployment) (g : History State) (w : State) (context : TokenContext)
    (access refresh : TokenDigest) : Prop :=
  ∃ family at_,Unseen g.now.tokens access ∧ Unseen g.now.tokens refresh ∧ w.tokens =
    { access := g.now.tokens.access.insert access (.fresh access family context at_ (at_+d.accessLifetime))
      refresh := g.now.tokens.refresh.insert refresh
        (.fresh refresh family 0 context at_ (at_+d.refreshLifetime)) }

def GrantedAt (d : Deployment) (g : History State) (w : State) (context : TokenContext)
    (access : TokenDigest) : Prop :=
  ∃ family at_,Unseen g.now.tokens access ∧ w.tokens =
    { access := g.now.tokens.access.insert access (.fresh access family context at_ (at_+d.accessLifetime))
      refresh := g.now.tokens.refresh }

-- The pair a rotation of the refresh token `presented` stores.
def RotatedAt (d : Deployment) (g : History State) (w : State) (presented access refresh : TokenDigest) :
    Prop :=
  ∃ found at_,g.now.tokens.refresh[presented]? = some found ∧ Unseen g.now.tokens access ∧
    Unseen g.now.tokens refresh ∧ w.tokens =
      { access := g.now.tokens.access.insert access
          (.fresh access found.family found.context at_ (at_+d.accessLifetime))
        refresh := (g.now.tokens.refresh.insert presented (found.markUsed at_)).insert refresh
          (.fresh refresh found.family (found.sequence+1) found.context at_ found.expiresAt) }

-- How a token came out of a run: from a root context through any number of
-- rotations and exchanges, in any order.
inductive Descends (d : Deployment) (h : History State) (root : TokenContext) : Token → Prop where
  | issuedAccess (moment : (g,w) ∈ h.moments) (issued : IssuedAt d g w root accessDigest refreshDigest) :
      Descends d h root (.access accessDigest)
  | issuedRefresh (moment : (g,w) ∈ h.moments) (issued : IssuedAt d g w root accessDigest refreshDigest) :
      Descends d h root (.refresh refreshDigest)
  | credentials (moment : (g,w) ∈ h.moments) (service : ServiceIdentity) (audience : Text)
      (scopes : List Text) (senderConstraint : Option SenderConstraint) (at_ : Instant)
      (is : root = machineContext service audience scopes senderConstraint at_)
      (granted : GrantedAt d g w root accessDigest) : Descends d h root (.access accessDigest)
  | rotatedAccess (moment : (g,w) ∈ h.moments) (rotated : RotatedAt d g w presented accessDigest refreshDigest)
      (prior : Descends d h root (.refresh presented)) : Descends d h root (.access accessDigest)
  | rotatedRefresh (moment : (g,w) ∈ h.moments) (rotated : RotatedAt d g w presented accessDigest refreshDigest)
      (prior : Descends d h root (.refresh presented)) : Descends d h root (.refresh refreshDigest)
  | exchanged (moment : (g,w) ∈ h.moments) (seen : before ∈ g.worlds)
      (stored : Token.context before.tokens (.access subject) = some source)
      (accepted : Exchangeable source clientId audience scopes senderConstraint)
      (granted : GrantedAt d g w (exchangeContext clientId source audience scopes senderConstraint)
        accessDigest)
      (prior : Descends d h root (.access subject)) : Descends d h root (.access accessDigest)

-- Everything a derived token may at most do.
structure Narrows (root context : TokenContext) : Prop where
  client : context.client = root.client
  identity : context.identity = root.identity
  provider : context.provider = root.provider
  assurance : context.assurance = root.assurance
  strength : context.strength = root.strength
  authenticatedAt : context.authenticatedAt = root.authenticatedAt
  senderConstraint : context.senderConstraint = root.senderConstraint
  audiences : ∀ audience ∈ context.audiences.items,audience ∈ root.audiences.items
  scopes : ∀ scope,scope ≠ [] → context.permits scope = true → root.permits scope = true

theorem Narrows.refl (context : TokenContext) : Narrows context context :=
  ⟨rfl,rfl,rfl,rfl,rfl,rfl,rfl,fun _ => id,fun _ _ => id⟩

theorem Narrows.trans (one : Narrows a b) (two : Narrows b c) : Narrows a c where
  client := two.client.trans one.client
  identity := two.identity.trans one.identity
  provider := two.provider.trans one.provider
  assurance := two.assurance.trans one.assurance
  strength := two.strength.trans one.strength
  authenticatedAt := two.authenticatedAt.trans one.authenticatedAt
  senderConstraint := two.senderConstraint.trans one.senderConstraint
  audiences audience member := one.audiences audience (two.audiences audience member)
  scopes scope named permitted := one.scopes scope named (two.scopes scope named permitted)

theorem narrows_exchange (accepted : Exchangeable source clientId audience scopes senderConstraint) :
    Narrows source (exchangeContext clientId source audience scopes senderConstraint) where
  client := accepted.client.symm
  identity := rfl
  provider := rfl
  assurance := rfl
  strength := rfl
  authenticatedAt := rfl
  senderConstraint := accepted.senderConstraint.symm
  audiences item member := by
    simp only [exchangeContext,SortedList.SortedSet.mem_ofList,List.mem_singleton] at member
    exact member ▸ accepted.audience
  scopes scope named permitted := by
    rw [TokenContext.permits_eq_true] at permitted ⊢
    rcases permitted with empty | member
    · exact absurd empty named
    · simp only [exchangeContext,SortedList.SortedSet.mem_ofList] at member
      exact accepted.scopes scope member

theorem stable_context (token : Token) (context : TokenContext) :
    Stable (rely d) fun h => token.context h.now.tokens = some context := by
  rintro h w ⟨born,acted⟩ held
  cases token with
  | access key =>
    obtain ⟨record,stored,rfl⟩ := map_eq_some_iff.mp held
    obtain ⟨after,present,rfl | ⟨at_,rfl⟩⟩ := acted.access_kept stored
    · exact map_eq_some_iff.mpr ⟨after,present,rfl⟩
    · exact map_eq_some_iff.mpr ⟨_,present,record.revoke_context at_⟩
  | refresh key =>
    obtain ⟨record,stored,rfl⟩ := map_eq_some_iff.mp held
    obtain ⟨after,present,same⟩ := acted.refresh_kept stored
    exact map_eq_some_iff.mpr ⟨after,present,same.context⟩

theorem IssuedAt.contexts {access refresh : TokenDigest} (issued : IssuedAt d g w context access refresh) :
    Token.context w.tokens (.access access) = some context ∧
      Token.context w.tokens (.refresh refresh) = some context := by
  obtain ⟨family,at_,-,-,stores⟩ := issued
  simp only [Token.context,stores,Map.find_insert,if_true,map_some]
  exact ⟨rfl,rfl⟩

theorem GrantedAt.context {context : TokenContext} (granted : GrantedAt d g w context access) : Token.context w.tokens (.access access) = some context := by
  obtain ⟨family,at_,-,stores⟩ := granted
  simp only [Token.context,stores,Map.find_insert,if_true,map_some]
  rfl

theorem RotatedAt.contexts {presented access refresh : TokenDigest}
    (rotated : RotatedAt d g w presented access refresh) :
    ∃ context,Token.context g.now.tokens (.refresh presented) = some context ∧
      Token.context w.tokens (.access access) = some context ∧
      Token.context w.tokens (.refresh refresh) = some context := by
  obtain ⟨found,at_,stored,-,-,stores⟩ := rotated
  refine ⟨found.context,map_eq_some_iff.mpr ⟨found,stored,rfl⟩,?_⟩
  simp only [Token.context,stores,Map.find_insert,if_true,map_some]
  exact ⟨rfl,rfl⟩

section
variable (grown : Grows (rely d) ⟨w₀,[]⟩ h)
include grown

theorem context_since {token : Token} (moment : (g,w) ∈ h.moments) (then_ : token.context w.tokens = some first)
    (now_ : token.context h.now.tokens = some context) : context = first := by
  have kept := (grown.moment moment).2.keep (stable_context token first) then_
  rw [kept] at now_
  exact (Option.some.inj now_).symm

theorem context_seen {token : Token} (member : seen ∈ h.worlds) (then_ : token.context seen.tokens = some context) : token.context h.now.tokens = some context :=
  grown.world (P:=fun w => token.context w.tokens = some context) (stable_context token context) member then_

theorem Descends.narrows (descends : Descends d h root token) :
    ∀ context,token.context h.now.tokens = some context → Narrows root context := by
  induction descends with
  | issuedAccess moment issued =>
    intro context held
    exact context_since grown moment issued.contexts.1 held ▸ .refl root
  | issuedRefresh moment issued =>
    intro context held
    exact context_since grown moment issued.contexts.2 held ▸ .refl root
  | credentials moment service audience scopes senderConstraint at_ is granted =>
    intro context held
    exact context_since grown moment granted.context held ▸ .refl root
  | rotatedAccess moment rotated _ ih =>
    intro context held
    obtain ⟨copied,presented,access,-⟩ := rotated.contexts
    have same := context_since grown moment access held
    have worlds := History.moment_worlds moment (History.now_mem_worlds _)
    exact same ▸ ih copied (context_seen grown worlds presented)
  | rotatedRefresh moment rotated _ ih =>
    intro context held
    obtain ⟨copied,presented,-,refresh⟩ := rotated.contexts
    have same := context_since grown moment refresh held
    have worlds := History.moment_worlds moment (History.now_mem_worlds _)
    exact same ▸ ih copied (context_seen grown worlds presented)
  | exchanged moment seen stored accepted granted _ ih =>
    intro context held
    have same := context_since grown moment granted.context held
    have source := ih _ (context_seen grown (History.moment_worlds moment seen) stored)
    exact same ▸ source.trans (narrows_exchange accepted)

end

theorem Descends.push (descends : Descends d h root token) (w : State) : Descends d (h.push w) root token := by
  induction descends with
  | issuedAccess moment issued => exact .issuedAccess (List.mem_cons_of_mem _ moment) issued
  | issuedRefresh moment issued => exact .issuedRefresh (List.mem_cons_of_mem _ moment) issued
  | credentials moment service audience scopes senderConstraint at_ is granted =>
    exact .credentials (List.mem_cons_of_mem _ moment) service audience scopes senderConstraint at_ is granted
  | rotatedAccess moment rotated _ ih => exact .rotatedAccess (List.mem_cons_of_mem _ moment) rotated ih
  | rotatedRefresh moment rotated _ ih => exact .rotatedRefresh (List.mem_cons_of_mem _ moment) rotated ih
  | exchanged moment seen stored accepted granted _ ih =>
    exact .exchanged (List.mem_cons_of_mem _ moment) seen stored accepted granted ih

def Rooted (d : Deployment) (h : History State) : Prop :=
  ∀ token context,Token.context h.now.tokens token = some context → ∃ root,Descends d h root token

theorem rooted_act {w₀ w : State} (grown : Grows (rely d) ⟨w₀,[]⟩ h) (acted : Act d born h w.tokens)
    (rooted : Rooted d h) : Rooted d (h.push w) := by
  -- Tokens that were there before keep their root.
  have old : ∀ token context,Token.context h.now.tokens token = some context →
      ∃ root,Descends d (h.push w) root token := by
    intro token context held
    obtain ⟨root,descends⟩ := rooted token context held
    exact ⟨root,descends.push w⟩
  have last : (h,w) ∈ (h.push w).moments := List.mem_cons_self
  intro token context held
  change Token.context w.tokens token = some context at held
  generalize reached : w.tokens = store at acted held
  cases acted with
  | keep => exact old token context held
  | initial made family at_ accessDigest refreshDigest new accessUnseen refreshUnseen =>
    have issued : IssuedAt d h w made accessDigest refreshDigest :=
      ⟨family,at_,accessUnseen,refreshUnseen,reached⟩
    cases token with
    | access key =>
      by_cases here : accessDigest = key
      · exact ⟨made,here ▸ .issuedAccess last issued⟩
      · simp only [Token.context,Map.find_insert,here,if_false] at held
        exact old (.access key) context held
    | refresh key =>
      by_cases here : refreshDigest = key
      · exact ⟨made,here ▸ .issuedRefresh last issued⟩
      · simp only [Token.context,Map.find_insert,here,if_false] at held
        exact old (.refresh key) context held
  | machine made family at_ digest source new unseen timed =>
    have granted : GrantedAt d h w made digest := ⟨family,at_,unseen,reached⟩
    cases token with
    | access key =>
      by_cases here : digest = key
      · subst here
        cases source with
        | credentials service audience scopes senderConstraint moment =>
          exact ⟨_,.credentials last service audience scopes senderConstraint moment rfl granted⟩
        | exchange subject record clientId audience scopes senderConstraint stored usable accepted =>
          obtain ⟨-,before,recent,present⟩ := stored
          have seen : before ∈ h.worlds := List.mem_of_mem_take recent
          have had : Token.context before.tokens (.access subject) = some record.context :=
            map_eq_some_iff.mpr ⟨record,present,rfl⟩
          obtain ⟨root,prior⟩ := old _ _ (context_seen grown seen had)
          exact ⟨root,.exchanged last seen had accepted granted prior⟩
      · simp only [Token.context,Map.find_insert,here,if_false] at held
        exact old (.access key) context held
    | refresh key => exact old (.refresh key) context held
  | rotate presented found at_ accessDigest refreshDigest stored usable accessUnseen refreshUnseen =>
    have rotated : RotatedAt d h w presented accessDigest refreshDigest :=
      ⟨found,at_,stored,accessUnseen,refreshUnseen,reached⟩
    have had : Token.context h.now.tokens (.refresh presented) = some found.context :=
      map_eq_some_iff.mpr ⟨found,stored,rfl⟩
    obtain ⟨root,prior⟩ := old _ _ had
    cases token with
    | access key =>
      by_cases here : accessDigest = key
      · exact ⟨root,here ▸ .rotatedAccess last rotated prior⟩
      · simp only [Token.context,Map.find_insert,here,if_false] at held
        exact old (.access key) context held
    | refresh key =>
      by_cases here : refreshDigest = key
      · exact ⟨root,here ▸ .rotatedRefresh last rotated prior⟩
      · by_cases same : presented = key
        · exact ⟨root,same ▸ prior⟩
        · simp only [Token.context,Map.find_insert,here,same,if_false] at held
          exact old (.refresh key) context held
  | retire family at_ =>
    cases token with
    | access key =>
      obtain ⟨record,present,-⟩ := map_eq_some_iff.mp held
      obtain ⟨before,stored,-⟩ := revokeRecords_access present
      exact old (.access key) before.context (map_eq_some_iff.mpr ⟨before,stored,rfl⟩)
    | refresh key =>
      obtain ⟨record,present,-⟩ := map_eq_some_iff.mp held
      obtain ⟨before,stored,-⟩ := revokeRecords_refresh present
      exact old (.refresh key) before.context (map_eq_some_iff.mpr ⟨before,stored,rfl⟩)
  | retireAccess digest record at_ stored =>
    cases token with
    | access key =>
      by_cases here : digest = key
      · subst here
        exact old (.access digest) record.context (map_eq_some_iff.mpr ⟨record,stored,rfl⟩)
      · simp only [Token.context,Map.find_insert,here,if_false] at held
        exact old (.access key) context held
    | refresh key => exact old (.refresh key) context held

-- Every stored token has a root, and no token goes beyond a root it descends from.
theorem tokens_never_widen {w : State} {pool : TokenPool} (empty : w.tokens = .empty)
    (path : TokenRuns d (.start w) pool) (token : Token) (context : TokenContext)
    (held : token.context pool.hist.now.tokens = some context) : (∃ root,Descends d pool.hist root token) ∧
      ∀ root,Descends d pool.hist root token → Narrows root context := by
  have grown : Grows (rely d) ⟨w,[]⟩ pool.hist := grows empty .nil path
  have known : Grows (rely d) ⟨w,[]⟩ pool.hist ∧ Rooted d pool.hist := by
    refine grown.keep (φ:=fun h => Grows (rely d) ⟨w,[]⟩ h ∧ Rooted d h) ?_ ⟨.refl,?_⟩
    · rintro h next ⟨born,acted⟩ ⟨grown,rooted⟩
      exact ⟨.step grown ⟨born,acted⟩,rooted_act grown acted rooted⟩
    · intro token context held
      cases token <;> simp [Token.context,empty,TokenStore.empty] at held
  exact ⟨known.2 token context held,fun root descends => descends.narrows grown context held⟩

theorem tokens_never_widen_exchanged :
    ∃ pool : TokenPool,TokenRuns demoDeployment (.start (demoState ["f","a0","r0","a1","r1","g","x"])) pool ∧
      ∃ context root,Token.context pool.hist.now.tokens (.access 0x6f70615f78) = some context ∧
        Descends demoDeployment pool.hist root (.access 0x6f70615f78) ∧ Narrows root context := by
  have played : (playTokens (demoIssue ++ demoRefresh 1 7 "opr_r0" ++ demoExchange 2 "opa_a1")
      (demoState ["f","a0","r0","a1","r1","g","x"])).any (fun pool =>
        (Token.context pool.hist.now.tokens (.access 0x6f70615f78)).isSome) = true := by
    decide
  obtain ⟨pool,path,checked⟩ := playTokens_reaches played
  obtain ⟨context,held⟩ := Option.isSome_iff_exists.mp checked
  obtain ⟨⟨root,descends⟩,narrows⟩ := tokens_never_widen rfl path _ context held
  exact ⟨pool,path,context,root,held,descends,narrows root descends⟩

-- One exchange: what the call that stored `made` saw of its source `record`, and
-- what the token it stored inherits from it and what it does not.
structure Derived (d : Deployment) (born : Nat) (h : History State) (source : TokenDigest)
    (record made : AccessTokenRecord) : Prop where
  stored : Witnessed born (fun w => w.tokens.access[source]? = some record) h
  usable : Witnessed born (fun w => record.usableAt w.clock = true) h
  timed : Witnessed born (fun w => w.clock = made.issuedAt) h
  narrows : Narrows record.context made.context
  expiry : made.expiresAt = made.issuedAt+d.accessLifetime
  apart : made.family ≠ record.family

theorem stable_lifetime (key : TokenDigest) (family : TokenFamilyId) (expiresAt : Instant) :
    Stable (rely d) fun h => ∃ record,h.now.tokens.access[key]? = some record ∧ record.family = family ∧
      record.expiresAt = expiresAt := by
  rintro h w ⟨born,acted⟩ ⟨record,stored,member,expires⟩
  obtain ⟨after,present,rfl | ⟨at_,rfl⟩⟩ := acted.access_kept stored
  · exact ⟨after,present,member,expires⟩
  · exact ⟨_,present,(record.revoke_family at_).trans member,(record.revoke_expiresAt at_).trans expires⟩

theorem new_family_apart {key : TokenDigest} (grown : Grows (rely d) ⟨w₀,[]⟩ h) (member : seen ∈ h.worlds)
    (stored : seen.tokens.access[key]? = some record) (new : NewFamily h.now.tokens family) :
    family ≠ record.family := by
  obtain ⟨current,present,same,-⟩ := grown.world
    (P:=fun w => ∃ current,w.tokens.access[key]? = some current ∧ current.family = record.family ∧
      current.expiresAt = record.expiresAt)
    (stable_lifetime key record.family record.expiresAt) member ⟨record,stored,rfl,rfl⟩
  exact fun equal => new.1 key current present (same.trans equal.symm)

theorem dead_family_not_usable {key : TokenDigest} (grown : Grows (rely d) g h) (dead : Dead g.now.tokens family)
    (entered : g.past.length ≤ born) (stored : Witnessed born (fun w => w.tokens.access[key]? = some record) h)
    (usable : Witnessed born (fun w => record.usableAt w.clock = true) h) : record.family ≠ family := by
  intro member
  obtain ⟨-,seen,recent,present⟩ := stored
  obtain ⟨-,read,-,live⟩ := usable
  have died := (grown.recent (P:=fun w => Dead w.tokens family) (stable_dead family) dead).2 seen
    (h.recent_mono entered recent)
  rw [AccessTokenRecord.not_usableAt_of_revoked (died.access key record present member)] at live
  cases live

theorem derived_of_source {context : TokenContext} (key : TokenDigest) (grown : Grows (rely d) ⟨w₀,[]⟩ h)
    (source : Source born h context) (new : NewFamily h.now.tokens family)
    (timed : Witnessed born (fun w => w.clock = at_) h) : (∃ service audience scopes senderConstraint read,
      context = machineContext service audience scopes senderConstraint read) ∨
    ∃ subject record,Derived d born h subject record (.fresh key family context at_ (at_+d.accessLifetime)) := by
  cases source with
  | credentials service audience scopes senderConstraint read =>
    exact .inl ⟨service,audience,scopes,senderConstraint,read,rfl⟩
  | exchange subject record clientId audience scopes senderConstraint stored usable accepted =>
    refine .inr ⟨subject,record,stored,usable,timed,narrows_exchange accepted,rfl,?_⟩
    obtain ⟨-,seen,recent,present⟩ := stored
    exact new_family_apart grown (List.mem_of_mem_take recent) present new

theorem added_access {made : AccessTokenRecord} (acted : Act d born h store)
    (absent : h.now.tokens.access[key]? = none) (stored : store.access[key]? = some made) :
    (∃ other refresh,Belongs store made.family other refresh) ∨
    ∃ context family at_,made = .fresh key family context at_ (at_+d.accessLifetime) ∧
      Source born h context ∧ NewFamily h.now.tokens family ∧ Witnessed born (fun w => w.clock = at_) h := by
  have gone : ∀ {record},h.now.tokens.access[key]? ≠ some record := by simp [absent]
  cases acted with
  | keep => exact absurd stored gone
  | initial context family at_ accessDigest refreshDigest =>
    obtain ⟨-,rfl⟩ | stored := Map.insert_cases stored
    · exact .inl ⟨refreshDigest,.fresh refreshDigest family 0 context at_ (at_+d.refreshLifetime),
        by simp only [Map.find_insert,if_true],rfl⟩
    · exact absurd stored gone
  | machine context family at_ digest source new unseen timed =>
    obtain ⟨rfl,rfl⟩ | stored := Map.insert_cases stored
    · exact .inr ⟨context,family,at_,rfl,source,new,timed⟩
    · exact absurd stored gone
  | rotate presented found at_ accessDigest refreshDigest =>
    obtain ⟨-,rfl⟩ | stored := Map.insert_cases stored
    · exact .inl ⟨refreshDigest,
        .fresh refreshDigest found.family (found.sequence+1) found.context at_ found.expiresAt,
        by simp only [Map.find_insert,if_true],rfl⟩
    · exact absurd stored gone
  | retire family at_ =>
    obtain ⟨before,present,-⟩ := revokeRecords_access stored
    exact absurd present gone
  | retireAccess digest record at_ present =>
    obtain ⟨rfl,-⟩ | stored := Map.insert_cases stored
    · exact absurd present gone
    · exact absurd stored gone

-- Every access token a step adds is half of a pair, a client-credentials token or an
-- exchanged one. An exchanged token had a live source inside its call, so no call that
-- begins after the source's family has died derives from it; but it lies in a family of
-- its own and runs for its own lifetime, which a later end of the source leaves alone.
theorem exchanged_token_own_lifetime {w : State} {pool next later : TokenPool} (empty : w.tokens = .empty)
    (path : TokenRuns d (.start w) pool) {i : Nat} {op : Op}
    (moved : Step exec Fresh (TokenCall d) Drift pool (.act i op) next) {key : TokenDigest}
    {made : AccessTokenRecord} (absent : pool.hist.now.tokens.access[key]? = none)
    (stored : next.hist.now.tokens.access[key]? = some made) (more : TokenRuns d next later) :
    (∃ other refresh,Belongs next.hist.now.tokens made.family other refresh) ∨
    (∃ service audience scopes senderConstraint read,
      made.context = machineContext service audience scopes senderConstraint read) ∨
    ∃ thread source record,pool.threads[i]? = some thread ∧ Derived d thread.born pool.hist source record made ∧
      (∀ earlier family,TokenRuns d (.start w) earlier → TokenRuns d earlier pool →
        earlier.hist.past.length ≤ thread.born → Dead earlier.hist.now.tokens family → record.family ≠ family) ∧
      ∃ kept,later.hist.now.tokens.access[key]? = some kept ∧
        (∀ at_,made.issuedAt+d.accessLifetime ≤ at_ → kept.usableAt at_ = false) ∧
        ∀ at_,(later.hist.now.tokens.revokeRecords record.family at_).access[key]? = some kept := by
  have grown : Grows (rely d) ⟨w,[]⟩ pool.hist := grows empty .nil path
  obtain ⟨thread,waiting,-,acted⟩ := (sound empty path).acted moved
  rcases added_access acted absent stored with pair | ⟨context,family,at_,rfl,source,new,timed⟩
  · exact .inl pair
  rcases derived_of_source key grown source new timed with machine | ⟨subject,record,derived⟩
  · exact .inr (.inl machine)
  refine .inr (.inr ⟨thread,subject,record,waiting,derived,?_,?_⟩)
  · intro earlier family start rest entered dead
    exact dead_family_not_usable (grows empty start rest) dead entered derived.stored derived.usable
  · obtain ⟨kept,present,member,expires⟩ := (grows empty (path.step moved) more).keep
      (stable_lifetime key family (at_+d.accessLifetime)) ⟨_,stored,rfl,rfl⟩
    refine ⟨kept,present,?_,?_⟩
    · intro moment expired
      have late : kept.expiresAt ≤ moment := by
        rw [expires]
        exact expired
      simp [AccessTokenRecord.usableAt,late]
    · intro moment
      have other : kept.family ≠ record.family := by
        rw [member]
        exact derived.apart
      simp only [TokenStore.revokeRecords,Map.find_map,present,Option.map_some,other,if_false]

theorem exchanged_token_own_lifetime_once : ∃ pool next : TokenPool,
      TokenRuns demoDeployment (.start (demoState ["f","a0","r0","g","x"])) pool ∧
      ∃ made,next.hist.now.tokens.access[(0x6f70615f78 : TokenDigest)]? = some made ∧
        ∃ thread : Thread _ _ _ _,∃ source record,pool.threads[1]? = some thread ∧
          Derived demoDeployment thread.born pool.hist source record made := by
  have played : playThrough exec (fun op h => decide (Fresh op h))
      (demoIssue ++ [.wait demoDeployment 50] ++ (demoExchange 1 "opa_a0").dropLast) 1 []
      (.start (demoState ["f","a0","r0","g","x"])) (fun pool _ next _ =>
        decide (pool.hist.now.tokens.access[(0x6f70615f78 : TokenDigest)]? = none) &&
        next.hist.now.tokens.access[(0x6f70615f78 : TokenDigest)]?.any fun made =>
          decide (∀ record ∈ next.hist.now.tokens.refresh.elements,record.family ≠ made.family) &&
          decide (made.context.provider ≠ ⟨"client_credentials"⟩)) = true := by
    decide
  obtain ⟨pool,op,next,later,path,moved,more,checked⟩ :=
    playThrough_reaches permitted_fresh played
  simp only [Bool.and_eq_true,decide_eq_true_eq] at checked
  obtain ⟨absent,checked⟩ := checked
  obtain ⟨made,stored,checked⟩ := (Option.any_eq_true ..).mp checked
  simp only [Bool.and_eq_true,decide_eq_true_eq] at checked
  rcases exchanged_token_own_lifetime rfl path moved absent stored more with
    ⟨other,refresh,present,member⟩ | ⟨service,audience,scopes,senderConstraint,read,machine⟩ |
      ⟨thread,source,record,waiting,derived,-⟩
  · exact absurd member (checked.1 refresh (Map.mem_elements.mpr ⟨other,present⟩))
  · exact absurd (by rw [machine]; rfl) checked.2
  · exact ⟨pool,next,path,made,stored,thread,source,record,waiting,derived⟩

-- Issue `opa_a0`, exchange it for `opa_x` half-way through its life, and revoke its
-- refresh token: `opa_x` is usable when the source is revoked and past its expiry.
theorem exchanged_token_outlives_source :
    ∃ pool : TokenPool,playTokens (demoIssue ++ [.wait demoDeployment 50] ++ demoExchange 1 "opa_a0"
        ++ [.enter _ (.revoke "opr_r0"),.act 2,.act 2,.wait demoDeployment 70])
        (demoState ["f","a0","r0","g","x"]) = some pool ∧
      TokenRuns demoDeployment (.start (demoState ["f","a0","r0","g","x"])) pool ∧
      ∃ source derived,pool.hist.now.tokens.access[(0x6f70615f6130 : TokenDigest)]? = some source ∧
        pool.hist.now.tokens.access[(0x6f70615f78 : TokenDigest)]? = some derived ∧
        (∀ record ∈ pool.hist.now.tokens.refresh.elements,record.family = source.family ∧ record.state = .revoked) ∧
        source.state = .revoked ∧ source.expiresAt < pool.hist.now.clock ∧
        derived.usableAt pool.hist.now.clock = true := by
  have played : (playTokens (demoIssue ++ [.wait demoDeployment 50] ++ demoExchange 1 "opa_a0"
      ++ [.enter _ (.revoke "opr_r0"),.act 2,.act 2,.wait demoDeployment 70])
      (demoState ["f","a0","r0","g","x"])).any (fun pool =>
        pool.hist.now.tokens.access[(0x6f70615f6130 : TokenDigest)]?.any fun source =>
          pool.hist.now.tokens.access[(0x6f70615f78 : TokenDigest)]?.any fun derived =>
            decide (∀ record ∈ pool.hist.now.tokens.refresh.elements,
              record.family = source.family ∧ record.state = .revoked) &&
            decide (source.state = .revoked) && decide (source.expiresAt < pool.hist.now.clock) &&
            derived.usableAt pool.hist.now.clock) = true := by
    decide
  obtain ⟨pool,reached,checked⟩ := (Option.any_eq_true ..).mp played
  obtain ⟨source,stored,checked⟩ := (Option.any_eq_true ..).mp checked
  obtain ⟨derived,made,checked⟩ := (Option.any_eq_true ..).mp checked
  simp only [Bool.and_eq_true,decide_eq_true_eq] at checked
  obtain ⟨⟨⟨dead,revoked⟩,expired⟩,usable⟩ := checked
  exact ⟨pool,reached,play_runs permitted_fresh reached,source,derived,stored,made,dead,
    revoked,expired,usable⟩

end OpenProof.TokenLineage
