import OpenProof.OAuthRuns

namespace OpenProof.ConsentGate
open AtomicPrograms Foundation World Services OAuthActs OAuthCalls OAuthRuns
open Authorizations Http

variable {d : Deployment} {h : History State}

def UriFresh : Op → History State → Prop
  | .pushed (.add pushed),h => ∀ w ∈ h.worlds,w.pushed[pushed.digest]? = none
  | _,_ => True

def PushedOnce (h : History State) : Prop :=
  ∀ v ∈ h.worlds,∀ w ∈ h.worlds,∀ (key : PushedRequestDigest) (one two : PushedAuthorizationRequest),
    v.pushed[key]? = some one → w.pushed[key]? = some two → one = two

theorem pushedOnce_start (w : State) : PushedOnce ⟨w,[]⟩ := by
  intro v first u second key one two stored again
  cases List.mem_singleton.mp first
  cases List.mem_singleton.mp second
  exact Option.some.inj (stored.symm.trans again)

theorem acts_pushed_once (acted : Acts UriFresh born h w) (once : PushedOnce h) (member : v ∈ h.worlds)
    {key : PushedRequestDigest} (stored : v.pushed[key]? = some one) (present : w.pushed[key]? = some two) : one = two := by
  rcases acted.pushed key two present with old | ⟨rfl,fresh,_⟩
  · exact once v member h.now h.now_mem_worlds key one two stored old
  · rw [fresh v member] at stored
    cases stored

theorem stable_pushedOnce : Stable (rely UriFresh) PushedOnce := by
  rintro h w ⟨born,acted⟩ once v first u second key one two stored again
  rcases List.mem_cons.mp first with rfl | first <;> rcases List.mem_cons.mp second with rfl | second
  · exact Option.some.inj (stored.symm.trans again)
  · exact (acts_pushed_once acted once second again stored).symm
  · exact acts_pushed_once acted once first stored again
  · exact once v first u second key one two stored again

theorem Taken.same (taken : Taken born asked final h) (once : PushedOnce h) : final = asked := by
  rcases taken with same | ⟨key,found,consumed,⟨_,v,first,stored⟩,rfl,⟨_,w,second,again⟩,rfl⟩
  · exact same
  · rw [once v (h.recent_subset born first) w (h.recent_subset born second) key found consumed stored again]

theorem Issued.consented (issued : Issued born h code) (once : PushedOnce h) :
    Witnessed born (fun w => Consented w code.identity code.clientId code.resource code.scopes) h ∧
      Witnessed born (fun w => Admitted w code.clientId code.redirectUri code.scopes) h := by
  cases issued with
  | intro asked final same taken client consent resource =>
    cases Taken.same taken once
    rw [← same.clientId,← same.resource,← same.scopes] at consent
    exact ⟨consent,client⟩

theorem code_needs_consent {w : State} {pool next : OAuthPool} {i : Nat} {op : Op} {key : CodeDigest}
    {code : AuthorizationCode} (tidy : Tidy w.clients w.resources)
    (path : OAuthRun d UriFresh (Pool.start w) pool) (moved : OAuthStep d UriFresh pool (.act i op) next)
    (absent : pool.hist.now.codes[key]? ≠ some code) (present : next.hist.now.codes[key]? = some code) :
    ∃ thread,pool.threads[i]? = some thread ∧
      Witnessed thread.born (fun w => Consented w code.identity code.clientId code.resource code.scopes) pool.hist ∧
      Witnessed thread.born (fun w => Admitted w code.clientId code.redirectUri code.scopes) pool.hist := by
  obtain ⟨thread,waiting,_,acted⟩ := (sound tidy path).acted moved
  refine ⟨thread,waiting,?_⟩
  have once := (grows tidy path).keep stable_pushedOnce (pushedOnce_start w)
  rcases acted.codes key code present with old | issued
  · exact absurd old absent
  · exact Issued.consented issued once

instance : (op : Op) → (h : History State) → Decidable (UriFresh op h)
  | .pushed (.add pushed),h => inferInstanceAs (Decidable (∀ w ∈ h.worlds,w.pushed[pushed.digest]? = none))
  | .pushed (.find ..),_ | .pushed (.consume ..),_ => .isTrue trivial
  | .now,_ | .random _,_ | .surrounding _,_ | .identity _,_ | .application _,_ | .client _,_
  | .resource _,_ | .consent _,_ | .code _,_ | .device _,_ | .jar _,_ | .token _,_ => .isTrue trivial

def demoRevocation : HttpRequest := demoPost "/oauth/consents/revoke" "consent_id=opcns_g1&csrf=c"

-- The consent is given, revoked by another request, and only then the code is issued.
theorem code_needs_consent_revoked : ∃ (pool next : OAuthPool) (key : CodeDigest) (code : AuthorizationCode),
      OAuthRun TokenActs.demoDeployment UriFresh (.start (demoProcess ["g1","k1"])) pool ∧
      next.hist.now.codes[key]? = some code ∧
      (next.hist.now.consents.elements.all fun grant => grant.revokedAt.isSome) = true ∧
      ∃ thread : Thread _ _ _ _,pool.threads[0]? = some thread ∧
        Witnessed thread.born (fun w => Consented w code.identity code.clientId code.resource code.scopes) pool.hist ∧
        Witnessed thread.born (fun w => Admitted w code.clientId code.redirectUri code.scopes) pool.hist := by
  have played : playThrough exec (fun op h => decide (UriFresh op h))
      (.send _ demoApproval (by decide) :: List.replicate 11 (.act 0)
        ++ .send _ demoRevocation (by decide) :: List.replicate 4 (.act 1)
        ++ List.replicate 4 (.act 0) : List (OAuthMove TokenActs.demoDeployment)) 0 []
      (.start (demoProcess ["g1","k1"])) (fun pool _ next _ =>
        pool.hist.now.codes.elements.isEmpty && !next.hist.now.codes.elements.isEmpty
          && next.hist.now.consents.elements.all fun grant => grant.revokedAt.isSome) = true := by
    decide +kernel
  obtain ⟨pool,op,next,later,path,moved,_,checked⟩ :=
    playThrough_reaches (fun _ _ => of_decide_eq_true) played
  simp only [Bool.and_eq_true,Bool.not_eq_true',List.isEmpty_iff,List.isEmpty_eq_false_iff] at checked
  obtain ⟨⟨before,after⟩,revoked⟩ := checked
  obtain ⟨code,listed⟩ := List.exists_mem_of_ne_nil _ after
  obtain ⟨key,present⟩ := Map.mem_elements.mp listed
  have absent : pool.hist.now.codes[key]? ≠ some code := by
    intro stored
    have member := Map.mem_elements.mpr ⟨key,stored⟩
    rw [before] at member
    cases member
  exact ⟨pool,next,key,code,path,present,revoked,code_needs_consent (tidy_demo _) path moved absent present⟩

end OpenProof.ConsentGate
