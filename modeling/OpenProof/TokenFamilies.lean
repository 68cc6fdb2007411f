import OpenProof.TokenActs

namespace OpenProof.TokenFamilies
open AtomicPrograms Foundation World Services TokenActs
open Tokens Tokens.RefreshTokenRecord

variable {d : Deployment} {store : TokenStore} {lifetime : Duration} {family : TokenFamilyId} {last : Nat}

-- The refresh records of one family: sequence numbers 0..last without repetition,
-- everything before the last one retired, and one expiry fixed by the first issue.
structure FamilyShape (lifetime : Duration) (store : TokenStore) (family : TokenFamilyId)
    (last : Nat) : Prop where
  present : ∀ n ≤ last,∃ (key : TokenDigest) (record : RefreshTokenRecord),
    store.refresh[key]? = some record ∧ record.family = family ∧ record.sequence = n
  bounded : ∀ (key : TokenDigest) (record : RefreshTokenRecord),store.refresh[key]? = some record →
    record.family = family → record.sequence ≤ last
  distinct : ∀ (one two : TokenDigest) (a b : RefreshTokenRecord),store.refresh[one]? = some a →
    store.refresh[two]? = some b → a.family = family → b.family = family →
      a.sequence = b.sequence → one = two
  retired : ∀ (key : TokenDigest) (record : RefreshTokenRecord),store.refresh[key]? = some record →
    record.family = family → record.sequence ≠ last → record.state ≠ .active
  expiry : ∃ (key : TokenDigest) (first : RefreshTokenRecord),store.refresh[key]? = some first ∧
    first.family = family ∧ first.sequence = 0 ∧
      ∀ (key : TokenDigest) (record : RefreshTokenRecord),store.refresh[key]? = some record →
        record.family = family → record.expiresAt = first.issuedAt+lifetime

def Shaped (lifetime : Duration) (store : TokenStore) : Prop :=
  ∀ (key : TokenDigest) (record : RefreshTokenRecord),store.refresh[key]? = some record →
    ∃ last,FamilyShape lifetime store record.family last

structure Untouched (family : TokenFamilyId) (before after : TokenStore) : Prop where
  kept : ∀ (key : TokenDigest) (record : RefreshTokenRecord),before.refresh[key]? = some record →
    ∃ now,after.refresh[key]? = some now ∧ SameGrant record now
  old : ∀ (key : TokenDigest) (record : RefreshTokenRecord),after.refresh[key]? = some record →
    record.family = family → ∃ before_,before.refresh[key]? = some before_ ∧ SameGrant before_ record ∧
      (before_.state ≠ .active → record.state ≠ .active)

theorem FamilyShape.transfer (shape : FamilyShape lifetime store family last) (same : Untouched family store after) : FamilyShape lifetime after family last where
  present n within := by
    obtain ⟨key,record,stored,member,numbered⟩ := shape.present n within
    obtain ⟨now,present,grant⟩ := same.kept key record stored
    exact ⟨key,now,present,grant.family.trans member,grant.sequence.trans numbered⟩
  bounded key record stored member := by
    obtain ⟨before,present,grant,-⟩ := same.old key record stored member
    rw [grant.sequence]
    exact shape.bounded key before present (grant.family ▸ member)
  distinct one two a b storedA storedB memberA memberB equal := by
    obtain ⟨beforeA,presentA,grantA,-⟩ := same.old one a storedA memberA
    obtain ⟨beforeB,presentB,grantB,-⟩ := same.old two b storedB memberB
    refine shape.distinct one two beforeA beforeB presentA presentB (grantA.family ▸ memberA)
      (grantB.family ▸ memberB) ?_
    rw [← grantA.sequence,← grantB.sequence]
    exact equal
  retired key record stored member early := by
    obtain ⟨before,present,grant,dead⟩ := same.old key record stored member
    exact dead (shape.retired key before present (grant.family ▸ member) (grant.sequence ▸ early))
  expiry := by
    obtain ⟨key,first,stored,member,zero,all⟩ := shape.expiry
    obtain ⟨now,present,grant⟩ := same.kept key first stored
    refine ⟨key,now,present,grant.family.trans member,grant.sequence.trans zero,?_⟩
    intro other record found belongs
    obtain ⟨before,was,same',-⟩ := same.old other record found belongs
    rw [same'.expiresAt,grant.issuedAt]
    exact all other before was (same'.family ▸ belongs)

theorem Untouched.refl (family : TokenFamilyId) (store : TokenStore) : Untouched family store store where
  kept _ record stored := ⟨record,stored,.refl record⟩
  old _ record stored _ := ⟨record,stored,.refl record,id⟩

theorem untouched_retire (store : TokenStore) (target : TokenFamilyId) (at_ : Instant)
    (family : TokenFamilyId) : Untouched family store (store.revokeRecords target at_) where
  kept key record stored := by
    refine ⟨if record.family = target then record.revoke at_ else record,?_,?_⟩
    · simp [TokenStore.revokeRecords,stored]
    · split
      · exact record.revoke_same at_
      · exact .refl record
  old key record stored _ := by
    obtain ⟨before,present,rfl⟩ := revokeRecords_refresh stored
    refine ⟨before,present,?_⟩
    split
    · exact ⟨before.revoke_same at_,fun _ => by simp⟩
    · exact ⟨.refl before,id⟩

theorem untouched_insert (unseen : store.refresh[key]? = none) (other : record.family ≠ family) :
    Untouched family store ⟨access,store.refresh.insert key record⟩ where
  kept at_ before stored := by
    have apart : key ≠ at_ := by
      rintro rfl
      rw [unseen] at stored
      cases stored
    exact ⟨before,by simp only [Map.find_insert,apart,if_false,stored],.refl before⟩
  old at_ after stored member := by
    obtain ⟨-,rfl⟩ | stored := Map.insert_cases stored
    · exact absurd member other
    · exact ⟨after,stored,.refl after,id⟩

theorem untouched_replace (stored : store.refresh[key]? = some found) (same : SameGrant found record)
    (dead : record.state ≠ .active) : Untouched family store ⟨access,store.refresh.insert key record⟩ where
  kept at_ before present := by
    by_cases here : key = at_
    · subst here
      rw [stored] at present
      cases present
      exact ⟨record,by simp only [Map.find_insert,if_true],same⟩
    · exact ⟨before,by simp only [Map.find_insert,here,if_false,present],.refl before⟩
  old at_ after present member := by
    obtain ⟨rfl,rfl⟩ | present := Map.insert_cases present
    · exact ⟨found,stored,same,fun _ => dead⟩
    · exact ⟨after,present,.refl after,id⟩

theorem Untouched.trans (one : Untouched family store middle) (two : Untouched family middle after) : Untouched family store after where
  kept key record stored := by
    obtain ⟨now,present,same⟩ := one.kept key record stored
    obtain ⟨later,there,further⟩ := two.kept key now present
    exact ⟨later,there,same.trans further⟩
  old key record stored member := by
    obtain ⟨middle_,present,further,dies⟩ := two.old key record stored member
    obtain ⟨before,there,same,died⟩ := one.old key middle_ present (further.family ▸ member)
    exact ⟨before,there,same.trans further,fun dead => dies (died dead)⟩

theorem shape_first (new : ∀ (key : TokenDigest) (other : RefreshTokenRecord),store.refresh[key]? = some other →
      other.family ≠ record.family)
    (zero : record.sequence = 0) (timed : record.expiresAt = record.issuedAt+lifetime) :
    FamilyShape lifetime ⟨access,store.refresh.insert key record⟩ record.family 0 := by
  have only : ∀ (at_ : TokenDigest) (other : RefreshTokenRecord),
      (store.refresh.insert key record)[at_]? = some other → other.family = record.family →
        at_ = key ∧ other = record := by
    intro at_ other stored member
    obtain ⟨same,rfl⟩ | stored := Map.insert_cases stored
    · exact ⟨same.symm,rfl⟩
    · exact absurd member (new at_ other stored)
  have here : (store.refresh.insert key record)[key]? = some record := by
    simp only [Map.find_insert,if_true]
  refine ⟨?_,?_,?_,?_,⟨key,record,here,rfl,zero,?_⟩⟩
  · intro n within
    exact ⟨key,record,here,rfl,by omega⟩
  · intro at_ other stored member
    rw [(only at_ other stored member).2,zero]
  · intro one two a b storedA storedB memberA memberB _
    rw [(only one a storedA memberA).1,(only two b storedB memberB).1]
  · intro at_ other stored member later
    rw [(only at_ other stored member).2] at later
    exact absurd zero later
  · intro at_ other stored member
    rw [(only at_ other stored member).2]
    exact timed

theorem FamilyShape.extend (shape : FamilyShape lifetime store family last)
    (unseen : store.refresh[key]? = none) (member : record.family = family) (next : record.sequence = last+1)
    (dead : ∀ (key : TokenDigest) (other : RefreshTokenRecord),store.refresh[key]? = some other →
      other.family = family → other.state ≠ .active)
    (inherits : ∃ (key : TokenDigest) (other : RefreshTokenRecord),store.refresh[key]? = some other ∧
      other.family = family ∧ record.expiresAt = other.expiresAt) :
    FamilyShape lifetime ⟨access,store.refresh.insert key record⟩ family (last+1) := by
  have here : (store.refresh.insert key record)[key]? = some record := by
    simp only [Map.find_insert,if_true]
  have kept : ∀ (at_ : TokenDigest) (other : RefreshTokenRecord),store.refresh[at_]? = some other →
      (store.refresh.insert key record)[at_]? = some other := by
    intro at_ other stored
    have apart : key ≠ at_ := by
      rintro rfl
      rw [unseen] at stored
      cases stored
    simp only [Map.find_insert,apart,if_false,stored]
  refine ⟨?_,?_,?_,?_,?_⟩
  · intro n within
    rcases Nat.lt_or_ge last n with new | old
    · exact ⟨key,record,here,member,by omega⟩
    · obtain ⟨at_,other,stored,belongs,numbered⟩ := shape.present n old
      exact ⟨at_,other,kept at_ other stored,belongs,numbered⟩
  · intro at_ other stored belongs
    rcases Map.insert_cases stored with ⟨-,rfl⟩ | old
    · omega
    · exact Nat.le_succ_of_le (shape.bounded at_ other old belongs)
  · intro one two a b storedA storedB memberA memberB equal
    rcases Map.insert_cases storedA with ⟨rfl,rfl⟩ | oldA <;> rcases Map.insert_cases storedB with ⟨rfl,rfl⟩ | oldB
    · rfl
    · have := shape.bounded two b oldB memberB
      omega
    · have := shape.bounded one a oldA memberA
      omega
    · exact shape.distinct one two a b oldA oldB memberA memberB equal
  · intro at_ other stored belongs early
    rcases Map.insert_cases stored with ⟨-,rfl⟩ | old
    · exact absurd next early
    · exact dead at_ other old belongs
  · obtain ⟨first,origin,stored,belongs,zero,all⟩ := shape.expiry
    obtain ⟨from_,other,present,related,same⟩ := inherits
    refine ⟨first,origin,kept first origin stored,belongs,zero,?_⟩
    intro at_ found there owned
    rcases Map.insert_cases there with ⟨-,rfl⟩ | old
    · rw [same]
      exact all from_ other present related
    · exact all at_ found old owned

theorem Shaped.of_untouched (shaped : Shaped lifetime store) (same : ∀ family,Untouched family store after) : Shaped lifetime after := by
  intro key record stored
  obtain ⟨before,present,grant,-⟩ := (same record.family).old key record stored rfl
  obtain ⟨last,shape⟩ := shaped key before present
  exact ⟨last,(grant.family ▸ shape).transfer (same record.family)⟩

theorem shaped_rotate (shaped : Shaped lifetime store) (present : store.refresh[presented]? = some found)
    (usable : found.usableAt at_ = true) (unseen : store.refresh[key]? = none)
    (member : record.family = found.family) (next : record.sequence = found.sequence+1)
    (inherits : record.expiresAt = found.expiresAt) : Shaped lifetime
      ⟨access,(store.refresh.insert presented (found.markUsed at_)).insert key record⟩ := by
  have apart : presented ≠ key := by
    rintro rfl
    rw [unseen] at present
    cases present
  let marked : TokenStore := ⟨access,store.refresh.insert presented (found.markUsed at_)⟩
  have used : marked.refresh[presented]? = some (found.markUsed at_) := by
    simp only [marked,Map.find_insert,if_true]
  have unseenMarked : marked.refresh[key]? = none := by
    simp only [marked,Map.find_insert,apart,if_false,unseen]
  have same : ∀ family,Untouched family store marked := fun family =>
    untouched_replace present (found.markUsed_same at_) (found.markUsed_state at_)
  obtain ⟨last,shape⟩ := shaped presented found present
  have newest : found.sequence = last := by
    by_contra early
    exact shape.retired presented found present rfl early (by simp_all [RefreshTokenRecord.usableAt])
  have shapeMarked := shape.transfer (same found.family)
  have dead : ∀ (at_ : TokenDigest) (other : RefreshTokenRecord),marked.refresh[at_]? = some other →
      other.family = found.family → other.state ≠ .active := by
    intro other_ other stored belongs
    by_cases numbered : other.sequence = last
    · have here := shapeMarked.distinct other_ presented other _ stored used belongs
        (found.markUsed_same at_).family (by rw [numbered,(found.markUsed_same at_).sequence,newest])
      rw [here,used] at stored
      cases stored
      exact found.markUsed_state at_
    · exact shapeMarked.retired other_ other stored belongs numbered
  have extended : FamilyShape lifetime ⟨access,marked.refresh.insert key record⟩ found.family (last+1) :=
    shapeMarked.extend unseenMarked member (by rw [next,newest]) dead
      ⟨presented,_,used,(found.markUsed_same at_).family,
        by rw [inherits,(found.markUsed_same at_).expiresAt]⟩
  intro target after stored
  by_cases same_ : after.family = found.family
  · exact ⟨last+1,same_ ▸ extended⟩
  · have through : Untouched after.family store ⟨access,marked.refresh.insert key record⟩ :=
      (same after.family).trans (untouched_insert unseenMarked (member ▸ Ne.symm same_))
    obtain ⟨before,was,grant,-⟩ := through.old target after stored rfl
    obtain ⟨final,shapeOther⟩ := shaped target before was
    exact ⟨final,(grant.family ▸ shapeOther).transfer through⟩

theorem shaped_act (acted : Act d born h store) (shaped : Shaped d.refreshLifetime h.now.tokens) :
    Shaped d.refreshLifetime store := by
  cases acted with
  | keep => exact shaped
  | initial context family at_ accessDigest refreshDigest new accessUnseen refreshUnseen apart =>
    intro key record stored
    obtain ⟨-,rfl⟩ | stored := Map.insert_cases stored
    · exact ⟨0,shape_first new.2 rfl rfl⟩
    · obtain ⟨last,shape⟩ := shaped key record stored
      exact ⟨last,shape.transfer (untouched_insert refreshUnseen.2 (new.2 key record stored).symm)⟩
  | machine => exact shaped.of_untouched fun family => ⟨(Untouched.refl family _).1,(Untouched.refl family _).2⟩
  | rotate presented found at_ accessDigest refreshDigest present usable accessUnseen refreshUnseen apart =>
    exact shaped_rotate shaped present usable refreshUnseen.2 rfl rfl rfl
  | retire family at_ => exact shaped.of_untouched (untouched_retire h.now.tokens family at_)
  | retireAccess => exact shaped.of_untouched fun family => ⟨(Untouched.refl family _).1,(Untouched.refl family _).2⟩

theorem stable_shaped : Stable (rely d) fun h => Shaped d.refreshLifetime h.now.tokens :=
  fun _ _ ⟨_,acted⟩ shaped => shaped_act acted shaped

theorem shaped_empty : Shaped lifetime .empty := by
  intro key record stored
  simp [TokenStore.empty] at stored

def Belongs (store : TokenStore) (family : TokenFamilyId) (key : TokenDigest)
    (record : RefreshTokenRecord) : Prop := store.refresh[key]? = some record ∧ record.family = family

-- Whatever calls overlap, a family is a chain: one number per rotation, at most one
-- live end, and the expiry its first issue gave it.
theorem refresh_family_chain {w : State} {pool : TokenPool} (empty : w.tokens = .empty)
    (path : TokenRuns d (.start w) pool) (family : TokenFamilyId)
    (inhabited : ∃ key record,Belongs pool.hist.now.tokens family key record) : ∃ last,
      (∀ n,(∃ key record,Belongs pool.hist.now.tokens family key record ∧ record.sequence = n) ↔ n ≤ last) ∧
      (∀ one two a b,Belongs pool.hist.now.tokens family one a →
        Belongs pool.hist.now.tokens family two b → a.sequence = b.sequence → one = two) ∧
      (∀ one two a b,Belongs pool.hist.now.tokens family one a →
        Belongs pool.hist.now.tokens family two b → a.state = .active → b.state = .active → one = two) ∧
      (∀ key record,Belongs pool.hist.now.tokens family key record → record.sequence ≠ last →
        record.state = .used ∨ record.state = .revoked) ∧
      ∃ key first,Belongs pool.hist.now.tokens family key first ∧ first.sequence = 0 ∧
        ∀ key record,Belongs pool.hist.now.tokens family key record →
          record.expiresAt = first.issuedAt+d.refreshLifetime := by
  have shaped : Shaped d.refreshLifetime pool.hist.now.tokens :=
    invariant stable_shaped empty (by simpa [empty] using shaped_empty) path
  obtain ⟨key,record,stored,rfl⟩ := inhabited
  obtain ⟨last,shape⟩ := shaped key record stored
  have newest : ∀ key member,Belongs pool.hist.now.tokens record.family key member → member.state = .active →
      member.sequence = last := by
    rintro key member ⟨present,belongs⟩ active
    by_contra early
    exact shape.retired key member present belongs early active
  refine ⟨last,fun n => ⟨?_,?_⟩,?_,?_,?_,?_⟩
  · rintro ⟨key,member,⟨present,belongs⟩,rfl⟩
    exact shape.bounded key member present belongs
  · intro within
    obtain ⟨key,member,present,belongs,numbered⟩ := shape.present n within
    exact ⟨key,member,⟨present,belongs⟩,numbered⟩
  · intro one two a b memberA memberB
    exact shape.distinct one two a b memberA.1 memberB.1 memberA.2 memberB.2
  · intro one two a b memberA memberB activeA activeB
    refine shape.distinct one two a b memberA.1 memberB.1 memberA.2 memberB.2 ?_
    rw [newest one a memberA activeA,newest two b memberB activeB]
  · intro key member belongs early
    have dead := shape.retired key member belongs.1 belongs.2 early
    cases state : member.state with
    | active => exact absurd state dead
    | used => exact .inl rfl
    | revoked => exact .inr rfl
  · obtain ⟨key,first,present,belongs,zero,all⟩ := shape.expiry
    exact ⟨key,first,⟨present,belongs⟩,zero,fun key member owned => all key member owned.1 owned.2⟩

theorem refresh_family_chain_overlapping :
    ∃ pool : TokenPool,TokenRuns demoDeployment (.start (demoState ["f","a0","r0","a1","r1","a2","r2"])) pool ∧
      (pool.hist.now.tokens.refresh.elements.map fun record => (record.sequence,record.state)) =
        [(0,.revoked),(1,.revoked)] ∧
      ∃ last,∀ n,(∃ key record,Belongs pool.hist.now.tokens ⟨"f"⟩ key record ∧ record.sequence = n) ↔ n ≤ last := by
  have played : (playTokens (demoIssue ++ demoRefresh 1 3 "opr_r0" ++ demoRefresh 2 3 "opr_r0"
      ++ List.replicate 4 (.act 1) ++ List.replicate 4 (.act 2))
      (demoState ["f","a0","r0","a1","r1","a2","r2"])).any (fun pool =>
        (pool.hist.now.tokens.refresh.elements.map fun record => (record.sequence,record.state)) ==
          [(0,.revoked),(1,.revoked)] &&
        pool.hist.now.tokens.refresh.toList.any fun entry => entry.2.family == ⟨"f"⟩) = true := by
    decide
  obtain ⟨pool,path,checked⟩ := playTokens_reaches played
  simp only [Bool.and_eq_true,beq_iff_eq,List.any_eq_true] at checked
  obtain ⟨shown,⟨key,record⟩,member,named⟩ := checked
  rw [Std.ExtTreeMap.mem_toList_iff_getElem?_eq_some] at member
  obtain ⟨last,numbers,-⟩ := refresh_family_chain rfl path ⟨"f"⟩ ⟨key,record,member,named⟩
  exact ⟨pool,path,shown,last,numbers⟩

end OpenProof.TokenFamilies
