import Mathlib.Data.List.Sort
import OpenProof.OneTimeCodes
import OpenProof.TotpWorld

namespace OpenProof.RecoveryCodeRuns
open Foundation OneTimeCodes Accounts.LocalAccounts Identities TotpWorld

def sortDigests (digests : List Sha256Digest) : List Sha256Digest := digests.insertionSort fun a b => a.toNat ≤ b.toNat

-- `InMemoryRecoveryCodeRepository`; each method holds the mutex while it touches the map.
namespace InMemoryRecoveryCodeRepository
variable (identity : IdentityId)

def replace (digests : List Sha256Digest) (codes : RecoveryCodes) : Result Unit × RecoveryCodes :=
  if identity.empty || digests.length > 64 then
    (fail .invalidArgument "The recovery-code replacement is invalid.",codes)
  else
    let sorted := sortDigests digests
    if adjacentEqual sorted then (fail .invalidArgument "Recovery-code digests must be unique.",codes)
    else if sorted.isEmpty then (.ok (),codes.erase identity)
    else (.ok (),codes.insert identity sorted)

def consume (digest : Sha256Digest) (codes : RecoveryCodes) : Result Unit × RecoveryCodes :=
  match codes[identity]? with
  | none => (.error (authenticationFailure "No recovery-code set exists."),codes)
  | some found =>
    if found.contains digest then (.ok (),codes.insert identity (found.erase digest))
    else (.error (authenticationFailure "Recovery code did not verify."),codes)

def remaining (codes : RecoveryCodes) : Result Nat :=
  match codes[identity]? with
  | none => .ok 0
  | some found => .ok found.length

end InMemoryRecoveryCodeRepository

-- `RecoveryCodeService`; `hmacSha256` is keyed with its pepper, and `drawn` is what the random
-- generator returns to each round of an issue.
namespace RecoveryCodeService
open InMemoryRecoveryCodeRepository
variable (hmacSha256 : Text → Result Sha256Digest)

def drawCodes (drawn : Nat → Result Text) : List Nat → Result (List (Text × Sha256Digest))
  | [] => .ok []
  | index :: later => do
    let code ← drawn index
    let fingerprint ← hmacSha256 code
    let rest ← drawCodes drawn later
    .ok ((code,fingerprint) :: rest)

def issue (identity : IdentityId) (count : Nat) (drawn : Nat → Result Text) (codes : RecoveryCodes) :
    Result (List Text) × RecoveryCodes :=
  if identity.empty || count = 0 || count > 32 then
    (fail .invalidArgument "Recovery-code issuance parameters are invalid.",codes)
  else match drawCodes hmacSha256 drawn (List.range count) with
    | .error e => (.error e,codes)
    | .ok pairs =>
      match replace identity (pairs.map Prod.snd) codes with
      | (.error e,left) => (.error e,left)
      | (.ok (),left) => (.ok (pairs.map Prod.fst),left)

def consume (identity : IdentityId) (presented : Text) (codes : RecoveryCodes) : Result Unit × RecoveryCodes :=
  match hmacSha256 presented with
  | .error e => (.error e,codes)
  | .ok fingerprint => InMemoryRecoveryCodeRepository.consume identity fingerprint codes

def revoke (identity : IdentityId) (codes : RecoveryCodes) : Result Unit × RecoveryCodes :=
  if identity.empty then (fail .invalidArgument "Recovery-code revocation requires an identity.",codes)
  else replace identity [] codes

theorem revoke_same (identity : IdentityId) (codes : RecoveryCodes) :
    revoke identity codes = TotpWorld.revoke identity codes := by
  unfold revoke TotpWorld.revoke replace
  split
  · rfl
  · rename_i named
    simp [named,sortDigests,adjacentEqual]

end RecoveryCodeService

inductive RecoveryCall where
  | issue (identity : IdentityId) (count : Nat) (drawn : Nat → Result Text)
  | consume (identity : IdentityId) (presented : Text)
  | revoke (identity : IdentityId)

namespace RecoveryCall
variable (hmacSha256 : Text → Result Sha256Digest)

def leave (call : RecoveryCall) (codes : RecoveryCodes) : RecoveryCodes :=
  match call with
  | .issue identity count drawn => (RecoveryCodeService.issue hmacSha256 identity count drawn codes).2
  | .consume identity presented => (RecoveryCodeService.consume hmacSha256 identity presented codes).2
  | .revoke identity => (RecoveryCodeService.revoke identity codes).2

def event (call : RecoveryCall) (codes : RecoveryCodes) : Option (Event IdentityId Text) :=
  match call with
  | .issue identity count drawn =>
    ((RecoveryCodeService.issue hmacSha256 identity count drawn codes).1.toOption).map (.issued identity)
  | .consume identity presented =>
    ((RecoveryCodeService.consume hmacSha256 identity presented codes).1.toOption).map fun _ =>
      .consumed identity presented
  | .revoke identity => ((RecoveryCodeService.revoke identity codes).1.toOption).map fun _ => .revoked identity

def drawnCodes : RecoveryCall → List Text
  | .issue _ count drawn => (List.range count).filterMap fun index => (drawn index).toOption
  | .consume .. => []
  | .revoke _ => []

def presented : RecoveryCall → List Text
  | .issue .. => []
  | .consume _ code => [code]
  | .revoke _ => []

end RecoveryCall

structure Run where
  codes : RecoveryCodes
  events : List (Event IdentityId Text)

def serve (hmacSha256 : Text → Result Sha256Digest) (run : Run) (call : RecoveryCall) : Run :=
  ⟨call.leave hmacSha256 run.codes,run.events ++ (call.event hmacSha256 run.codes).toList⟩

def runOf (hmacSha256 : Text → Result Sha256Digest) (calls : List RecoveryCall) : Run :=
  calls.foldl (serve hmacSha256) ⟨∅,[]⟩

structure Fresh (hmacSha256 : Text → Result Sha256Digest) (calls : List RecoveryCall) : Prop where
  distinct : (calls.flatMap RecoveryCall.drawnCodes).Nodup
  apart : ∀ one ∈ calls.flatMap RecoveryCall.drawnCodes,
    ∀ two ∈ calls.flatMap RecoveryCall.drawnCodes ++ calls.flatMap RecoveryCall.presented,∀ digest,
      hmacSha256 one = .ok digest → hmacSha256 two = .ok digest → one = two

def stored (identity : IdentityId) (codes : RecoveryCodes) : List Sha256Digest := codes[identity]?.getD []

section
variable {identity : IdentityId} {codes : RecoveryCodes}

theorem remaining_stored : InMemoryRecoveryCodeRepository.remaining identity codes = .ok (stored identity codes).length := by
  unfold InMemoryRecoveryCodeRepository.remaining stored
  cases codes[identity]? <;> rfl

theorem replace_cases (identity : IdentityId) (digests : List Sha256Digest) (codes : RecoveryCodes) :
    (∃ e,InMemoryRecoveryCodeRepository.replace identity digests codes = (.error e,codes)) ∨
      ∃ left,InMemoryRecoveryCodeRepository.replace identity digests codes = (.ok (),left) ∧
        ∀ other,stored other left = if identity = other then sortDigests digests else stored other codes := by
  unfold InMemoryRecoveryCodeRepository.replace
  split
  · exact .inl ⟨_,rfl⟩
  · dsimp only
    split
    · exact .inl ⟨_,rfl⟩
    · split
      · rename_i empty
        refine .inr ⟨_,rfl,fun other => ?_⟩
        rw [stored,Map.find_erase,List.isEmpty_iff.mp empty]
        split <;> rfl
      · refine .inr ⟨_,rfl,fun other => ?_⟩
        rw [stored,Map.find_insert]
        split <;> rfl

theorem consume_cases (identity : IdentityId) (digest : Sha256Digest) (codes : RecoveryCodes) :
    (∃ e,InMemoryRecoveryCodeRepository.consume identity digest codes = (.error e,codes)) ∨
      digest ∈ stored identity codes ∧ ∃ left,InMemoryRecoveryCodeRepository.consume identity digest codes = (.ok (),left) ∧
        ∀ other,stored other left =
          if identity = other then (stored identity codes).erase digest else stored other codes := by
  unfold InMemoryRecoveryCodeRepository.consume
  split
  · exact .inl ⟨_,rfl⟩
  · rename_i found there
    have same : stored identity codes = found := by simp [stored,there]
    split
    · rename_i inside
      refine .inr ⟨by simpa [same] using inside,_,rfl,fun other => ?_⟩
      rw [same,stored,Map.find_insert]
      split <;> rfl
    · exact .inl ⟨_,rfl⟩

end

section
variable {hmacSha256 : Text → Result Sha256Digest}

def digestOf (hmacSha256 : Text → Result Sha256Digest) (code : Text) : Sha256Digest :=
  (hmacSha256 code).toOption.getD 0

theorem drawCodes_spec (done : RecoveryCodeService.drawCodes hmacSha256 drawn indices = .ok pairs) :
    pairs.map Prod.fst = indices.filterMap (fun index => (drawn index).toOption) ∧
      ∀ pair ∈ pairs,hmacSha256 pair.1 = .ok pair.2 := by
  induction indices generalizing pairs with
  | nil =>
    cases done
    simp
  | cons index later ih =>
    obtain ⟨code,drew,done⟩ := bind_ok done
    obtain ⟨fingerprint,digested,done⟩ := bind_ok done
    obtain ⟨rest,onward,done⟩ := bind_ok done
    cases done
    obtain ⟨codes,digests⟩ := ih onward
    refine ⟨by simp [drew,codes,Except.toOption],?_⟩
    intro pair inside
    rcases List.mem_cons.mp inside with rfl | further
    · exact digested
    · exact digests pair further

-- The store has the digests of what the owners hold, and the successes are lawful.
structure Mirrors (hmacSha256 : Text → Result Sha256Digest) (run : Run) : Prop where
  lawful : Lawful run.events
  digested : ∀ identity,∀ code ∈ held identity run.events,hmacSha256 code = .ok (digestOf hmacSha256 code)
  mirrored : ∀ identity,(stored identity run.codes).Perm ((held identity run.events).map (digestOf hmacSha256))

theorem Mirrors.next (mirrors : Mirrors hmacSha256 run)
    (permitted : ∀ owner code,event = .consumed owner code → code ∈ held owner run.events)
    (digested : ∀ identity,∀ code ∈ event.leave identity (held identity run.events),
      hmacSha256 code = .ok (digestOf hmacSha256 code)) (mirrored : ∀ identity,(stored identity left).Perm
      ((event.leave identity (held identity run.events)).map (digestOf hmacSha256))) :
    Mirrors hmacSha256 ⟨left,run.events ++ [event]⟩ := by
  constructor
  · exact mirrors.lawful.concat permitted
  · intro identity
    rw [held_concat]
    exact digested identity
  · intro identity
    rw [held_concat]
    exact mirrored identity

theorem serve_refused (call : RecoveryCall) (kept : call.leave hmacSha256 run.codes = run.codes)
    (silent : call.event hmacSha256 run.codes = none) : serve hmacSha256 run call = run := by
  simp [serve,kept,silent]

theorem serve_done (call : RecoveryCall) (leaves : call.leave hmacSha256 run.codes = left)
    (told : call.event hmacSha256 run.codes = some event) :
    serve hmacSha256 run call = ⟨left,run.events ++ [event]⟩ := by
  simp [serve,leaves,told]

theorem issue_cases (hmacSha256 : Text → Result Sha256Digest) (identity : IdentityId) (count : Nat) (drawn : Nat → Result Text) (codes : RecoveryCodes) :
    (∃ e,RecoveryCodeService.issue hmacSha256 identity count drawn codes = (.error e,codes)) ∨
      ∃ pairs left,RecoveryCodeService.drawCodes hmacSha256 drawn (List.range count) = .ok pairs ∧
        RecoveryCodeService.issue hmacSha256 identity count drawn codes = (.ok (pairs.map Prod.fst),left) ∧
        ∀ other,stored other left = if identity = other then sortDigests (pairs.map Prod.snd) else stored other codes := by
  unfold RecoveryCodeService.issue
  split
  · exact .inl ⟨_,rfl⟩
  · split
    · exact .inl ⟨_,rfl⟩
    · rename_i pairs drew
      rcases replace_cases identity (pairs.map Prod.snd) codes with ⟨e,same⟩ | ⟨left,same,writes⟩
      · exact .inl ⟨e,by rw [same]⟩
      · exact .inr ⟨pairs,left,drew,by rw [same],writes⟩

theorem issue_mirrors (mirrors : Mirrors hmacSha256 run) (identity : IdentityId) (count : Nat) (drawn : Nat → Result Text) :
    Mirrors hmacSha256 (serve hmacSha256 run (.issue identity count drawn)) ∧
      (issuedCodes (serve hmacSha256 run (.issue identity count drawn)).events).Sublist
        (issuedCodes run.events ++ RecoveryCall.drawnCodes (.issue identity count drawn)) := by
  rcases issue_cases hmacSha256 identity count drawn run.codes with
    ⟨e,same⟩ | ⟨pairs,left,drew,same,writes⟩
  · rw [serve_refused (.issue identity count drawn) (congrArg Prod.snd same) (by simp [RecoveryCall.event,same,Except.toOption])]
    exact ⟨mirrors,List.sublist_append_left _ _⟩
  · obtain ⟨texts,digests⟩ := drawCodes_spec drew
    have digested : ∀ pair ∈ pairs,pair.2 = digestOf hmacSha256 pair.1 := by
      intro pair inside
      simp [digestOf,digests pair inside,Except.toOption]
    rw [serve_done (.issue identity count drawn) (congrArg Prod.snd same) (by simp [RecoveryCall.event,same,Except.toOption]; rfl)]
    refine ⟨mirrors.next (by simp) ?_ ?_,?_⟩
    · intro other code inside
      rw [Event.leave] at inside
      split at inside
      · obtain ⟨pair,among,rfl⟩ := List.mem_map.mp inside
        rw [digests pair among,digested pair among]
      · exact mirrors.digested other code inside
    · intro other
      rw [writes,Event.leave]
      split
      · have pairwise : (pairs.map Prod.fst).map (digestOf hmacSha256) = pairs.map Prod.snd := by
          rw [List.map_map]
          exact List.map_congr_left fun pair inside => (digested pair inside).symm
        rw [pairwise]
        exact List.perm_insertionSort _ _
      · exact mirrors.mirrored other
    · rw [issuedCodes_concat,Event.codes,texts]
      exact .refl _

theorem consume_mirrors (mirrors : Mirrors hmacSha256 run) (identity : IdentityId) (presented : Text)
    (apart : ∀ code ∈ held identity run.events,∀ digest,
      hmacSha256 code = .ok digest → hmacSha256 presented = .ok digest → code = presented) :
    Mirrors hmacSha256 (serve hmacSha256 run (.consume identity presented)) ∧
      issuedCodes (serve hmacSha256 run (.consume identity presented)).events = issuedCodes run.events := by
  cases digested : hmacSha256 presented with
  | error e =>
    rw [serve_refused (.consume identity presented) (by simp [RecoveryCall.leave,RecoveryCodeService.consume,digested])
      (by simp [RecoveryCall.event,RecoveryCodeService.consume,digested,Except.toOption])]
    exact ⟨mirrors,rfl⟩
  | ok fingerprint =>
    rcases consume_cases identity fingerprint run.codes with ⟨e,same⟩ | ⟨inside,left,same,writes⟩
    · rw [serve_refused (.consume identity presented) (by simp [RecoveryCall.leave,RecoveryCodeService.consume,digested,same])
        (by simp [RecoveryCall.event,RecoveryCodeService.consume,digested,same,Except.toOption])]
      exact ⟨mirrors,rfl⟩
    · rw [(mirrors.mirrored identity).mem_iff] at inside
      obtain ⟨code,there,rfl⟩ := List.mem_map.mp inside
      obtain rfl := apart code there _ (mirrors.digested identity code there) digested
      have served : serve hmacSha256 run (.consume identity code) = ⟨left,run.events ++ [.consumed identity code]⟩ := by
        apply serve_done
        · simp [RecoveryCall.leave,RecoveryCodeService.consume,digested,same]
        · simp [RecoveryCall.event,RecoveryCodeService.consume,digested,same,Except.toOption]
      rw [served]
      refine ⟨mirrors.next ?_ ?_ ?_,by simp [issuedCodes_concat,Event.codes]⟩
      · intro owner other same
        cases same
        exact there
      · intro other kept inside'
        exact mirrors.digested other kept ((consumed_sublist identity other code _).subset inside')
      · intro other
        rw [writes]
        by_cases own : identity = other
        · subst own
          have taken := ((consumed_perm identity there).map (digestOf hmacSha256)).erase (digestOf hmacSha256 code)
          rw [List.map_cons,List.erase_cons_head] at taken
          rw [if_pos rfl]
          exact ((mirrors.mirrored identity).erase _).trans taken
        · rw [if_neg own,Event.leave,if_neg own]
          exact mirrors.mirrored other

theorem revoke_mirrors (mirrors : Mirrors hmacSha256 run) (identity : IdentityId) :
    Mirrors hmacSha256 (serve hmacSha256 run (.revoke identity)) ∧
      issuedCodes (serve hmacSha256 run (.revoke identity)).events = issuedCodes run.events := by
  have cases_ : (∃ e,RecoveryCodeService.revoke identity run.codes = (.error e,run.codes)) ∨
      ∃ left,RecoveryCodeService.revoke identity run.codes = (.ok (),left) ∧
        ∀ other,stored other left = if identity = other then [] else stored other run.codes := by
    unfold RecoveryCodeService.revoke
    split
    · exact .inl ⟨_,rfl⟩
    · exact replace_cases _ [] _
  rcases cases_ with ⟨e,same⟩ | ⟨left,same,writes⟩
  · rw [serve_refused (.revoke identity) (congrArg Prod.snd same) (by simp [RecoveryCall.event,same,Except.toOption])]
    exact ⟨mirrors,rfl⟩
  · rw [serve_done (.revoke identity) (congrArg Prod.snd same) (by simp [RecoveryCall.event,same,Except.toOption]; rfl)]
    refine ⟨mirrors.next (by simp) ?_ ?_,by simp [issuedCodes_concat,Event.codes]⟩
    · intro other code inside
      rw [Event.leave] at inside
      split at inside
      · cases inside
      · exact mirrors.digested other code inside
    · intro other
      rw [writes,Event.leave]
      split
      · exact .refl _
      · exact mirrors.mirrored other

theorem runOf_concat : runOf hmacSha256 (calls ++ [call]) = serve hmacSha256 (runOf hmacSha256 calls) call := by
  simp [runOf]

theorem Fresh.start (fresh : Fresh hmacSha256 (calls ++ more)) : Fresh hmacSha256 calls := by
  obtain ⟨distinct,apart⟩ := fresh
  rw [List.flatMap_append] at distinct
  refine ⟨(List.nodup_append.mp distinct).1,?_⟩
  intro one first two second
  apply apart one (by simp only [List.flatMap_append,List.mem_append,first,true_or])
  simp only [List.flatMap_append,List.mem_append] at second ⊢
  tauto

theorem run_mirrors (fresh : Fresh hmacSha256 calls) : Mirrors hmacSha256 (runOf hmacSha256 calls) ∧
      (issuedCodes (runOf hmacSha256 calls).events).Sublist (calls.flatMap RecoveryCall.drawnCodes) := by
  induction calls using List.reverseRecOn with
  | nil =>
    refine ⟨⟨.nil,?_,?_⟩,.refl _⟩
    · simp [runOf,held]
    · simp [runOf,held,stored]
  | append_singleton calls call ih =>
    obtain ⟨mirrors,drawn⟩ := ih fresh.start
    rw [runOf_concat,List.flatMap_append,List.flatMap_singleton]
    cases call with
    | issue identity count draws =>
      obtain ⟨next,issued⟩ := issue_mirrors mirrors identity count draws
      exact ⟨next,issued.trans (drawn.append (.refl _))⟩
    | consume identity presented =>
      have tidy := OneTimeCodes.tidy mirrors.lawful (fresh.start.distinct.sublist drawn)
      have apart : ∀ code ∈ held identity (runOf hmacSha256 calls).events,∀ digest,
          hmacSha256 code = .ok digest → hmacSha256 presented = .ok digest → code = presented := by
        intro code inside
        have known := drawn.subset (tidy.issued identity code inside)
        apply fresh.apart code (by simp only [List.flatMap_append,List.mem_append,known,true_or])
        simp [RecoveryCall.presented]
      obtain ⟨next,same⟩ := consume_mirrors mirrors identity presented apart
      rw [same]
      exact ⟨next,drawn.trans (List.sublist_append_left _ _)⟩
    | revoke identity =>
      obtain ⟨next,same⟩ := revoke_mirrors mirrors identity
      rw [same]
      exact ⟨next,drawn.trans (List.sublist_append_left _ _)⟩

theorem recovery_codes_once {calls : List RecoveryCall} (fresh : Fresh hmacSha256 calls) :
    (∀ before identity code after,(runOf hmacSha256 calls).events = before ++ .consumed identity code :: after →
      Latest identity code before) ∧ (∀ code,(runOf hmacSha256 calls).events.countP (Event.uses code) ≤ 1) ∧
    ∀ identity,∃ left,InMemoryRecoveryCodeRepository.remaining identity (runOf hmacSha256 calls).codes = .ok left ∧
      Standing identity (runOf hmacSha256 calls).events left := by
  obtain ⟨mirrors,drawn⟩ := run_mirrors fresh
  have distinct := fresh.distinct.sublist drawn
  refine ⟨?_,used_once mirrors.lawful distinct,?_⟩
  · intro before identity code after split
    have lawful := mirrors.lawful
    rw [split] at lawful distinct
    have earlier : (issuedCodes before).Nodup := by
      rw [issuedCodes,List.flatMap_append] at distinct
      exact (List.nodup_append.mp distinct).1
    exact (tidy lawful.start earlier).latest identity code (lawful before identity code after rfl)
  · intro identity
    refine ⟨_,remaining_stored,?_⟩
    rw [(mirrors.mirrored identity).length_eq,List.length_map]
    exact held_standing mirrors.lawful identity

end

section

def demoHmac (code : Text) : Result Sha256Digest :=
  .ok (BitVec.ofNat 256 (code.foldl (fun number byte => number * 256 + byte.toNat) 1))

def demoDraws : Nat → Result Text
  | 0 => .ok "k1"
  | 1 => .ok "k2"
  | _ => .error (.plain .unavailable)

def demoCalls : List RecoveryCall :=
  [.issue ⟨"ann"⟩ 2 demoDraws,.consume ⟨"bob"⟩ "k1",.consume ⟨"ann"⟩ "k1",.consume ⟨"ann"⟩ "k1"]

theorem demo_fresh : Fresh demoHmac demoCalls := by
  have apart : ∀ one ∈ demoCalls.flatMap RecoveryCall.drawnCodes,
      ∀ two ∈ demoCalls.flatMap RecoveryCall.drawnCodes ++ demoCalls.flatMap RecoveryCall.presented,
        demoHmac one = demoHmac two → one = two := by decide
  refine ⟨by decide,?_⟩
  intro one first two second digest here there
  exact apart one first two second (here.trans there.symm)

theorem recovery_codes_once_pair :
    (runOf demoHmac demoCalls).events = [.issued ⟨"ann"⟩ ["k1","k2"],.consumed ⟨"ann"⟩ "k1"] ∧
      Latest (⟨"ann"⟩ : IdentityId) ("k1" : Text) [.issued ⟨"ann"⟩ ["k1","k2"]] ∧
      InMemoryRecoveryCodeRepository.remaining ⟨"ann"⟩ (runOf demoHmac demoCalls).codes = .ok 1 := by
  obtain ⟨consumed,-,-⟩ := recovery_codes_once demo_fresh
  have events : (runOf demoHmac demoCalls).events = [.issued ⟨"ann"⟩ ["k1","k2"],.consumed ⟨"ann"⟩ "k1"] := by
    rfl
  refine ⟨events,consumed [.issued ⟨"ann"⟩ ["k1","k2"]] ⟨"ann"⟩ "k1" [] events,?_⟩
  decide

end

end OpenProof.RecoveryCodeRuns
