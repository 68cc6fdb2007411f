import OpenProof.Identities

namespace OpenProof.AuthenticationTransactions
open Foundation Identities
open Std

structure TransactionIdTag
abbrev TransactionId := StrongId TransactionIdTag

-- Where the exchange with the subject takes place.
inductive InteractionModel where
  | redirect
  | challengeResponse
  | outOfBand
  | assertion
  | delegated
  deriving DecidableEq

inductive TransactionState where
  | pending
  | consumed
  | failed
  | expired
  deriving DecidableEq

def transactionStateName : TransactionState → Text
  | .pending => "pending"
  | .consumed => "consumed"
  | .failed => "failed"
  | .expired => "expired"

abbrev BindingDigest := Sha256Digest
abbrev AttributeMap := Map Text Text

structure AuthenticationTransaction where
  id : TransactionId
  provider : ProviderId
  interactionModel : InteractionModel
  nonceDigest : Sha256Digest
  binding : BindingDigest
  correlation : Text
  state : TransactionState
  createdAt : Instant
  expiresAt : Instant
  lives : createdAt < expiresAt
  metadata : AttributeMap

namespace AuthenticationTransaction

def create (id : TransactionId) (provider : ProviderId) (model : InteractionModel) (nonce : Text)
    (nonceDigest : Result Sha256Digest) (binding : BindingDigest) (correlation : Text) (createdAt : Instant)
    (lifetime : Duration) : Result AuthenticationTransaction :=
  if id.empty then fail .invalidArgument "An authentication transaction must have an identifier."
  else if provider.empty then fail .invalidArgument "An authentication transaction must name its provider."
  else if nonce.isEmpty then .error (.of .invalidArgument "An authentication transaction must carry a nonce."
    "A transaction was created with an empty nonce; every redemption check against it would be trivially satisfiable.")
  else if short : lifetime ≤ 0 then
    .error (.of .invalidArgument "An authentication transaction must have a positive lifetime."
      "A non-positive lifetime yields a transaction that is expired at issue time.")
  else match nonceDigest with
    | .error e => .error e
    | .ok digest => .ok ⟨id,provider,model,digest,binding,correlation,.pending,createdAt,createdAt+lifetime,
        Int.lt_add_of_pos_right createdAt (Int.not_le.mp short),∅⟩

def restore (id : TransactionId) (provider : ProviderId) (model : InteractionModel) (nonceDigest : Sha256Digest)
    (binding : BindingDigest) (correlation : Text) (state : TransactionState) (createdAt expiresAt : Instant)
    (metadata : AttributeMap) : Result AuthenticationTransaction :=
  if lives : createdAt < expiresAt then
    if id.empty || provider.empty || correlation.isEmpty then
      fail .invalidArgument "The persisted authentication transaction is invalid."
    else .ok ⟨id,provider,model,nonceDigest,binding,correlation,state,createdAt,expiresAt,lives,metadata⟩
  else fail .invalidArgument "The persisted authentication transaction is invalid."

variable (transaction : AuthenticationTransaction)

def isExpiredAt (now : Instant) : Bool := transaction.expiresAt ≤ now

def setMetadata (key value : Text) : AuthenticationTransaction :=
  { transaction with metadata := transaction.metadata.insert key value }

def consume (presentedNonce : Result Sha256Digest) (presentedBinding : BindingDigest) (now : Instant) :
    Result Unit × AuthenticationTransaction :=
  if transaction.state ≠ .pending then
    (.error (.of .failedPrecondition "This authentication request is no longer valid."
      (Text.of "Transaction redemption refused; state is " ++ transactionStateName transaction.state
        ++ Text.of ". A transaction is redeemable exactly once.")),transaction)
  else if transaction.isExpiredAt now then
    (.error (.of .failedPrecondition "This authentication request has expired."
      "Transaction redemption refused: deadline passed."),{ transaction with state := .expired })
  else match presentedNonce with
    | .error e => (.error e,{ transaction with state := .failed })
    | .ok presented =>
      if transaction.nonceDigest ≠ presented || transaction.binding ≠ presentedBinding then
        (.error (.of .authenticationFailed (defaultErrorMessage .authenticationFailed)
          (if transaction.nonceDigest = presented then
            "Transaction binding mismatch: the answer was presented by a different agent than the one that started it."
          else "Transaction nonce mismatch.")),{ transaction with state := .failed })
      else (.ok (),{ transaction with state := .consumed })

end AuthenticationTransaction

-- `InMemoryAuthenticationTransactionStore`; each method holds the mutex for its whole body.
abbrev TransactionStore := Map TransactionId AuthenticationTransaction

namespace TransactionStore

def begin_ (transaction : AuthenticationTransaction) (store : TransactionStore) : Result Unit × TransactionStore :=
  if store.holds transaction.id then
    (.error (.of .alreadyExists "This authentication request could not be started."
      "A transaction identifier was reused. Overwriting the existing entry would discard an in-flight transaction belonging to another subject."),
      store)
  else (.ok (),store.insert transaction.id transaction)

def consume (id : TransactionId) (presentedNonce : Result Sha256Digest) (presentedBinding : BindingDigest)
    (now : Instant) (store : TransactionStore) : Result AuthenticationTransaction × TransactionStore :=
  match store[id]? with
  | none => (.error (.of .authenticationFailed (defaultErrorMessage .authenticationFailed)
      "Transaction redemption refused: unknown identifier."),store)
  | some transaction =>
    let r := transaction.consume presentedNonce presentedBinding now
    (r.1.map fun _ => r.2,store.insert id r.2)

def purgeExpired (now : Instant) (store : TransactionStore) : Nat × TransactionStore :=
  let kept := store.filter fun _ transaction => !transaction.isExpiredAt now
  (store.size - kept.size,kept)

end TransactionStore

section
variable {transaction : AuthenticationTransaction} {presentedNonce : Result Sha256Digest}
  {presentedBinding : BindingDigest} {now : Instant}

theorem consume_settles : (transaction.consume presentedNonce presentedBinding now).2.state ≠ .pending := by
  unfold AuthenticationTransaction.consume
  split
  · assumption
  · split
    · exact nofun
    · split
      · exact nofun
      · split <;> exact nofun

structure Redeemed (presentedNonce : Result Sha256Digest) (presentedBinding : BindingDigest) (now : Instant)
    (before after : AuthenticationTransaction) : Prop where
  pending : before.state = .pending
  alive : now < before.expiresAt
  nonce : presentedNonce = .ok before.nonceDigest
  binding : presentedBinding = before.binding
  consumed : after = { before with state := .consumed }

theorem consume_redeems (redeemed : (transaction.consume presentedNonce presentedBinding now).1.isOk = true) :
    Redeemed presentedNonce presentedBinding now transaction
      (transaction.consume presentedNonce presentedBinding now).2 := by
  unfold AuthenticationTransaction.consume at redeemed ⊢
  split at redeemed
  · cases redeemed
  · rename_i pending
    split at redeemed
    · cases redeemed
    · rename_i alive
      split at redeemed
      · cases redeemed
      · rename_i presented
        split at redeemed
        · cases redeemed
        · rename_i matching
          rw [if_neg pending,if_neg alive,if_neg matching]
          simp only [ne_eq,Bool.or_eq_true,decide_eq_true_eq,not_or,not_not] at matching
          refine ⟨not_not.mp pending,?_,by rw [matching.1],matching.2.symm,rfl⟩
          simpa [AuthenticationTransaction.isExpiredAt] using alive

end

section
variable {store : TransactionStore} {id : TransactionId} {presentedNonce : Result Sha256Digest}
  {presentedBinding : BindingDigest} {now : Instant} {after : AuthenticationTransaction}

theorem store_consume_redeems (redeemed : (store.consume id presentedNonce presentedBinding now).1 = .ok after) :
    ∃ before,store[id]? = some before ∧ Redeemed presentedNonce presentedBinding now before after := by
  unfold TransactionStore.consume at redeemed
  split at redeemed
  · cases redeemed
  · rename_i before stored
    dsimp only at redeemed
    cases outcome : (before.consume presentedNonce presentedBinding now).1 with
    | error e =>
      rw [outcome] at redeemed
      cases redeemed
    | ok done =>
      rw [outcome] at redeemed
      cases redeemed
      exact ⟨before,stored,consume_redeems (by rw [outcome]; rfl)⟩

def Settled (id : TransactionId) (store : TransactionStore) : Prop :=
  ∀ transaction,store[id]? = some transaction → transaction.state ≠ .pending

theorem settled_of_redeemed (redeemed : (store.consume id presentedNonce presentedBinding now).1 = .ok after) :
    ¬Settled id store ∧ Settled id (store.consume id presentedNonce presentedBinding now).2 := by
  obtain ⟨before,stored,known⟩ := store_consume_redeems redeemed
  refine ⟨fun settled => settled before stored known.pending,?_⟩
  intro transaction found
  unfold TransactionStore.consume at found
  simp only [stored,Map.find_insert,if_true,Option.some.injEq] at found
  rw [← found]
  exact consume_settles

theorem found_begun (there : (store.begin_ begun).2[id]? = some found) :
    store[id]? = some found ∨ begun = found ∧ begun.id = id ∧ (store.begin_ begun).1 = .ok () := by
  unfold TransactionStore.begin_ at there ⊢
  split at there
  · exact .inl there
  · rename_i fresh
    rw [if_neg fresh]
    rcases Map.insert_cases there with ⟨same,rfl⟩ | old
    · exact .inr ⟨rfl,same,rfl⟩
    · exact .inl old

theorem found_consumed (there : (store.consume other presentedNonce presentedBinding now).2[id]? = some found)
    (pending : found.state = .pending) : store[id]? = some found := by
  unfold TransactionStore.consume at there
  split at there
  · exact there
  · dsimp only at there
    rcases Map.insert_cases there with ⟨-,rfl⟩ | old
    · exact absurd pending consume_settles
    · exact old

theorem found_purged (there : (store.purgeExpired now).2[id]? = some found) : store[id]? = some found := by
  unfold TransactionStore.purgeExpired at there
  rw [ExtTreeMap.getElem?_filter'] at there
  exact (Option.filter_eq_some_iff.mp there).1

theorem settled_consume (settled : Settled id store) :
    Settled id (store.consume other presentedNonce presentedBinding now).2 := by
  intro transaction there pending
  exact settled transaction (found_consumed there pending) pending

theorem settled_purge (settled : Settled id store) : Settled id (store.purgeExpired now).2 := by
  intro transaction there
  exact settled transaction (found_purged there)

theorem settled_begin (settled : Settled id store) (other : (store.begin_ begun).1 = .ok () → begun.id ≠ id) : Settled id (store.begin_ begun).2 := by
  intro transaction there
  rcases found_begun there with old | ⟨rfl,same,done⟩
  · exact settled transaction old
  · exact absurd same (other done)

end

end OpenProof.AuthenticationTransactions
