import OpenProof.SenderProofs

namespace OpenProof.CircuitBreakers
open Foundation GatewayWorld SenderProofs

section
variable {breaker : CircuitBreaker}

theorem allow_cases : (breaker.allow now entry = (true,entry) ∧ entry.state = .closed) ∨
    breaker.allow now entry = (false,entry) ∨
      (breaker.allow now entry = (true,{ entry with state := .halfOpen,probeInFlight := true }) ∧
        (entry.state = .opened ∨ entry.probeInFlight = false)) := by
  unfold CircuitBreaker.allow
  split
  · rename_i closed
    exact .inl ⟨rfl,closed⟩
  · rename_i opened
    split
    · exact .inr (.inl rfl)
    · exact .inr (.inr ⟨rfl,.inl opened⟩)
  · rename_i halfOpen
    split
    · exact .inr (.inl rfl)
    · rename_i unreserved
      refine .inr (.inr ⟨?_,.inr (Bool.eq_false_iff.mpr unreserved)⟩)
      rw [← halfOpen]

theorem allow_opened (opened : (breaker.allow now entry).2.state = .opened) :
    breaker.allow now entry = (false,entry) ∧ entry.state = .opened := by
  rcases @allow_cases breaker now entry with ⟨same,closed⟩ | same | ⟨probing,-⟩
  · rw [same,closed] at opened
    cases opened
  · rw [same] at opened
    exact ⟨same,opened⟩
  · rw [probing] at opened
    cases opened

theorem allow_refuses (opened : entry.state = .opened) (early : now < entry.openedAt+breaker.openDuration) :
    breaker.allow now entry = (false,entry) := by
  unfold CircuitBreaker.allow
  rw [opened]
  exact if_pos (Int.sub_left_lt_of_lt_add early)

theorem recordFailure_opened (opened : entry.state = .opened) : (breaker.recordFailure now entry).state = .opened ∧
      ((breaker.recordFailure now entry).openedAt = now ∨
        (breaker.recordFailure now entry).openedAt = entry.openedAt) := by
  unfold CircuitBreaker.recordFailure
  simp only [opened]
  split
  · exact ⟨rfl,.inl rfl⟩
  · exact ⟨rfl,.inr rfl⟩

theorem recordFailure_opens (before : entry.state ≠ .opened)
    (opened : (breaker.recordFailure now entry).state = .opened) :
    (breaker.recordFailure now entry).openedAt = now := by
  unfold CircuitBreaker.recordFailure at opened ⊢
  cases state : entry.state with
  | opened => exact absurd state before
  | halfOpen => rfl
  | closed =>
    simp only [state] at opened ⊢
    split
    · rfl
    · rename_i few
      rw [if_neg few] at opened
      cases opened

theorem recordFailure_settles : (breaker.recordFailure now entry).state ≠ .halfOpen := by
  unfold CircuitBreaker.recordFailure
  cases state : entry.state with
  | halfOpen => exact nofun
  | closed =>
    dsimp only
    split <;> exact nofun
  | opened =>
    dsimp only
    split <;> exact nofun

end

-- A request on its way to an endpoint, and the state of the circuit that let it through.
structure Flight where
  endpoint : EndpointId
  admittedIn : CircuitState
  deriving DecidableEq

structure Traffic where
  world : GatewayState
  flights : List Flight

def Traffic.start (world : GatewayState) : Traffic := ⟨{ world with circuits := ∅ },[]⟩

def Traffic.circuit (s : Traffic) (endpoint : EndpointId) : Circuit := circuitOf s.world.circuits endpoint

inductive Event where
  | tick (later : Instant)
  | ask (endpoint : EndpointId)
  | report (flight : Flight) (success : Bool)
  deriving DecidableEq

def record (breaker : CircuitBreaker) (endpoint : EndpointId) (success : Bool) (w : GatewayState) : GatewayState :=
  if success then (exec breaker (.recordSuccess endpoint) w).2 else (exec breaker (.recordFailure endpoint) w).2

-- One call of the breaker by one of the requests, or time passing. A request that was let
-- through reports once, at any later time.
def step (breaker : CircuitBreaker) (s : Traffic) : Event → Option Traffic
  | .tick later =>
    if s.world.clock ≤ later then some { s with world := { s.world with clock := later } } else none
  | .ask endpoint =>
    let (allowed,w) := (exec breaker (.allow endpoint) s.world : Bool × GatewayState)
    some ⟨w,if allowed then ⟨endpoint,(circuitOf w.circuits endpoint).state⟩ :: s.flights else s.flights⟩
  | .report flight success =>
    if flight ∈ s.flights then
      some ⟨record breaker flight.endpoint success s.world,s.flights.erase flight⟩
    else none

def play (breaker : CircuitBreaker) (s : Traffic) : List Event → Option Traffic
  | [] => some s
  | event :: rest => (step breaker s event).bind fun next => play breaker next rest

theorem play_append (breaker : CircuitBreaker) (s : Traffic) (before after : List Event) :
    play breaker s (before ++ after) = (play breaker s before).bind fun next => play breaker next after := by
  induction before generalizing s with
  | nil => rfl
  | cons event rest ih =>
    simp only [List.cons_append,play]
    cases step breaker s event with
    | none => rfl
    | some next => exact ih next

theorem circuitOf_insert (circuits : Map EndpointId Circuit) (set endpoint : EndpointId) (entry : Circuit) :
    circuitOf (circuits.insert set entry) endpoint = if set = endpoint then entry else circuitOf circuits endpoint := by
  unfold circuitOf
  rw [Map.find_insert]
  split <;> rfl

-- What a step is to one endpoint: nothing but the time, an admission, or a report.
inductive Seen (breaker : CircuitBreaker) (endpoint : EndpointId) (s s' : Traffic) : Event → Prop where
  | aside {event : Event} (time : s.world.clock ≤ s'.world.clock) (circuit : s'.circuit endpoint = s.circuit endpoint)
      (flights : ∀ admittedIn,s'.flights.count ⟨endpoint,admittedIn⟩ = s.flights.count ⟨endpoint,admittedIn⟩) :
      Seen breaker endpoint s s' event
  | asked (time : s'.world.clock = s.world.clock)
      (circuit : s'.circuit endpoint = (breaker.allow s.world.clock (s.circuit endpoint)).2)
      (flights : s'.flights = if (breaker.allow s.world.clock (s.circuit endpoint)).1 then
        ⟨endpoint,(s'.circuit endpoint).state⟩ :: s.flights else s.flights) :
      Seen breaker endpoint s s' (.ask endpoint)
  | succeeded {admittedIn : CircuitState} (time : s'.world.clock = s.world.clock)
      (circuit : s'.circuit endpoint = CircuitBreaker.recordSuccess (s.circuit endpoint))
      (member : ⟨endpoint,admittedIn⟩ ∈ s.flights) (flights : s'.flights = s.flights.erase ⟨endpoint,admittedIn⟩) :
      Seen breaker endpoint s s' (.report ⟨endpoint,admittedIn⟩ true)
  | failed {admittedIn : CircuitState} (time : s'.world.clock = s.world.clock)
      (circuit : s'.circuit endpoint = breaker.recordFailure s.world.clock (s.circuit endpoint))
      (member : ⟨endpoint,admittedIn⟩ ∈ s.flights) (flights : s'.flights = s.flights.erase ⟨endpoint,admittedIn⟩) :
      Seen breaker endpoint s s' (.report ⟨endpoint,admittedIn⟩ false)

section
variable {breaker : CircuitBreaker} {s s' : Traffic} {event : Event}

theorem step_seen (endpoint : EndpointId) (stepped : step breaker s event = some s') :
    Seen breaker endpoint s s' event := by
  cases event with
  | tick later =>
    rw [step] at stepped
    split at stepped
    · rename_i forwards
      cases stepped
      exact .aside forwards rfl fun _ => rfl
    · cases stepped
  | ask asked =>
    cases stepped
    by_cases here : asked = endpoint
    · subst here
      apply Seen.asked
      · rfl
      · exact (circuitOf_insert ..).trans (if_pos rfl)
      · rfl
    · refine .aside (Int.le_refl _) ((circuitOf_insert ..).trans (if_neg here)) fun admittedIn => ?_
      split
      · apply List.count_cons_of_ne
        rintro same
        cases same
        exact here rfl
      · rfl
  | report flight success =>
    rw [step] at stepped
    split at stepped
    · rename_i member
      cases stepped
      obtain ⟨target,admittedIn⟩ := flight
      by_cases here : target = endpoint
      · subst here
        cases success with
        | true => exact .succeeded rfl ((circuitOf_insert ..).trans (if_pos rfl)) member rfl
        | false => exact .failed rfl ((circuitOf_insert ..).trans (if_pos rfl)) member rfl
      · have same : (record breaker target success s.world).clock = s.world.clock := by
          cases success <;> rfl
        refine .aside (Int.le_of_eq same.symm) ?_ fun other => ?_
        · cases success with
          | true | false => exact (circuitOf_insert ..).trans (if_neg here)
        · apply List.count_erase_of_ne
          rintro same
          cases same
          exact here rfl
    · cases stepped

theorem flying (stepped : step breaker s (.report flight success) = some s') : flight ∈ s.flights := by
  rw [step] at stepped
  split at stepped
  · assumption
  · cases stepped

theorem play_then (played : play breaker start events = some s) (stepped : step breaker s event = some s') : play breaker start (events ++ [event]) = some s' := by
  rw [play_append,played]
  change (step breaker s event).bind _ = _
  rw [stepped]
  rfl

theorem play_snoc (played : play breaker start (events ++ [event]) = some s') :
    ∃ s,play breaker start events = some s ∧ step breaker s event = some s' := by
  rw [play_append] at played
  obtain ⟨s,before,stepped⟩ := Option.bind_eq_some_iff.mp played
  obtain ⟨next,last,done⟩ := Option.bind_eq_some_iff.mp stepped
  cases done
  exact ⟨s,before,last⟩

end

section
variable {breaker : CircuitBreaker} {endpoint : EndpointId} {s s' : Traffic} {event : Event}

theorem Seen.time (seen : Seen breaker endpoint s s' event) : s.world.clock ≤ s'.world.clock := by
  cases seen with
  | aside time => exact time
  | asked time => exact Int.le_of_eq time.symm
  | succeeded time => exact Int.le_of_eq time.symm
  | failed time => exact Int.le_of_eq time.symm

theorem Seen.opened (seen : Seen breaker endpoint s s' event) (opened : (s'.circuit endpoint).state = .opened) :
    ((s.circuit endpoint).state = .opened ∧ (s'.circuit endpoint).openedAt = (s.circuit endpoint).openedAt) ∨
      (s'.circuit endpoint).openedAt = s'.world.clock := by
  cases seen with
  | aside time circuit =>
    rw [circuit] at opened ⊢
    exact .inl ⟨opened,rfl⟩
  | asked time circuit =>
    rw [circuit] at opened ⊢
    obtain ⟨same,before⟩ := allow_opened opened
    rw [same]
    exact .inl ⟨before,rfl⟩
  | succeeded time circuit =>
    rw [circuit] at opened
    cases opened
  | failed time circuit =>
    rw [circuit] at opened ⊢
    rw [time]
    by_cases before : (s.circuit endpoint).state = .opened
    · rcases (recordFailure_opened before).2 with again | same
      · exact .inr again
      · exact .inl ⟨before,same⟩
    · exact .inr (recordFailure_opens before opened)

end

structure Opens (breaker : CircuitBreaker) (endpoint : EndpointId) (s : Traffic) (event : Event) (s' : Traffic) :
    Prop where
  step : step breaker s event = some s'
  opened : (s'.circuit endpoint).state = .opened
  since : ¬((s.circuit endpoint).state = .opened ∧
    (s'.circuit endpoint).openedAt = (s.circuit endpoint).openedAt)

def KeepsShut (breaker : CircuitBreaker) (start : Traffic) (events : List Event) (endpoint : EndpointId) : Prop :=
  ∀ before event after rest s s' later,events = before ++ event :: (after ++ rest) →
    play breaker start before = some s → Opens breaker endpoint s event s' → play breaker s' after = some later →
      later.world.clock < s'.world.clock+breaker.openDuration →
        (breaker.allow later.world.clock (later.circuit endpoint)).1 = false

def NoEarlySuccess (breaker : CircuitBreaker) (start : Traffic) (events : List Event) (endpoint : EndpointId) :
    Prop :=
  ∀ before admittedIn rest s,events = before ++ .report ⟨endpoint,admittedIn⟩ true :: rest →
    play breaker start before = some s → ⟨endpoint,admittedIn⟩ ∈ s.flights →
      (s.circuit endpoint).state = .opened → (s.circuit endpoint).openedAt+breaker.openDuration ≤ s.world.clock

-- The time is up, or the circuit is open and has not opened before `opening`.
structure ShutSince (breaker : CircuitBreaker) (endpoint : EndpointId) (opening : Instant) (s : Traffic) : Prop where
  clock : opening ≤ s.world.clock
  shut : opening+breaker.openDuration ≤ s.world.clock ∨
    ((s.circuit endpoint).state = .opened ∧ opening ≤ (s.circuit endpoint).openedAt)

section
variable {breaker : CircuitBreaker} {endpoint : EndpointId} {s s' : Traffic} {event : Event}

theorem ShutSince.step (shut : ShutSince breaker endpoint opening s) (seen : Seen breaker endpoint s s' event)
    (late : ∀ admittedIn,event = .report ⟨endpoint,admittedIn⟩ true → (s.circuit endpoint).state = .opened →
      (s.circuit endpoint).openedAt+breaker.openDuration ≤ s.world.clock) :
    ShutSince breaker endpoint opening s' := by
  have onward := seen.time
  refine ⟨shut.clock.trans onward,?_⟩
  rcases shut.shut with up | ⟨opened,since⟩
  · exact .inl (up.trans onward)
  · by_cases up : opening+breaker.openDuration ≤ s.world.clock
    · exact .inl (up.trans onward)
    · have early : s.world.clock < (s.circuit endpoint).openedAt+breaker.openDuration :=
        (Int.not_le.mp up).trans_le (Int.add_le_add_right since _)
      right
      cases seen with
      | aside time circuit =>
        rw [circuit]
        exact ⟨opened,since⟩
      | asked time circuit =>
        rw [circuit,allow_refuses opened early]
        exact ⟨opened,since⟩
      | succeeded time circuit => exact absurd (late _ rfl opened) (Int.not_le.mpr early)
      | failed time circuit =>
        rw [circuit]
        obtain ⟨still,again | same⟩ := @recordFailure_opened breaker s.world.clock _ opened
        · exact ⟨still,shut.clock.trans_eq again.symm⟩
        · exact ⟨still,since.trans_eq same.symm⟩

theorem ShutSince.refuses (shut : ShutSince breaker endpoint opening s)
    (early : s.world.clock < opening+breaker.openDuration) :
    (breaker.allow s.world.clock (s.circuit endpoint)).1 = false := by
  rcases shut.shut with up | ⟨opened,since⟩
  · exact absurd up (Int.not_le.mpr early)
  · rw [allow_refuses opened (early.trans_le (Int.add_le_add_right since _))]

theorem ShutSince.run (punctual : NoEarlySuccess breaker start events endpoint)
    (whole : events = before ++ (after ++ rest)) (played : play breaker start before = some first)
    (shut : ShutSince breaker endpoint opening first) (further : play breaker first after = some s) : ShutSince breaker endpoint opening s := by
  induction after using List.reverseRecOn generalizing rest s with
  | nil =>
    cases further
    exact shut
  | append_singleton after event ih =>
    obtain ⟨middle,earlier,stepped⟩ := play_snoc further
    have reached : play breaker start (before ++ after) = some middle := by
      rw [play_append,played]
      exact earlier
    have split : events = (before ++ after) ++ event :: rest := by simp [whole]
    refine (ih (split.trans (List.append_assoc ..)) earlier).step (step_seen endpoint stepped) ?_
    rintro admittedIn rfl opened
    exact punctual _ admittedIn rest middle split reached (flying stepped) opened

theorem opening_exists (played : play breaker (.start world) events = some s)
    (opened : (s.circuit endpoint).state = .opened) :
    ∃ before event after first next,events = before ++ event :: after ∧
      play breaker (.start world) before = some first ∧ Opens breaker endpoint first event next ∧
        next.world.clock = (s.circuit endpoint).openedAt ∧ play breaker next after = some s := by
  induction events using List.reverseRecOn generalizing s with
  | nil =>
    cases played
    cases opened
  | append_singleton events event ih =>
    obtain ⟨middle,earlier,stepped⟩ := play_snoc played
    by_cases since : (middle.circuit endpoint).state = .opened ∧
        (s.circuit endpoint).openedAt = (middle.circuit endpoint).openedAt
    · obtain ⟨before,opening,after,first,next,rfl,start,opens,time,further⟩ := ih earlier since.1
      exact ⟨before,opening,after ++ [event],first,next,by simp,start,opens,time.trans since.2.symm,
        play_then further stepped⟩
    · rcases (step_seen endpoint stepped).opened opened with still | now
      · exact absurd still since
      · exact ⟨events,event,[],middle,s,rfl,earlier,⟨stepped,opened,since⟩,now.symm,rfl⟩

end

theorem open_interval_kept (breaker : CircuitBreaker) (world : GatewayState) (events : List Event)
    (endpoint : EndpointId) :
    KeepsShut breaker (.start world) events endpoint ↔ NoEarlySuccess breaker (.start world) events endpoint := by
  constructor
  · intro shut before admittedIn rest s whole played flying opened
    by_contra early
    -- Right after such a success the endpoint is let through.
    obtain ⟨first,event,after,s₀,s₁,rfl,start,opens,time,further⟩ := opening_exists played opened
    have stepped : step breaker s (.report ⟨endpoint,admittedIn⟩ true) =
        some ⟨record breaker endpoint true s.world,s.flights.erase ⟨endpoint,admittedIn⟩⟩ := if_pos flying
    have later := play_then further stepped
    have refused := shut first event (after ++ [.report ⟨endpoint,admittedIn⟩ true]) rest s₀ s₁ _
      (by simp [whole]) start opens later (by rw [time]; exact Int.not_le.mp early)
    have closed : (Traffic.circuit ⟨record breaker endpoint true s.world,s.flights.erase ⟨endpoint,admittedIn⟩⟩
        endpoint) = .fresh := (circuitOf_insert ..).trans (if_pos rfl)
    rw [closed] at refused
    cases refused
  · intro punctual before event after rest s s' later whole played opens further early
    have time : (s'.circuit endpoint).openedAt = s'.world.clock :=
      ((step_seen endpoint opens.step).opened opens.opened).resolve_left opens.since
    have reached := play_then played opens.step
    have split : events = (before ++ [event]) ++ (after ++ rest) := by simp [whole]
    have shut : ShutSince breaker endpoint s'.world.clock s' :=
      ⟨Int.le_refl _,.inr ⟨opens.opened,Int.le_of_eq time.symm⟩⟩
    exact (shut.run punctual split reached further).refuses early

def demoFragile : CircuitBreaker := ⟨1,30000,by decide⟩

-- Two requests are let through; the failure of one opens the circuit and the success of
-- the other, a millisecond later, closes it.
theorem open_interval_cut_short :
    (play demoFragile (.start demoGateway) [.ask ⟨"e"⟩,.ask ⟨"e"⟩,.report ⟨⟨"e"⟩,.closed⟩ false,.tick 1,
        .report ⟨⟨"e"⟩,.closed⟩ true]).isSome = true ∧
      ¬KeepsShut demoFragile (.start demoGateway) [.ask ⟨"e"⟩,.ask ⟨"e"⟩,.report ⟨⟨"e"⟩,.closed⟩ false,.tick 1,
        .report ⟨⟨"e"⟩,.closed⟩ true] ⟨"e"⟩ := by
  refine ⟨by decide,fun shut => ?_⟩
  have refused := shut [.ask ⟨"e"⟩,.ask ⟨"e"⟩] (.report ⟨⟨"e"⟩,.closed⟩ false)
    [.tick 1,.report ⟨⟨"e"⟩,.closed⟩ true] [] _ _ _ rfl rfl ⟨rfl,by decide,by decide⟩ rfl
    (by decide)
  exact absurd refused (by decide)

def probes (s : Traffic) (endpoint : EndpointId) : Nat := s.flights.count ⟨endpoint,.halfOpen⟩

def SingleProbe (breaker : CircuitBreaker) (start : Traffic) (events : List Event) (endpoint : EndpointId) : Prop :=
  ∀ before after rest s s' later,events = before ++ .ask endpoint :: (after ++ rest) →
    play breaker start before = some s → (s.circuit endpoint).state = .opened →
    step breaker s (.ask endpoint) = some s' → (s'.circuit endpoint).state = .halfOpen →
    play breaker s' after = some later →
    (∀ first last between,after = first ++ last → play breaker s' first = some between →
      (between.circuit endpoint).state ≠ .closed) → probes later endpoint ≤ 1

def NoStaleReport (breaker : CircuitBreaker) (start : Traffic) (events : List Event) (endpoint : EndpointId) : Prop :=
  ∀ before success rest s,events = before ++ .report ⟨endpoint,.closed⟩ success :: rest →
    play breaker start before = some s → ⟨endpoint,.closed⟩ ∈ s.flights → (s.circuit endpoint).state ≠ .halfOpen

-- Exactly in the state HalfOpen there is a probe, and its place is taken.
structure Probing (endpoint : EndpointId) (s : Traffic) : Prop where
  admitted : s.flights.count ⟨endpoint,.opened⟩ = 0
  probe : probes s endpoint = if (s.circuit endpoint).state = .halfOpen then 1 else 0
  reserved : (s.circuit endpoint).state = .halfOpen → (s.circuit endpoint).probeInFlight = true

section
variable {breaker : CircuitBreaker} {endpoint : EndpointId} {s s' : Traffic} {event : Event}

theorem Probing.start (world : GatewayState) : Probing endpoint (.start world) := ⟨rfl,rfl,nofun⟩

theorem Probing.reported (probing : Probing endpoint s) (member : ⟨endpoint,admittedIn⟩ ∈ s.flights)
    (fresh : admittedIn = .closed → (s.circuit endpoint).state ≠ .halfOpen) :
    (s.flights.erase ⟨endpoint,admittedIn⟩).count ⟨endpoint,.halfOpen⟩ = 0 := by
  have number := probing.probe
  unfold probes at number
  cases admittedIn with
  | opened => exact absurd (List.count_pos_iff.mpr member) (by rw [probing.admitted]; exact Nat.lt_irrefl 0)
  | closed =>
    rw [List.count_erase_of_ne (by simp),number,if_neg (fresh rfl)]
  | halfOpen =>
    rw [List.count_erase_self,number]
    split <;> rfl

theorem Probing.asked (probing : Probing endpoint s)
    (circuit : s'.circuit endpoint = (breaker.allow s.world.clock (s.circuit endpoint)).2)
    (flights : s'.flights = if (breaker.allow s.world.clock (s.circuit endpoint)).1 then
      ⟨endpoint,(s'.circuit endpoint).state⟩ :: s.flights else s.flights) : Probing endpoint s' := by
  have number := probing.probe
  unfold probes at number
  rcases @allow_cases breaker s.world.clock (s.circuit endpoint) with ⟨same,closed⟩ | same | ⟨probe,free⟩
  · rw [same] at circuit flights
    rw [closed,if_neg nofun] at number
    have another : s'.flights = ⟨endpoint,.closed⟩ :: s.flights := by rw [flights,circuit,closed,if_pos rfl]
    constructor
    · rw [another,List.count_cons_of_ne (by simp),probing.admitted]
    · rw [probes,another,circuit,closed,List.count_cons_of_ne (by simp),number,if_neg nofun]
    · rw [circuit,closed]
      exact nofun
  · rw [same] at circuit flights
    have nobody : s'.flights = s.flights := flights
    constructor
    · rw [nobody,probing.admitted]
    · rw [probes,nobody,circuit,number]
    · rw [circuit]
      exact probing.reserved
  · rw [probe] at circuit flights
    have before : (s.circuit endpoint).state ≠ .halfOpen := by
      intro halfOpen
      rcases free with opened | unreserved
      · cases opened.symm.trans halfOpen
      · cases (probing.reserved halfOpen).symm.trans unreserved
    rw [if_neg before] at number
    have another : s'.flights = ⟨endpoint,.halfOpen⟩ :: s.flights := by rw [flights,circuit,if_pos rfl]
    constructor
    · rw [another,List.count_cons_of_ne (by simp),probing.admitted]
    · rw [probes,another,circuit,List.count_cons_self,number,if_pos rfl]
    · rw [circuit]
      exact fun _ => rfl

theorem Probing.step (probing : Probing endpoint s) (seen : Seen breaker endpoint s s' event)
    (fresh : ∀ success,event = .report ⟨endpoint,.closed⟩ success → (s.circuit endpoint).state ≠ .halfOpen) :
    Probing endpoint s' := by
  have after : ∀ admittedIn,⟨endpoint,admittedIn⟩ ∈ s.flights →
      (admittedIn = .closed → (s.circuit endpoint).state ≠ .halfOpen) →
        s'.flights = s.flights.erase ⟨endpoint,admittedIn⟩ → (s'.circuit endpoint).state ≠ .halfOpen →
          Probing endpoint s' := by
    intro admittedIn member allowed flights settled
    refine ⟨?_,?_,fun halfOpen => absurd halfOpen settled⟩
    · apply Nat.eq_zero_of_le_zero
      rw [flights,← probing.admitted]
      exact List.erase_sublist.count_le _
    · rw [probes,flights,probing.reported member allowed,if_neg settled]
  cases seen with
  | aside time circuit flights =>
    constructor
    · rw [flights,probing.admitted]
    · rw [probes,flights,circuit]
      exact probing.probe
    · rw [circuit]
      exact probing.reserved
  | asked time circuit flights => exact probing.asked circuit flights
  | succeeded time circuit member flights =>
    apply after _ member (fun closed => fresh true (by rw [closed])) flights
    rw [circuit]
    exact nofun
  | failed time circuit member flights =>
    apply after _ member (fun closed => fresh false (by rw [closed])) flights
    rw [circuit]
    exact recordFailure_settles

theorem Probing.run (fresh : NoStaleReport breaker (.start world) (events ++ rest) endpoint)
    (played : play breaker (.start world) events = some s) : Probing endpoint s := by
  induction events using List.reverseRecOn generalizing rest s with
  | nil =>
    cases played
    exact .start world
  | append_singleton events event ih =>
    obtain ⟨middle,earlier,stepped⟩ := play_snoc played
    rw [List.append_assoc] at fresh
    refine (ih fresh earlier).step (step_seen endpoint stepped) ?_
    rintro success rfl
    exact fresh events success rest middle rfl earlier (flying stepped)

end

theorem single_probe_kept (breaker : CircuitBreaker) (world : GatewayState) (events : List Event)
    (endpoint : EndpointId) (fresh : NoStaleReport breaker (.start world) events endpoint) :
    SingleProbe breaker (.start world) events endpoint := by
  intro before after rest s s' later whole played _ stepped _ further _
  have split : events = ((before ++ [.ask endpoint]) ++ after) ++ rest := by simp [whole]
  rw [split] at fresh
  have reached : play breaker (.start world) ((before ++ [.ask endpoint]) ++ after) = some later := by
    rw [play_append,play_then played stepped]
    exact further
  rw [(Probing.run fresh reached).probe]
  split
  · exact Nat.le_refl 1
  · exact Nat.zero_le 1

theorem NoStaleReport.nil {breaker : CircuitBreaker} {endpoint : EndpointId} :
    NoStaleReport breaker start [] endpoint := by
  intro before success rest s impossible
  simp at impossible

theorem NoStaleReport.cons {breaker : CircuitBreaker} {endpoint : EndpointId} {event : Event}
    (first : ∀ success,event = .report ⟨endpoint,.closed⟩ success → (start.circuit endpoint).state ≠ .halfOpen)
    (later : ∀ next,step breaker start event = some next → NoStaleReport breaker next rest endpoint) :
    NoStaleReport breaker start (event :: rest) endpoint := by
  intro before success after s whole played
  cases before with
  | nil =>
    cases whole
    cases played
    exact fun _ => first success rfl
  | cons head before =>
    cases whole
    obtain ⟨next,stepped,further⟩ := Option.bind_eq_some_iff.mp played
    exact later next stepped before success after s rfl further

-- The probe of a circuit that has opened, and a second request that asks meanwhile.
theorem single_probe_kept_fresh :
    SingleProbe demoFragile (.start demoGateway) [.ask ⟨"e"⟩,.report ⟨⟨"e"⟩,.closed⟩ false,.tick 30000,.ask ⟨"e"⟩,
        .ask ⟨"e"⟩] ⟨"e"⟩ ∧
      (play demoFragile (.start demoGateway) [.ask ⟨"e"⟩,.report ⟨⟨"e"⟩,.closed⟩ false,.tick 30000,.ask ⟨"e"⟩,
        .ask ⟨"e"⟩]).map (probes · ⟨"e"⟩) = some 1 := by
  refine ⟨single_probe_kept demoFragile demoGateway _ ⟨"e"⟩ ?_,by decide⟩
  refine .cons nofun fun first asked => ?_
  cases asked
  refine .cons (fun success _ => by decide) fun second failed => ?_
  refine .cons nofun fun third ticked => .cons nofun fun fourth probed => .cons nofun fun fifth refused => .nil

-- The stale failure opens the circuit again while the probe is on its way, and after the
-- timeout there is a second probe beside it.
theorem second_probe :
    (play demoFragile (.start demoGateway) [.ask ⟨"e"⟩,.ask ⟨"e"⟩,.report ⟨⟨"e"⟩,.closed⟩ false,.tick 30000,
        .ask ⟨"e"⟩,.report ⟨⟨"e"⟩,.closed⟩ false,.tick 60000,.ask ⟨"e"⟩]).map (probes · ⟨"e"⟩) = some 2 ∧
      ¬SingleProbe demoFragile (.start demoGateway) [.ask ⟨"e"⟩,.ask ⟨"e"⟩,.report ⟨⟨"e"⟩,.closed⟩ false,
        .tick 30000,.ask ⟨"e"⟩,.report ⟨⟨"e"⟩,.closed⟩ false,.tick 60000,.ask ⟨"e"⟩] ⟨"e"⟩ := by
  refine ⟨by decide,fun single => ?_⟩
  have one := single [.ask ⟨"e"⟩,.ask ⟨"e"⟩,.report ⟨⟨"e"⟩,.closed⟩ false,.tick 30000]
    [.report ⟨⟨"e"⟩,.closed⟩ false,.tick 60000,.ask ⟨"e"⟩] [] _ _ _ rfl rfl (by decide) rfl
    (by decide) rfl ?_
  · exact absurd one (by decide)
  · intro first last between whole played
    rcases first with _ | ⟨_,_ | ⟨_,_ | ⟨_,_ | ⟨_,_⟩⟩⟩⟩
    all_goals cases whole
    all_goals
      cases played
      decide

end OpenProof.CircuitBreakers
