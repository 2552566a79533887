import IpldEthServer.CidIndex
import Mathlib.Data.Finmap

/-! The subscription engine, `Service` of `service.go`, from the moment `Serve` has been
called: the maps `Subscriptions` and `SubscriptionTypes`, `QuitChan`, the `Subscribe` calls
still on their way to `sendHistoricalData`, and the backfill goroutines. Each section run
under the engine mutex is one step. A backfill goroutine holds no lock, so it moves in steps
of its own, one per point where another step can come between: the `QuitChan` check, the
`Retrieve` call, each send.

Whatever the engine asks of the world, `rlp.EncodeToBytes`, `Keccak256Hash`, the index's
first and last block numbers, `Retrieve`, `Fetch` and `Filter`, is a parameter or the
argument of a step, so every theorem holds whatever they answer. A Go map is a `Finmap`;
a `range` loop over one, whose order Go leaves open, is a fold over a list of its keys
given as the step's argument. Each `Subscribe` call comes with its own channels, named by
a number. The log records each non-blocking send, which delivers when the channel has room
and is dropped otherwise, the calls that returned, and the `Retrieve` calls. -/
namespace IpldEthServer

/-- `Subscription`: the rpc id and the channels the call came with, named by one number. -/
structure Subscription where
  id : String
  chan : ℕ
  deriving DecidableEq, Repr

abbrev Bucket := Finmap fun _ : String => Subscription

def bucketChans (b : Bucket) : Multiset ℕ := b.entries.map fun e => e.2.chan

/-- What a single send carries: an error payload, a backfill response, or the
`BackFillCompleteFlag`. -/
inductive PayloadKind where
  | error
  | backfill
  | backFillComplete
  deriving DecidableEq, Repr

/-- What the engine does that a client or a test can see. -/
inductive Event where
  /-- `Subscribe(id, …)` was called and was given the channels of `sub`. -/
  | subscribed (sub : Subscription)
  /-- One non-blocking send on a payload channel. -/
  | send (chan : ℕ) (kind : PayloadKind)
  /-- `filterAndServe` sends a live payload to each of these payload channels. -/
  | fanout (chans : Multiset ℕ)
  /-- `sendNonBlockingQuit` to the subscriptions of these channels. -/
  | quits (chans : Multiset ℕ)
  /-- The log line of `filterAndServe` for a type without configuration. -/
  | configUnavailable (ty : String)
  /-- Backfill task `task` calls `Retrieve(params, height)`. -/
  | retrieve (task : ℕ) (height : ℤ)
  /-- `Unsubscribe(id)` returned. -/
  | unsubscribed (id : String)
  /-- `Stop()` returned. -/
  | stopped
  deriving DecidableEq

inductive WrapperOutcome where
  | fetchError
  | encodeError
  | payload
  deriving DecidableEq, Repr

/-- What `Retrieve(params, i)` answers, each wrapper with what `Fetch` and the encoding give for it.
-/
inductive RetrieveOutcome where
  | error
  | empty
  | wrappers (ws : List WrapperOutcome)
  deriving DecidableEq, Repr

inductive BackfillPhase where
  /-- At the test `i <= endingBlock`, followed by the `QuitChan` check. -/
  | loopTest
  /-- Past the `QuitChan` check, before `Retrieve(params, i)`. -/
  | retrieve
  /-- Sending block `i`: the wrappers still to fetch, encode and send. -/
  | sending (rest : List WrapperOutcome)
  /-- Past the loop, before the `BackFillComplete` send. -/
  | complete
  /-- Returned. -/
  | done
  deriving DecidableEq, Repr

structure BackfillTask where
  sub : Subscription
  i : ℤ
  endingBlock : ℤ
  phase : BackfillPhase
  deriving DecidableEq, Repr

structure Engine where
  /-- `QuitChan` has been closed. -/
  quitClosed : Bool := false
  /-- The loop of `Serve` has not returned. -/
  serving : Bool := true
  subscriptions : Finmap fun _ : String => Bucket := ∅
  subscriptionTypes : Finmap fun _ : String => SubscriptionSettings := ∅
  /-- The `Subscribe` calls that asked for a backfill and have not reached
  `sendHistoricalData`. -/
  pendingBackfills : List (Subscription × SubscriptionSettings) := []
  /-- The backfill goroutines, by the order they were started. -/
  backfillTasks : List BackfillTask := []
  /-- The name of the channels the next `Subscribe` call comes with. -/
  nextChan : ℕ := 0
  log : List Event := []

/-- `NewServer` followed by `Serve`: empty maps, `QuitChan` open. -/
def newServer : Engine := {}

def Engine.emit (s : Engine) (evs : List Event) : Engine := { s with log := s.log ++ evs }

/-- A list of the map's keys, each once: an order a `range` loop over it may take. -/
def IsOrder {β : String → Type} (order : List String) (m : Finmap β) : Prop :=
  order.Nodup ∧ ∀ ty, ty ∈ order ↔ ty ∈ m

section Subscribe

variable (encodeSettings : SubscriptionSettings → Except String (List UInt8))
  (keccak256 : List UInt8 → String)

/-- The `// Add subscriber` block of `Subscribe`, under the mutex. -/
def addSubscriber (ty : String) (sub : Subscription) (params : SubscriptionSettings)
    (s : Engine) : Engine :=
  { s with
    subscriptions := s.subscriptions.insert ty
      (((s.subscriptions.lookup ty).getD ∅).insert sub.id sub)
    subscriptionTypes := s.subscriptionTypes.insert ty params }

/-- `Subscribe` up to `sendHistoricalData`; an encoding error ends the call with an error payload
and a quit. -/
def subscribe (id : String) (params : SubscriptionSettings) (s : Engine) : Engine :=
  let sub : Subscription := ⟨id, s.nextChan⟩
  let s := { s with nextChan := s.nextChan + 1, log := s.log ++ [.subscribed sub] }
  match encodeSettings params with
  | .error _ => s.emit [.send sub.chan .error, .quits {sub.chan}]
  | .ok bytes =>
    let s := if params.backFillOnly then s else addSubscriber (keccak256 bytes) sub params s
    if params.backFill || params.backFillOnly then
      { s with pendingBackfills := s.pendingBackfills ++ [(sub, params)] }
    else s

end Subscribe

/-- The range `sendHistoricalData` walks: `End` lowers the end only when it is positive and above
the start. -/
def backfillRange (first last : ℤ) (params : SubscriptionSettings) : ℤ × ℤ :=
  let startingBlock := if first < bigIntInt64 params.start then bigIntInt64 params.start else first
  let endingBlock :=
    if last > bigIntInt64 params.«end» ∧ bigIntInt64 params.«end» > 0 ∧
        bigIntInt64 params.«end» > startingBlock then bigIntInt64 params.«end»
    else last
  (startingBlock, endingBlock)

/-- `sendHistoricalData` for the `k`-th pending call, given the index's first and last block
numbers. -/
def sendHistoricalData (k : ℕ) (first last : Except String ℤ) (s : Engine) : Engine :=
  match s.pendingBackfills[k]? with
  | none => s
  | some (sub, params) =>
    let s := { s with pendingBackfills := s.pendingBackfills.eraseIdx k }
    match first, last with
    | .ok first, .ok last =>
      { s with backfillTasks := s.backfillTasks ++
          [⟨sub, (backfillRange first last params).1, (backfillRange first last params).2,
            .loopTest⟩] }
    | _, _ => s.emit [.send sub.chan .error, .quits {sub.chan}]

/-- `i++` on an `int64`, which wraps. -/
def int64Succ (i : ℤ) : ℤ := bigIntInt64 (i + 1)

def wrapperSends (chan : ℕ) : WrapperOutcome → List Event
  | .fetchError => [.send chan .error]
  | .encodeError => []
  | .payload => [.send chan .backfill]

def Engine.moveTask (s : Engine) (j : ℕ) (t : BackfillTask) (evs : List Event) : Engine :=
  { s with backfillTasks := s.backfillTasks.set j t, log := s.log ++ evs }

/-- One step of backfill goroutine `j`; `retrieved` is what `Retrieve` answers if the step calls it.
-/
def backfillStep (j : ℕ) (retrieved : RetrieveOutcome) (s : Engine) : Option Engine :=
  match s.backfillTasks[j]? with
  | none => none
  | some t =>
    match t.phase with
    | .loopTest =>
      if t.i ≤ t.endingBlock then
        some (s.moveTask j { t with phase := if s.quitClosed then .done else .retrieve } [])
      else some (s.moveTask j { t with phase := .complete } [])
    | .retrieve =>
      match retrieved with
      | .error => some (s.moveTask j { t with i := int64Succ t.i, phase := .loopTest }
          [.retrieve j t.i, .send t.sub.chan .error])
      | .empty => some (s.moveTask j { t with i := int64Succ t.i, phase := .loopTest }
          [.retrieve j t.i])
      | .wrappers ws => some (s.moveTask j { t with phase := .sending ws } [.retrieve j t.i])
    | .sending [] => some (s.moveTask j { t with i := int64Succ t.i, phase := .loopTest } [])
    | .sending (w :: ws) =>
      some (s.moveTask j { t with phase := .sending ws } (wrapperSends t.sub.chan w))
    | .complete => some (s.moveTask j { t with phase := .done } [.send t.sub.chan .backFillComplete])
    | .done => none

/-- `closeType(ty)`: a quit to every member of the bucket, then the type leaves both maps. -/
def closeType (s : Engine) (ty : String) : Engine :=
  { s with
    subscriptions := s.subscriptions.erase ty
    subscriptionTypes := s.subscriptionTypes.erase ty
    log := s.log ++ [.quits (((s.subscriptions.lookup ty).map bucketChans).getD 0)] }

inductive FilterOutcome where
  | filterError
  | encodeError
  | response
  deriving DecidableEq, Repr

/-- One pass of the loop of `filterAndServe(payload)` over type `ty`. -/
def serveType (blockNumber : ℤ) (filtered : SubscriptionSettings → FilterOutcome) (s : Engine)
    (ty : String) : Engine :=
  match s.subscriptionTypes.lookup ty with
  | none => closeType (s.emit [.configUnavailable ty]) ty
  | some subConfig =>
    if bigIntInt64 subConfig.«end» > 0 ∧ bigIntInt64 subConfig.«end» < bigIntInt64 blockNumber then
      closeType s ty
    else
      match filtered subConfig with
      | .filterError => closeType s ty
      | .encodeError => s
      | .response => s.emit [.fanout (((s.subscriptions.lookup ty).map bucketChans).getD 0)]

/-- `filterAndServe(payload)`, under the mutex, the loop taking the types in `order`. -/
def filterAndServe (order : List String) (blockNumber : ℤ)
    (filtered : SubscriptionSettings → FilterOutcome) (s : Engine) : Engine :=
  order.foldl (serveType blockNumber filtered) s

/-- One pass of the loop of `Unsubscribe(id)`; a missing bucket reads as Go's empty `nil` map. -/
def unsubscribeType (id : String) (s : Engine) (ty : String) : Engine :=
  let bucket := ((s.subscriptions.lookup ty).getD ∅).erase id
  if bucket = ∅ then
    { s with
      subscriptions := s.subscriptions.erase ty
      subscriptionTypes := s.subscriptionTypes.erase ty }
  else { s with subscriptions := s.subscriptions.insert ty bucket }

/-- `Unsubscribe(id)`, under the mutex, the loop taking the types in `order`. -/
def unsubscribe (order : List String) (id : String) (s : Engine) : Engine :=
  (order.foldl (unsubscribeType id) s).emit [.unsubscribed id]

/-- `close()`: `closeType` on every type, in `order`. -/
def close (order : List String) (s : Engine) : Engine := order.foldl closeType s

def closeOfClosedChannel : String := "close of closed channel"

/-- `Stop()`, under the mutex: `close(sap.QuitChan)`, which panics when it is closed, then
`close()`. -/
def stop (order : List String) (s : Engine) : Except String Engine :=
  if s.quitClosed then .error closeOfClosedChannel
  else .ok ((close order { s with quitClosed := true }).emit [.stopped])

section Run

variable (encodeSettings : SubscriptionSettings → Except String (List UInt8))
  (keccak256 : List UInt8 → String)

/-- The engine's steps, in any interleaving. -/
inductive Step : Engine → Engine → Prop
  | subscribe (s : Engine) (id : String) (params : SubscriptionSettings) :
      Step s (subscribe encodeSettings keccak256 id params s)
  | sendHistoricalData (s : Engine) (k : ℕ) (first last : Except String ℤ) :
      Step s (sendHistoricalData k first last s)
  | backfill (s s' : Engine) (j : ℕ) (retrieved : RetrieveOutcome)
      (h : backfillStep j retrieved s = some s') : Step s s'
  | filterAndServe (s : Engine) (order : List String) (blockNumber : ℤ)
      (filtered : SubscriptionSettings → FilterOutcome) (hserving : s.serving = true)
      (ho : IsOrder order s.subscriptions) :
      Step s (filterAndServe order blockNumber filtered s)
  | serveReturns (s : Engine) (hquit : s.quitClosed = true) : Step s { s with serving := false }
  | unsubscribe (s : Engine) (order : List String) (id : String)
      (ho : IsOrder order s.subscriptions) : Step s (unsubscribe order id s)
  | stop (s s' : Engine) (order : List String) (ho : IsOrder order s.subscriptions)
      (h : stop order s = .ok s') : Step s s'

inductive Reachable : Engine → Prop
  | init : Reachable newServer
  | step {s s' : Engine} : Reachable s → Step encodeSettings keccak256 s s' → Reachable s'

end Run

section Lemmas

variable {α : Type*} [DecidableEq α] {β : α → Type*}

theorem finmap_erase_of_not_mem {m : Finmap β} {a : α} (h : a ∉ m) : m.erase a = m :=
  Finmap.ext_lookup fun x => by
    by_cases hx : x = a
    · subst hx
      rw [Finmap.lookup_erase, Finmap.lookup_eq_none.mpr h]
    · exact Finmap.lookup_erase_ne hx

theorem finmap_insert_of_lookup {m : Finmap β} {a : α} {b : β a} (h : m.lookup a = some b) :
    m.insert a b = m :=
  Finmap.ext_lookup fun x => by
    by_cases hx : x = a
    · subst hx
      rw [Finmap.lookup_insert, h]
    · exact Finmap.lookup_insert_of_ne _ hx

theorem finmap_insert_ne_empty {m : Finmap β} {a : α} {b : β a} : m.insert a b ≠ ∅ :=
  fun h => Finmap.not_mem_empty (h ▸ Finmap.mem_insert.mpr (.inl rfl) : a ∈ (∅ : Finmap β))

theorem mem_bucketChans {b : Bucket} {c : ℕ} :
    c ∈ bucketChans b ↔ ∃ k sub, b.lookup k = some sub ∧ sub.chan = c := by
  simp only [bucketChans, Multiset.mem_map, Finmap.lookup_eq_some_iff]
  exact ⟨fun ⟨⟨k, sub⟩, h, hc⟩ => ⟨k, sub, h, hc⟩,
    fun ⟨k, sub, h, hc⟩ => ⟨⟨k, sub⟩, h, hc⟩⟩

variable (s : Engine) (evs : List Event)

@[simp] theorem Engine.emit_subscriptions : (s.emit evs).subscriptions = s.subscriptions := rfl
@[simp] theorem Engine.emit_subscriptionTypes :
    (s.emit evs).subscriptionTypes = s.subscriptionTypes := rfl
@[simp] theorem Engine.emit_quitClosed : (s.emit evs).quitClosed = s.quitClosed := rfl
@[simp] theorem Engine.emit_backfillTasks : (s.emit evs).backfillTasks = s.backfillTasks := rfl
@[simp] theorem Engine.emit_nextChan : (s.emit evs).nextChan = s.nextChan := rfl
@[simp] theorem Engine.emit_log : (s.emit evs).log = s.log ++ evs := rfl

@[simp] theorem closeType_subscriptions (ty : String) :
    (closeType s ty).subscriptions = s.subscriptions.erase ty := rfl
@[simp] theorem closeType_subscriptionTypes (ty : String) :
    (closeType s ty).subscriptionTypes = s.subscriptionTypes.erase ty := rfl
@[simp] theorem closeType_quitClosed (ty : String) : (closeType s ty).quitClosed = s.quitClosed :=
  rfl

theorem serveType_cases (blockNumber : ℤ) (filtered : SubscriptionSettings → FilterOutcome)
    (ty : String) :
    (s.subscriptionTypes.lookup ty = none ∧
        serveType blockNumber filtered s ty = closeType (s.emit [.configUnavailable ty]) ty) ∨
      (s.subscriptionTypes.lookup ty ≠ none ∧
        (serveType blockNumber filtered s ty = closeType s ty ∨
          serveType blockNumber filtered s ty = s ∨
          serveType blockNumber filtered s ty =
            s.emit [.fanout (((s.subscriptions.lookup ty).map bucketChans).getD 0)])) := by
  unfold serveType
  split
  · exact .inl ⟨‹_›, rfl⟩
  · refine .inr ⟨by simp_all, ?_⟩
    split_ifs
    · exact .inl rfl
    · split <;> simp

theorem unsubscribeType_cases (id ty : String) :
    (((s.subscriptions.lookup ty).getD ∅).erase id = ∅ ∧
        unsubscribeType id s ty = { s with
          subscriptions := s.subscriptions.erase ty
          subscriptionTypes := s.subscriptionTypes.erase ty }) ∨
      (((s.subscriptions.lookup ty).getD ∅).erase id ≠ ∅ ∧
        unsubscribeType id s ty = { s with
          subscriptions :=
            s.subscriptions.insert ty (((s.subscriptions.lookup ty).getD ∅).erase id) }) := by
  dsimp only [unsubscribeType]
  split_ifs with h
  · exact .inl ⟨h, rfl⟩
  · exact .inr ⟨h, rfl⟩

theorem close_lookup (order : List String) (ty : String) :
    (close order s).subscriptions.lookup ty =
        (if ty ∈ order then none else s.subscriptions.lookup ty) ∧
      (close order s).subscriptionTypes.lookup ty =
        (if ty ∈ order then none else s.subscriptionTypes.lookup ty) := by
  induction order generalizing s with
  | nil => simp [close]
  | cons t rest ih =>
    obtain ⟨h₁, h₂⟩ := ih (closeType s t)
    simp only [close, List.foldl_cons] at h₁ h₂ ⊢
    rw [h₁, h₂]
    by_cases ht : ty = t
    · subst ht
      simp [Finmap.lookup_erase]
    · simp [ht, Finmap.lookup_erase_ne ht]

@[simp] theorem close_quitClosed (order : List String) :
    (close order s).quitClosed = s.quitClosed := by
  induction order generalizing s with
  | nil => rfl
  | cons t rest ih => exact (ih (closeType s t)).trans rfl

theorem stop_of_quitClosed (order : List String) (h : s.quitClosed = true) :
    stop order s = .error closeOfClosedChannel := by
  simp [stop, h]

theorem quitClosed_of_stop {order : List String} {s' : Engine} (h : stop order s = .ok s') :
    s'.quitClosed = true := by
  unfold stop at h
  split at h
  · cases h
  · cases h
    simp

@[simp] theorem Engine.moveTask_subscriptions (j : ℕ) (t : BackfillTask) :
    (s.moveTask j t evs).subscriptions = s.subscriptions := rfl
@[simp] theorem Engine.moveTask_subscriptionTypes (j : ℕ) (t : BackfillTask) :
    (s.moveTask j t evs).subscriptionTypes = s.subscriptionTypes := rfl
@[simp] theorem Engine.moveTask_quitClosed (j : ℕ) (t : BackfillTask) :
    (s.moveTask j t evs).quitClosed = s.quitClosed := rfl
@[simp] theorem Engine.moveTask_nextChan (j : ℕ) (t : BackfillTask) :
    (s.moveTask j t evs).nextChan = s.nextChan := rfl
@[simp] theorem Engine.moveTask_backfillTasks (j : ℕ) (t : BackfillTask) :
    (s.moveTask j t evs).backfillTasks = s.backfillTasks.set j t := rfl
@[simp] theorem Engine.moveTask_log (j : ℕ) (t : BackfillTask) :
    (s.moveTask j t evs).log = s.log ++ evs := rfl

theorem subscribe_frame (encodeSettings : SubscriptionSettings → Except String (List UInt8))
    (keccak256 : List UInt8 → String) (id : String) (params : SubscriptionSettings) :
    let s' := subscribe encodeSettings keccak256 id params s
    s'.quitClosed = s.quitClosed ∧ s'.backfillTasks = s.backfillTasks ∧
      s'.nextChan = s.nextChan + 1 ∧
      ∃ evs, s'.log = s.log ++ .subscribed ⟨id, s.nextChan⟩ :: evs ∧
        ∀ ev ∈ evs, ev = .send s.nextChan .error ∨ ev = .quits {s.nextChan} := by
  unfold subscribe
  split
  · exact ⟨rfl, rfl, rfl, [.send s.nextChan .error, .quits {s.nextChan}], by simp [Engine.emit],
      by simp⟩
  · split_ifs <;> exact ⟨rfl, rfl, rfl, [], by simp [addSubscriber]⟩

theorem subscribe_subscriptions (encodeSettings : SubscriptionSettings → Except String (List UInt8))
    (keccak256 : List UInt8 → String) (id : String) (params : SubscriptionSettings) :
    (subscribe encodeSettings keccak256 id params s).subscriptions = s.subscriptions ∨
      ∃ ty, (subscribe encodeSettings keccak256 id params s).subscriptions =
        (addSubscriber ty ⟨id, s.nextChan⟩ params s).subscriptions := by
  unfold subscribe
  split
  · exact .inl rfl
  · split_ifs <;> first | exact .inl rfl | exact .inr ⟨_, rfl⟩

/-- `sendHistoricalData` keeps the maps, starts at most one goroutine and sends only an error and a
quit. -/
theorem sendHistoricalData_frame (k : ℕ) (first last : Except String ℤ) :
    let s' := sendHistoricalData k first last s
    s'.subscriptions = s.subscriptions ∧ s'.subscriptionTypes = s.subscriptionTypes ∧
      s'.quitClosed = s.quitClosed ∧ s'.nextChan = s.nextChan ∧
      (s'.backfillTasks = s.backfillTasks ∨
        ∃ t, t.phase = .loopTest ∧ s'.backfillTasks = s.backfillTasks ++ [t]) ∧
      ∃ evs, s'.log = s.log ++ evs ∧
        ∀ ev ∈ evs, (∃ c, ev = .send c .error) ∨ ∃ cs, ev = .quits cs := by
  unfold sendHistoricalData
  split
  · exact ⟨rfl, rfl, rfl, rfl, .inl rfl, [], by simp⟩
  · split
    · exact ⟨rfl, rfl, rfl, rfl, .inr ⟨_, rfl, rfl⟩, [], by simp⟩
    all_goals exact ⟨rfl, rfl, rfl, rfl, .inl rfl, _, rfl, by simp⟩

/-- One step of goroutine `j` moves only itself, calls `Retrieve` only from `retrieve`, and sends on
its own channel. -/
theorem backfillStep_spec {j : ℕ} {retrieved : RetrieveOutcome} {s' : Engine}
    (h : backfillStep j retrieved s = some s') :
    ∃ t t' calls sends, s.backfillTasks[j]? = some t ∧ s' = s.moveTask j t' (calls ++ sends) ∧
      (t'.phase = .retrieve → t.phase = .loopTest ∧ s.quitClosed = false) ∧
      (calls = [] ∨ calls = [.retrieve j t.i] ∧ t.phase = .retrieve ∧ t'.phase ≠ .retrieve) ∧
      ∀ ev ∈ sends, ∃ kind, ev = .send t.sub.chan kind := by
  unfold backfillStep at h
  split at h
  · cases h
  · next t ht =>
    refine ⟨t, ?_⟩
    split at h
    · next hp =>
      split_ifs at h with hle hq <;> cases h <;>
        exact ⟨_, [], [], ht, rfl, by simp_all, .inl rfl, by simp⟩
    · next hp =>
      split at h <;> cases h <;>
        exact ⟨_, [.retrieve j t.i], _, ht, rfl, by simp, .inr ⟨rfl, hp, by simp⟩, by simp⟩
    · cases h
      exact ⟨_, [], [], ht, rfl, by simp, .inl rfl, by simp⟩
    · next w ws _ =>
      cases h
      refine ⟨_, [], wrapperSends t.sub.chan w, ht, rfl, by simp, .inl rfl, fun ev hev => ?_⟩
      cases w <;> simp_all [wrapperSends]
    · cases h
      exact ⟨_, [], [.send t.sub.chan .backFillComplete], ht, rfl, by simp, .inl rfl, by simp⟩
    · cases h

theorem fold_unsubscribeType_frame (id : String) (order : List String) :
    let s' := order.foldl (unsubscribeType id) s
    s'.quitClosed = s.quitClosed ∧ s'.backfillTasks = s.backfillTasks ∧
      s'.nextChan = s.nextChan ∧ s'.log = s.log := by
  induction order generalizing s with
  | nil => exact ⟨rfl, rfl, rfl, rfl⟩
  | cons t rest ih =>
    rw [List.foldl_cons]
    rcases unsubscribeType_cases s id t with ⟨-, he⟩ | ⟨-, he⟩ <;> rw [he] <;> exact ih _

theorem close_frame (order : List String) :
    s.backfillTasks = (close order s).backfillTasks ∧ s.nextChan = (close order s).nextChan ∧
      ∃ evs, (close order s).log = s.log ++ evs ∧ ∀ ev ∈ evs, ∃ cs, ev = .quits cs := by
  induction order generalizing s with
  | nil => exact ⟨rfl, rfl, [], by simp [close]⟩
  | cons t rest ih =>
    obtain ⟨h₁, h₂, evs, hl, hevs⟩ := ih (closeType s t)
    refine ⟨h₁, h₂, .quits (((s.subscriptions.lookup t).map bucketChans).getD 0) :: evs, ?_, ?_⟩
    · simp only [close, List.foldl_cons] at hl ⊢
      rw [hl]
      simp [closeType]
    · simpa using hevs

theorem stop_eq {order : List String} {s' : Engine} (h : stop order s = .ok s') :
    s.quitClosed = false ∧ s' = (close order { s with quitClosed := true }).emit [.stopped] := by
  unfold stop at h
  split at h
  · cases h
  · cases h
    exact ⟨by simpa using ‹¬s.quitClosed = true›, rfl⟩

theorem isOrder_nil {β : String → Type} : IsOrder [] (∅ : Finmap β) :=
  ⟨List.nodup_nil, fun _ => by simp [Finmap.not_mem_empty]⟩

theorem Engine.moveTask_task {j : ℕ} (t : BackfillTask) (hj : j < s.backfillTasks.length) :
    (s.moveTask j t evs).backfillTasks[j]? = some t := by
  simp [hj]

section BackfillStep

variable {s} {j : ℕ} {t : BackfillTask} (retrieved : RetrieveOutcome)
  (ht : s.backfillTasks[j]? = some t)
include ht

theorem backfillStep_enter (hp : t.phase = .loopTest) (hle : t.i ≤ t.endingBlock)
    (hq : s.quitClosed = false) :
    backfillStep j retrieved s = some (s.moveTask j { t with phase := .retrieve } []) := by
  simp [backfillStep, ht, hp, hle, hq]

theorem backfillStep_quit (hp : t.phase = .loopTest) (hle : t.i ≤ t.endingBlock)
    (hq : s.quitClosed = true) :
    backfillStep j retrieved s = some (s.moveTask j { t with phase := .done } []) := by
  simp [backfillStep, ht, hp, hle, hq]

theorem backfillStep_exit (hp : t.phase = .loopTest) (hlt : t.endingBlock < t.i) :
    backfillStep j retrieved s = some (s.moveTask j { t with phase := .complete } []) := by
  simp [backfillStep, ht, hp, not_le.mpr hlt]

theorem backfillStep_retrieve (hp : t.phase = .retrieve) :
    backfillStep j retrieved s = some (match retrieved with
      | .error => s.moveTask j { t with i := int64Succ t.i, phase := .loopTest }
          [.retrieve j t.i, .send t.sub.chan .error]
      | .empty => s.moveTask j { t with i := int64Succ t.i, phase := .loopTest } [.retrieve j t.i]
      | .wrappers ws => s.moveTask j { t with phase := .sending ws } [.retrieve j t.i]) := by
  cases retrieved <;> simp [backfillStep, ht, hp]

theorem backfillStep_send (w : WrapperOutcome) (ws : List WrapperOutcome)
    (hp : t.phase = .sending (w :: ws)) :
    backfillStep j retrieved s =
      some (s.moveTask j { t with phase := .sending ws } (wrapperSends t.sub.chan w)) := by
  simp [backfillStep, ht, hp]

theorem backfillStep_next (hp : t.phase = .sending []) :
    backfillStep j retrieved s =
      some (s.moveTask j { t with i := int64Succ t.i, phase := .loopTest } []) := by
  simp [backfillStep, ht, hp]

theorem backfillStep_complete (hp : t.phase = .complete) :
    backfillStep j retrieved s =
      some (s.moveTask j { t with phase := .done } [.send t.sub.chan .backFillComplete]) := by
  simp [backfillStep, ht, hp]

end BackfillStep

end Lemmas

section Live

variable {s : Engine} {ty : String} {cfg : SubscriptionSettings}
  {filtered : SubscriptionSettings → FilterOutcome}

theorem serveType_of_response (hcfg : s.subscriptionTypes.lookup ty = some cfg)
    (hf : filtered cfg = .response) (n : ℤ) :
    serveType n filtered s ty =
      if bigIntInt64 cfg.«end» > 0 ∧ bigIntInt64 cfg.«end» < bigIntInt64 n then closeType s ty
      else s.emit [.fanout (((s.subscriptions.lookup ty).map bucketChans).getD 0)] := by
  simp only [serveType, hcfg, hf]

/-- The end-of-range test comes before `Filter`, so it closes the type whatever the filter answers.
-/
theorem serveType_of_past_end (hcfg : s.subscriptionTypes.lookup ty = some cfg) {n : ℤ}
    (hend : bigIntInt64 cfg.«end» > 0 ∧ bigIntInt64 cfg.«end» < bigIntInt64 n) :
    serveType n filtered s ty = closeType s ty := by
  simp only [serveType, hcfg, if_pos hend]

/-- `End` is read through `Int64()`, so an `End` of `2^64 + 5` closes the type on block 6. -/
theorem end_past_int64_closes_early :
    (∀ (s : Engine) (ty : String) (cfg : SubscriptionSettings)
        (filtered : SubscriptionSettings → FilterOutcome) (n : ℤ),
        s.subscriptionTypes.lookup ty = some cfg → filtered cfg = .response →
        0 ≤ cfg.«end» → cfg.«end» < 2 ^ 63 → 0 ≤ n → n < 2 ^ 63 →
        serveType n filtered s ty =
          if 0 < cfg.«end» ∧ cfg.«end» < n then closeType s ty
          else s.emit [.fanout (((s.subscriptions.lookup ty).map bucketChans).getD 0)]) ∧
      ∀ (s : Engine) (ty : String) (filtered : SubscriptionSettings → FilterOutcome),
        s.subscriptionTypes.lookup ty = some { «end» := 2 ^ 64 + 5 } →
        serveType 6 filtered s ty = closeType s ty := by
  refine ⟨fun s ty cfg filtered n hcfg hf he₀ he₁ hn₀ hn₁ => ?_, fun s ty filtered hcfg => ?_⟩
  · rw [serveType_of_response hcfg hf, bigIntInt64_of_lt (by omega) he₁,
      bigIntInt64_of_lt (by omega) hn₁]
  · exact serveType_of_past_end hcfg (by decide)

end Live

/-- Two subscribers to one type, a live payload served to both, then `Unsubscribe(a)`. -/
def twoSubscriberRun : Engine :=
  unsubscribe ["t"] "a" (filterAndServe ["t"] 1 (fun _ => .response)
    (subscribe (fun _ => .ok []) (fun _ => "t") "b" {}
      (subscribe (fun _ => .ok []) (fun _ => "t") "a" {} newServer)))

theorem twoSubscriberRun_reachable :
    Reachable (fun _ => .ok []) (fun _ => "t") twoSubscriberRun := by
  have ho : ∀ s : Engine, (∀ ty, ty ∈ s.subscriptions ↔ ty = "t") →
      IsOrder ["t"] s.subscriptions :=
    fun s h => ⟨List.nodup_singleton _, fun ty => by rw [h, List.mem_singleton]⟩
  refine .step (.step (.step (.step .init (.subscribe _ "a" {})) (.subscribe _ "b" {}))
    (.filterAndServe _ ["t"] 1 _ rfl (ho _ fun ty => ?_)))
    (.unsubscribe _ ["t"] "a" (ho _ fun ty => ?_))
  · simp [subscribe, addSubscriber, newServer, Finmap.not_mem_empty]
  · simp [subscribe, addSubscriber, newServer, filterAndServe, serveType, Finmap.not_mem_empty,
      bigIntInt64]

end IpldEthServer
