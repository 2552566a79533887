import IpldEthServer.CidIndex
import IpldEthServer.IpldRetriever

/-! The read transactions of the retrievers and resolvers. All but `GetLogs` defer one
handler after `Beginx`: on a panic it rolls back and panics again, on a non-nil `err` it rolls
back, and otherwise it commits. It reads the `err` declared with the transaction, so an error
the body returns through an `if err := …` that shadows it, or builds afresh, is committed.
`GetLogs` defers nothing and commits only after its query succeeds. Each body is modelled
after a successful `Beginx`, from the outcomes of the calls it makes. -/
namespace IpldEthServer

open StateIndex

inductive Ending where
  | ok
  | err
  | panic
  deriving DecidableEq, Repr

/-- Where the body puts a call's error: in the `err` the deferred handler reads, or elsewhere. -/
inductive ErrBinding where
  | outer
  | inner
  deriving DecidableEq, Repr

inductive Exit where
  | returned (errSet : Bool)
  | panicked
  deriving DecidableEq, Repr

/-- The deferred handler of every transactional operation but `GetLogs`. -/
def deferredEnd : Exit → TxEnd
  | .panicked => .rollback
  | .returned true => .rollback
  | .returned false => .commit

/-- A body that makes its calls in order and stops at the first one that does not succeed. -/
def runCalls : List (ErrBinding × Ending) → Ending × Exit
  | [] => (.ok, .returned false)
  | (_, .ok) :: rest => runCalls rest
  | (b, .err) :: _ => (.err, .returned (b = .outer))
  | (_, .panic) :: _ => (.panic, .panicked)

/-- A body run under the deferred handler: how it ends, and the `Commit` and `Rollback` calls made.
-/
def withDeferredHandler (body : Ending × Exit) : Ending × List TxEnd :=
  (body.1, [deferredEnd body.2])

/-- The end the spec asks for: a commit on return, a rollback on an error or a panic. -/
def expectedEnd : Ending → TxEnd
  | .ok => .commit
  | _ => .rollback

/-- The transaction is ended exactly once, and as `expectedEnd` says. -/
def Disciplined (run : Ending × List TxEnd) : Prop :=
  run.2 = [expectedEnd run.1]

instance (run : Ending × List TxEnd) : Decidable (Disciplined run) :=
  inferInstanceAs (Decidable (run.2 = _))

theorem disciplined_of_outer :
    ∀ calls : List (ErrBinding × Ending), (∀ c ∈ calls, c.1 = .outer) →
      Disciplined (withDeferredHandler (runCalls calls))
  | [], _ => rfl
  | (b, e) :: rest, h => by
    have hb : b = .outer := h _ (List.mem_cons_self _ _)
    cases e with
    | ok => exact disciplined_of_outer rest fun c hc => h c (List.mem_cons_of_mem _ hc)
    | err => simp [withDeferredHandler, runCalls, hb, deferredEnd, Disciplined, expectedEnd]
    | panic => rfl

/-- An error the handler does not see is committed. -/
theorem runCalls_commits_inner_error (pre rest : List (ErrBinding × Ending))
    (hpre : ∀ c ∈ pre, c.2 = .ok) :
    withDeferredHandler (runCalls (pre ++ (.inner, .err) :: rest)) = (.err, [.commit]) := by
  induction pre with
  | nil => rfl
  | cons c pre ih =>
    obtain ⟨b, e⟩ := c
    obtain rfl : e = .ok := hpre _ (List.mem_cons_self _ _)
    exact ih fun c hc => hpre c (List.mem_cons_of_mem _ hc)

inductive RetrieveQuery where
  | uncles
  | txs
  | rcts
  | state
  | storage
  deriving DecidableEq, Repr

def retrieveHeaderQueries (filter : SubscriptionSettings) : List RetrieveQuery :=
  (if !filter.headerFilter.off && filter.headerFilter.uncles then [.uncles] else []) ++
    (if filter.txFilter.off then [] else [.txs]) ++
    (if filter.receiptFilter.off then [] else [.rcts]) ++
    (if filter.stateFilter.off then [] else [.state]) ++
    (if filter.storageFilter.off then [] else [.storage])

/-- The transaction of `CIDRetriever.Retrieve`; every error goes through `err = …`. -/
def retrieveTx (filter : SubscriptionSettings) (headerQuery : Ending) (headers : ℕ)
    (outcome : ℕ → RetrieveQuery → Ending) : Ending × List TxEnd :=
  withDeferredHandler <| runCalls <| (.outer, headerQuery) ::
    (List.range headers).flatMap fun i =>
      (retrieveHeaderQueries filter).map fun q => (.outer, outcome i q)

/-- The transaction of `CIDRetriever.RetrieveBlockByHash`. -/
def retrieveBlockByHashTx (header parse uncles txs rcts : Ending) : Ending × List TxEnd :=
  withDeferredHandler <|
    runCalls [(.outer, header), (.outer, parse), (.outer, uncles), (.outer, txs), (.outer, rcts)]

/-- The transaction of `CIDRetriever.RetrieveBlockByNumber`; the one-row check builds its error on
the spot. -/
def retrieveBlockByNumberTx (header : Ending) (headers : ℕ) (uncles txs rcts : Ending) :
    Ending × List TxEnd :=
  withDeferredHandler <|
    runCalls [(.outer, header), (.inner, if headers < 1 then .err else .ok), (.outer, uncles),
      (.outer, txs), (.outer, rcts)]

/-- The transaction of `Resolver.AllEthHeaderCids`, begun after both retrievals; its body makes no
call. -/
def allEthHeaderCidsTx : Ending × List TxEnd :=
  withDeferredHandler (runCalls [])

/-- The transaction of `Resolver.GetLogs`, which defers nothing. -/
def getLogsTx (logs : Ending) (commitOk : Bool) : Ending × List TxEnd :=
  match logs with
  | .ok => (if commitOk then .ok else .err, [.commit])
  | .err => (.err, [])
  | .panic => (.panic, [])

def Outcome.ending {α : Type} : Outcome α → Ending
  | .ret _ => .ok
  | .err _ => .err
  | .panic _ => .panic

def storageAtByHashTx (info : Except SqlError StorageLeafRow)
    (deleted : StorageLeafRow → Except SqlError Bool) : Ending × List TxEnd :=
  let r := storageAtByHashFlow info deleted
  (r.1.ending, [r.2])

/-- Which operations end their transaction as the spec asks, and which leave it open or commit on an
error. -/
theorem transaction_left_open_or_committed_on_error :
    (∀ (filter : SubscriptionSettings) (headerQuery : Ending) (headers : ℕ)
        (outcome : ℕ → RetrieveQuery → Ending),
        Disciplined (retrieveTx filter headerQuery headers outcome)) ∧
      (∀ header parse uncles txs rcts : Ending,
        Disciplined (retrieveBlockByHashTx header parse uncles txs rcts)) ∧
      Disciplined allEthHeaderCidsTx ∧
      (∀ (header : Ending) (headers : ℕ) (uncles txs rcts : Ending), 1 ≤ headers →
        Disciplined (retrieveBlockByNumberTx header headers uncles txs rcts)) ∧
      getLogsTx .err true = (.err, []) ∧ getLogsTx .panic true = (.panic, []) ∧
      (∀ (e : SqlError) (deleted : StorageLeafRow → Except SqlError Bool),
        storageAtByHashTx (.error e) deleted = (.err, [.commit])) ∧
      ∀ uncles txs rcts : Ending, retrieveBlockByNumberTx .ok 0 uncles txs rcts = (.err, [.commit]) := by
  refine ⟨fun filter headerQuery headers outcome => ?_, fun header parse uncles txs rcts => ?_, rfl,
    fun header headers uncles txs rcts h => ?_, rfl, rfl, fun _ _ => rfl,
    fun uncles txs rcts => runCalls_commits_inner_error [(.outer, .ok)] _ (by simp)⟩
  · refine disciplined_of_outer _ fun c hc => ?_
    simp only [List.mem_cons, List.mem_flatMap, List.mem_map, List.mem_range] at hc
    obtain rfl | ⟨_, _, _, _, rfl⟩ := hc <;> rfl
  · exact disciplined_of_outer _ (by simp)
  · cases header with
    | ok =>
      simp only [retrieveBlockByNumberTx, if_neg (show ¬headers < 1 by omega), runCalls]
      exact disciplined_of_outer [_, _, _] (by simp)
    | err | panic => rfl

end IpldEthServer
