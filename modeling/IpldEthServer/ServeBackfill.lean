import IpldEthServer.Serve

namespace IpldEthServer

/-- `fuel` steps of backfill goroutine `j` with no other step between them. -/
def runBackfill (j : ℕ) (outcome : ℤ → RetrieveOutcome) : ℕ → Engine → Engine
  | 0, s => s
  | fuel + 1, s =>
    match s.backfillTasks[j]? with
    | none => s
    | some t =>
      match backfillStep j (outcome t.i) s with
      | none => s
      | some s' => runBackfill j outcome fuel s'

def heightsFrom (a b : ℤ) : List ℤ := (List.range (b + 1 - a).toNat).map fun k : ℕ => a + k

def blockEvents (j chan : ℕ) (h : ℤ) : RetrieveOutcome → List Event
  | .error => [.retrieve j h, .send chan .error]
  | .empty => [.retrieve j h]
  | .wrappers ws => .retrieve j h :: ws.flatMap (wrapperSends chan)

section

variable {j : ℕ} (outcome : ℤ → RetrieveOutcome)

theorem heightsFrom_of_le {a b : ℤ} (h : a ≤ b) :
    heightsFrom a b = a :: heightsFrom (a + 1) b := by
  unfold heightsFrom
  rw [show (b + 1 - a).toNat = (b + 1 - (a + 1)).toNat + 1 by omega, List.range_succ_eq_map,
    List.map_cons, List.map_map]
  refine congrArg₂ _ (by simp) (List.map_congr_left fun k _ => ?_)
  simp only [Function.comp, Nat.succ_eq_add_one, Nat.cast_add, Nat.cast_one]
  omega

theorem heightsFrom_of_lt {a b : ℤ} (h : b < a) : heightsFrom a b = [] := by
  simp [heightsFrom, show (b + 1 - a).toNat = 0 by omega]

theorem Engine.moveTask_moveTask (s : Engine) (t₁ t₂ : BackfillTask)
    (evs₁ evs₂ : List Event) :
    (s.moveTask j t₁ evs₁).moveTask j t₂ evs₂ = s.moveTask j t₂ (evs₁ ++ evs₂) := by
  simp [Engine.moveTask, List.set_set]

theorem runBackfill_of_step {s s' : Engine} {t : BackfillTask} (n : ℕ)
    (ht : s.backfillTasks[j]? = some t) (h : backfillStep j (outcome t.i) s = some s') :
    runBackfill j outcome (n + 1) s = runBackfill j outcome n s' := by
  simp [runBackfill, ht, h]

theorem runBackfill_of_stuck {s : Engine}
    (h : ∀ t, s.backfillTasks[j]? = some t → backfillStep j (outcome t.i) s = none) :
    ∀ n, runBackfill j outcome n s = s
  | 0 => rfl
  | n + 1 => by
    unfold runBackfill
    split
    · rfl
    · next t ht => rw [h t ht]

theorem runBackfill_add (a b : ℕ) (s : Engine) :
    runBackfill j outcome (a + b) s = runBackfill j outcome b (runBackfill j outcome a s) := by
  induction a generalizing s with
  | zero => simp [runBackfill]
  | succ a ih =>
    rw [Nat.add_right_comm]
    by_cases hs :
        ∃ t s', s.backfillTasks[j]? = some t ∧ backfillStep j (outcome t.i) s = some s'
    · obtain ⟨t, s', ht, hb⟩ := hs
      rw [runBackfill_of_step _ _ ht hb, runBackfill_of_step _ _ ht hb, ih]
    · have hstuck := runBackfill_of_stuck outcome (s := s) (j := j) fun t ht =>
        Option.eq_none_iff_forall_not_mem.mpr fun s' hb => hs ⟨t, s', ht, hb⟩
      rw [hstuck, hstuck, hstuck]

theorem runBackfill_sending (s : Engine) (t : BackfillTask) (ws : List WrapperOutcome)
    (ht : s.backfillTasks[j]? = some t) (hp : t.phase = .sending ws) :
    runBackfill j outcome (ws.length + 1) s =
      s.moveTask j { t with i := int64Succ t.i, phase := .loopTest }
        (ws.flatMap (wrapperSends t.sub.chan)) := by
  induction ws generalizing s t with
  | nil =>
    rw [List.length_nil, runBackfill_of_step _ 0 ht (backfillStep_next _ ht hp)]
    rfl
  | cons w ws ih =>
    have hlen := (List.getElem?_eq_some_iff.mp ht).1
    rw [List.length_cons, runBackfill_of_step _ _ ht (backfillStep_send _ ht w ws hp),
      ih _ { t with phase := .sending ws } (Engine.moveTask_task _ _ _ hlen) rfl,
      Engine.moveTask_moveTask, List.flatMap_cons]

/-- One block: the goroutine calls `Retrieve`, sends what the answer gives, and comes back with the
next height. -/
theorem runBackfill_block (s : Engine) (t : BackfillTask) (ht : s.backfillTasks[j]? = some t)
    (hp : t.phase = .loopTest) (hle : t.i ≤ t.endingBlock) (hq : s.quitClosed = false) :
    ∃ n, runBackfill j outcome n s =
      s.moveTask j { t with i := int64Succ t.i, phase := .loopTest }
        (blockEvents j t.sub.chan t.i (outcome t.i)) := by
  have hlen := (List.getElem?_eq_some_iff.mp ht).1
  have ht₁ := Engine.moveTask_task s [] { t with phase := .retrieve } hlen
  have h₁ :=
    runBackfill_of_step outcome (0 + 1) ht (backfillStep_enter (outcome t.i) ht hp hle hq)
  have h₂ := runBackfill_of_step outcome 0 ht₁ (backfillStep_retrieve (outcome t.i) ht₁ rfl)
  cases hout : outcome t.i with
  | error | empty =>
    refine ⟨0 + 1 + 1, ?_⟩
    rw [h₁, h₂, hout]
    simp [runBackfill, Engine.moveTask_moveTask, blockEvents]
  | wrappers ws =>
    let s₂ := (s.moveTask j { t with phase := .retrieve } []).moveTask j
      { t with phase := .sending ws } [.retrieve j t.i]
    have ht₂ : s₂.backfillTasks[j]? = some { t with phase := .sending ws } :=
      Engine.moveTask_task _ _ _ (by simpa using hlen)
    have h₂' :
        runBackfill j outcome (0 + 1) (s.moveTask j { t with phase := .retrieve } []) = s₂ := by
      rw [h₂, hout]
      rfl
    refine ⟨0 + 1 + 1 + (ws.length + 1), ?_⟩
    rw [runBackfill_add, h₁, h₂', runBackfill_sending outcome s₂ _ ws ht₂ rfl]
    simp [s₂, Engine.moveTask_moveTask, blockEvents]

/-- Left alone, a goroutine retrieves each height from `i` to `endingBlock` in order, then sends
`BackFillComplete`. -/
theorem runBackfill_spec (s : Engine) (t : BackfillTask) (ht : s.backfillTasks[j]? = some t)
    (hp : t.phase = .loopTest) (hq : s.quitClosed = false) (hlo : -2 ^ 63 ≤ t.i)
    (hhi : t.endingBlock < 2 ^ 63 - 1) :
    ∃ n, runBackfill j outcome n s =
      s.moveTask j { t with i := max t.i (t.endingBlock + 1), phase := .done }
        ((heightsFrom t.i t.endingBlock).flatMap (fun h => blockEvents j t.sub.chan h (outcome h)) ++
          [.send t.sub.chan .backFillComplete]) := by
  obtain ⟨m, hm⟩ : ∃ m, m = (t.endingBlock + 1 - t.i).toNat := ⟨_, rfl⟩
  induction m generalizing s t with
  | zero =>
    have hlt : t.endingBlock < t.i := by omega
    have ht₁ := Engine.moveTask_task s [] { t with phase := .complete }
      (List.getElem?_eq_some_iff.mp ht).1
    refine ⟨0 + 1 + 1, ?_⟩
    rw [runBackfill_of_step outcome _ ht (backfillStep_exit _ ht hp hlt),
      runBackfill_of_step outcome _ ht₁ (backfillStep_complete _ ht₁ rfl)]
    simp [runBackfill, Engine.moveTask_moveTask, heightsFrom_of_lt hlt,
      max_eq_left (show t.endingBlock + 1 ≤ t.i by omega)]
  | succ m ih =>
    have hle : t.i ≤ t.endingBlock := by omega
    have hsucc : int64Succ t.i = t.i + 1 := bigIntInt64_of_lt (by omega) (by omega)
    obtain ⟨n₁, h₁⟩ := runBackfill_block outcome s t ht hp hle hq
    rw [hsucc] at h₁
    obtain ⟨n₂, h₂⟩ := ih _ { t with i := t.i + 1, phase := .loopTest }
      (Engine.moveTask_task _ _ _ (List.getElem?_eq_some_iff.mp ht).1) rfl hq (by simp; omega)
      hhi (by simp; omega)
    refine ⟨n₁ + n₂, ?_⟩
    rw [runBackfill_add, h₁, h₂, Engine.moveTask_moveTask, heightsFrom_of_le hle,
      List.flatMap_cons, List.append_assoc]
    simp [max_eq_right (show t.i ≤ t.endingBlock + 1 by omega),
      max_eq_right (show t.i + 1 ≤ t.endingBlock + 1 by omega)]

end

def blockFiveSettings : SubscriptionSettings := { backFill := true, start := 5, «end» := 5 }

/-- Asked for block 5 alone, the backfill runs to the index's last block: `End` is not above the
start. -/
theorem single_block_backfill_runs_to_last (s : Engine) (sub : Subscription)
    (hpending : s.pendingBackfills[0]? = some (sub, blockFiveSettings))
    (hq : s.quitClosed = false) :
    backfillRange 0 10 blockFiveSettings = (5, 10) ∧
      ∃ n, (runBackfill s.backfillTasks.length (fun _ => .empty) n
          (sendHistoricalData 0 (.ok 0) (.ok 10) s)).log =
        s.log ++ [5, 6, 7, 8, 9, 10].map (Event.retrieve s.backfillTasks.length) ++
          [.send sub.chan .backFillComplete] := by
  have hrange : backfillRange 0 10 blockFiveSettings = (5, 10) := by
    simp [backfillRange, blockFiveSettings, bigIntInt64]
  refine ⟨hrange, ?_⟩
  let t : BackfillTask := ⟨sub, 5, 10, .loopTest⟩
  have hs : sendHistoricalData 0 (.ok 0) (.ok 10) s =
      { s with pendingBackfills := s.pendingBackfills.eraseIdx 0
               backfillTasks := s.backfillTasks ++ [t] } := by
    simp only [sendHistoricalData, hpending, hrange]
  obtain ⟨n, hn⟩ :=
    runBackfill_spec (fun _ => .empty) (sendHistoricalData 0 (.ok 0) (.ok 10) s) t
      (by rw [hs]; exact List.getElem?_concat_length _ _) rfl (by rw [hs]; exact hq)
      (show (-2 ^ 63 : ℤ) ≤ 5 by decide) (show (10 : ℤ) < 2 ^ 63 - 1 by decide)
  refine ⟨n, ?_⟩
  rw [hn, Engine.moveTask_log, hs]
  simp [t, heightsFrom, blockEvents, List.range_succ]

theorem single_block_backfill_runs_to_last_from_one_call :
    (({ pendingBackfills := [(⟨"x", 0⟩, blockFiveSettings)] } : Engine).pendingBackfills[0]? =
        some (⟨"x", 0⟩, blockFiveSettings) ∧
      ({ pendingBackfills := [(⟨"x", 0⟩, blockFiveSettings)] } : Engine).quitClosed = false) ∧
      (backfillRange 0 10 blockFiveSettings = (5, 10) ∧
        ∃ n, (runBackfill ({ pendingBackfills := [(⟨"x", 0⟩, blockFiveSettings)] } : Engine).backfillTasks.length
            (fun _ => .empty) n (sendHistoricalData 0 (.ok 0) (.ok 10)
              { pendingBackfills := [(⟨"x", 0⟩, blockFiveSettings)] })).log =
          ({ pendingBackfills := [(⟨"x", 0⟩, blockFiveSettings)] } : Engine).log ++
            [5, 6, 7, 8, 9, 10].map (Event.retrieve
              ({ pendingBackfills := [(⟨"x", 0⟩, blockFiveSettings)] } : Engine).backfillTasks.length) ++
            [.send 0 .backFillComplete]) :=
  ⟨⟨rfl, rfl⟩, single_block_backfill_runs_to_last _ ⟨"x", 0⟩ rfl rfl⟩

end IpldEthServer
