import IpldEthServer.ServeMaps

namespace IpldEthServer

def Event.sendsOn : Event → ℕ → Prop
  | .send c _, c' => c = c'
  | .fanout cs, c => c ∈ cs
  | _, _ => False

def Event.servesLive : Event → ℕ → Prop
  | .fanout cs, c => c ∈ cs
  | _, _ => False

/-- No payload `sends` counts reaches a subscription after an `Unsubscribe` of its id or a `Stop`.
-/
def PayloadsEndAtCancel (sends : Event → ℕ → Prop) (log : List Event) : Prop :=
  ∀ sub e, sends e sub.chan →
    ¬ List.Sublist [.subscribed sub, .unsubscribed sub.id, e] log ∧
      ¬ List.Sublist [.subscribed sub, .stopped, e] log

section Sublist

variable {α : Type*} {l log evs : List α} {e x : α}

theorem sublist_of_append_of_last_not_mem (h : List.Sublist (l ++ [x]) (log ++ evs))
    (hx : x ∉ evs) : List.Sublist (l ++ [x]) log := by
  obtain ⟨l₁, l₂, he, h₁, h₂⟩ := List.sublist_append_iff.mp h
  rcases List.eq_nil_or_concat l₂ with rfl | ⟨L, y, rfl⟩
  · rwa [he, List.append_nil]
  · rw [List.concat_eq_append, ← List.append_assoc] at he
    obtain ⟨-, hxy⟩ := List.append_inj' he rfl
    exact absurd (h₂.subset (by simp [List.singleton_inj.mp hxy])) hx

theorem sublist_append_singleton (h : List.Sublist (l ++ [x]) (log ++ [e])) :
    List.Sublist (l ++ [x]) log ∨ (x = e ∧ List.Sublist l log) := by
  by_cases hx : x = e
  · obtain ⟨l₁, l₂, he, h₁, h₂⟩ := List.sublist_append_iff.mp h
    rcases List.sublist_singleton.mp h₂ with rfl | rfl
    · exact .inl (by rwa [he, List.append_nil])
    · exact .inr ⟨hx, (List.append_inj' he rfl).1 ▸ h₁⟩
  · exact .inl (sublist_of_append_of_last_not_mem h (by simpa using hx))

end Sublist

/-- `Subscribe` gave `sub` its channels before an `Unsubscribe` of its id or a `Stop` returned. -/
def Cancelled (log : List Event) (sub : Subscription) : Prop :=
  List.Sublist [.subscribed sub, .unsubscribed sub.id] log ∨
    List.Sublist [.subscribed sub, .stopped] log

def Event.Quiet : Event → Prop
  | .send _ _ | .quits _ | .configUnavailable _ => True
  | _ => False

/-- No live payload after a cancellation, and no two `Retrieve` calls of one goroutine after `Stop`.
-/
structure LogInvariant (log : List Event) : Prop where
  live : PayloadsEndAtCancel Event.servesLive log
  retrieves : ∀ j h₁ h₂, ¬ List.Sublist [.stopped, .retrieve j h₁, .retrieve j h₂] log

theorem cancelled_of_append {log evs : List Event} {sub : Subscription}
    (hc : Cancelled (log ++ evs) sub) (hu : .unsubscribed sub.id ∉ evs) (hs : .stopped ∉ evs) :
    Cancelled log sub :=
  hc.imp (sublist_of_append_of_last_not_mem (l := [_]) · hu)
    (sublist_of_append_of_last_not_mem (l := [_]) · hs)

theorem LogInvariant.append {log evs : List Event} (h : LogInvariant log)
    (hevs : ∀ ev ∈ evs, (∀ cs, ev ≠ .fanout cs) ∧ ∀ j ht, ev ≠ .retrieve j ht) :
    LogInvariant (log ++ evs) where
  live sub e he := by
    have hne : e ∉ evs := fun hin => by
      cases e <;> first | exact he.elim | exact (hevs _ hin).1 _ rfl
    exact ⟨fun hs => (h.live sub e he).1 (sublist_of_append_of_last_not_mem (l := [_, _]) hs hne),
      fun hs => (h.live sub e he).2 (sublist_of_append_of_last_not_mem (l := [_, _]) hs hne)⟩
  retrieves j h₁ h₂ hs :=
    h.retrieves j h₁ h₂ (sublist_of_append_of_last_not_mem (l := [_, _]) hs
      fun hin => (hevs _ hin).2 j h₂ rfl)

theorem LogInvariant.append_fanout {log : List Event} {cs : Multiset ℕ} (h : LogInvariant log)
    (hcs : ∀ sub, sub.chan ∈ cs → ¬ Cancelled log sub) : LogInvariant (log ++ [.fanout cs]) where
  live sub e he := by
    refine ⟨fun hs => ?_, fun hs => ?_⟩ <;>
      rcases sublist_append_singleton (l := [_, _]) hs with hs' | ⟨rfl, hs'⟩
    exacts [(h.live sub e he).1 hs', hcs sub he (.inl hs'), (h.live sub e he).2 hs',
      hcs sub he (.inr hs')]
  retrieves j h₁ h₂ hs := by
    rcases sublist_append_singleton (l := [_, _]) hs with hs | ⟨he, -⟩
    exacts [h.retrieves j h₁ h₂ hs, Event.noConfusion he]

theorem LogInvariant.append_retrieve {log : List Event} {j : ℕ} {ht : ℤ} (h : LogInvariant log)
    (hj : ∀ h', ¬ List.Sublist [.stopped, .retrieve j h'] log) :
    LogInvariant (log ++ [.retrieve j ht]) where
  live sub e he := by
    have hne : e ∉ [Event.retrieve j ht] := by
      cases e <;> simp_all [Event.servesLive]
    exact ⟨fun hs => (h.live sub e he).1 (sublist_of_append_of_last_not_mem (l := [_, _]) hs hne),
      fun hs => (h.live sub e he).2 (sublist_of_append_of_last_not_mem (l := [_, _]) hs hne)⟩
  retrieves j' h₁ h₂ hs := by
    rcases sublist_append_singleton (l := [_, _]) hs with hs' | ⟨he, hs'⟩
    · exact h.retrieves j' h₁ h₂ hs'
    · cases he
      exact hj h₁ hs'

theorem LogInvariant.append_quiet {log evs : List Event} (h : LogInvariant log)
    (hevs : ∀ ev ∈ evs, ev.Quiet) : LogInvariant (log ++ evs) :=
  h.append fun ev hin => ⟨fun cs he => by simpa [Event.Quiet, he] using hevs ev hin,
    fun j ht he => by simpa [Event.Quiet, he] using hevs ev hin⟩

def Engine.Stores (s : Engine) (k : String) (sub : Subscription) : Prop :=
  ∃ ty b, s.subscriptions.lookup ty = some b ∧ b.lookup k = some sub

def Event.Passive : Event → Prop
  | .send _ _ | .fanout _ | .quits _ | .configUnavailable _ => True
  | _ => False

theorem Event.Quiet.passive {ev : Event} (h : ev.Quiet) : ev.Passive := by
  cases ev <;> simp_all [Event.Quiet, Event.Passive]

/-- What the engine keeps between its steps for the delivery guarantees. -/
structure DeliveryInvariant (s : Engine) : Prop where
  chan_fresh : ∀ sub, .subscribed sub ∈ s.log → sub.chan < s.nextChan
  chan_unique : ∀ sub sub', .subscribed sub ∈ s.log → .subscribed sub' ∈ s.log →
    sub.chan = sub'.chan → sub = sub'
  stored : ∀ k sub, s.Stores k sub → sub.id = k ∧ .subscribed sub ∈ s.log ∧ ¬ Cancelled s.log sub
  quit_iff : s.quitClosed = true ↔ .stopped ∈ s.log
  retrieve_pending : ∀ (j : ℕ) (t : BackfillTask) (height : ℤ), s.backfillTasks[j]? = some t →
    t.phase = .retrieve → ¬ List.Sublist [.stopped, .retrieve j height] s.log
  log : LogInvariant s.log

section

variable {s s' : Engine}

theorem DeliveryInvariant.of_append (h : DeliveryInvariant s) {evs : List Event}
    (hlog : s'.log = s.log ++ evs) (hsub : ∀ sub, Event.subscribed sub ∉ evs)
    (hun : ∀ id, Event.unsubscribed id ∉ evs) (hst : Event.stopped ∉ evs)
    (hinv : LogInvariant s'.log) (hchan : s'.nextChan = s.nextChan)
    (hquit : s'.quitClosed = s.quitClosed)
    (hpending : ∀ (j : ℕ) (t : BackfillTask) (height : ℤ), s'.backfillTasks[j]? = some t →
      t.phase = .retrieve → ¬ List.Sublist [.stopped, .retrieve j height] s'.log)
    (hstores : ∀ k sub, s'.Stores k sub → s.Stores k sub) : DeliveryInvariant s' := by
  refine ⟨fun sub hin => ?_, fun sub sub' hin hin' => ?_, fun k sub hs => ?_, ?_, hpending,
    hinv⟩
  · rw [hlog, List.mem_append, or_iff_left (hsub sub)] at hin
    exact hchan ▸ h.chan_fresh sub hin
  · rw [hlog, List.mem_append, or_iff_left (hsub sub)] at hin
    rw [hlog, List.mem_append, or_iff_left (hsub sub')] at hin'
    exact h.chan_unique sub sub' hin hin'
  · obtain ⟨hid, hin, hnc⟩ := h.stored k sub (hstores k sub hs)
    exact ⟨hid, hlog ▸ List.mem_append_left _ hin,
      fun hc => hnc (cancelled_of_append (hlog ▸ hc) (hun _) hst)⟩
  · rw [hquit, h.quit_iff, hlog, List.mem_append, or_iff_left hst]

theorem DeliveryInvariant.of_passive (h : DeliveryInvariant s) {evs : List Event}
    (hlog : s'.log = s.log ++ evs) (hevs : ∀ ev ∈ evs, ev.Passive)
    (hinv : LogInvariant s'.log) (hchan : s'.nextChan = s.nextChan)
    (hquit : s'.quitClosed = s.quitClosed)
    (htasks : ∀ (j : ℕ) (t : BackfillTask), s'.backfillTasks[j]? = some t → t.phase = .retrieve →
      s.backfillTasks[j]? = some t)
    (hstores : ∀ k sub, s'.Stores k sub → s.Stores k sub) : DeliveryInvariant s' :=
  h.of_append hlog (fun _ hin => hevs _ hin) (fun _ hin => hevs _ hin) (fun hin => hevs _ hin)
    hinv hchan hquit (fun j t height ht hp hs => h.retrieve_pending j t height (htasks j t ht hp) hp
      (sublist_of_append_of_last_not_mem (l := [_]) (hlog ▸ hs) fun hin => hevs _ hin)) hstores

theorem DeliveryInvariant.of_quiet (h : DeliveryInvariant s) {evs : List Event}
    (hlog : s'.log = s.log ++ evs) (hevs : ∀ ev ∈ evs, ev.Quiet)
    (hchan : s'.nextChan = s.nextChan) (hquit : s'.quitClosed = s.quitClosed)
    (htasks : ∀ (j : ℕ) (t : BackfillTask), s'.backfillTasks[j]? = some t → t.phase = .retrieve →
      s.backfillTasks[j]? = some t)
    (hstores : ∀ k sub, s'.Stores k sub → s.Stores k sub) : DeliveryInvariant s' :=
  h.of_passive hlog (fun ev hin => (hevs ev hin).passive) (hlog ▸ h.log.append_quiet hevs) hchan
    hquit htasks hstores

theorem stores_closeType {ty k : String} {sub : Subscription} (h : (closeType s ty).Stores k sub) :
    s.Stores k sub := by
  obtain ⟨t, b, hb, hk⟩ := h
  by_cases ht : t = ty
  · rw [closeType_subscriptions, ht, Finmap.lookup_erase] at hb
    cases hb
  · exact ⟨t, b, by rwa [closeType_subscriptions, Finmap.lookup_erase_ne ht] at hb, hk⟩

theorem stores_unsubscribeType {id ty k : String} {sub : Subscription}
    (h : (unsubscribeType id s ty).Stores k sub) : s.Stores k sub := by
  obtain ⟨t, b, hb, hk⟩ := h
  rcases unsubscribeType_cases s id ty with ⟨-, he⟩ | ⟨-, he⟩ <;> rw [he] at hb <;>
    by_cases ht : t = ty
  · rw [ht, Finmap.lookup_erase] at hb
    cases hb
  · exact ⟨t, b, by rwa [Finmap.lookup_erase_ne ht] at hb, hk⟩
  · rw [ht, Finmap.lookup_insert, Option.some.injEq] at hb
    subst hb
    cases hl : s.subscriptions.lookup ty with
    | none =>
      rw [hl, Option.getD_none, finmap_erase_of_not_mem Finmap.not_mem_empty,
        Finmap.lookup_empty] at hk
      cases hk
    | some b =>
      rw [hl, Option.getD_some] at hk
      by_cases hki : k = id
      · rw [hki, Finmap.lookup_erase] at hk
        cases hk
      · exact ⟨ty, b, ht ▸ hl, by rwa [Finmap.lookup_erase_ne hki] at hk⟩
  · exact ⟨t, b, by rwa [Finmap.lookup_insert_of_ne _ ht] at hb, hk⟩

theorem DeliveryInvariant.close_type (h : DeliveryInvariant s) (ty : String) :
    DeliveryInvariant (closeType s ty) :=
  h.of_quiet rfl (by simp [Event.Quiet]) rfl rfl (fun _ _ ht _ => ht)
    fun _ _ => stores_closeType

theorem DeliveryInvariant.unsubscribe_type (h : DeliveryInvariant s) (id ty : String) :
    DeliveryInvariant (unsubscribeType id s ty) := by
  obtain ⟨hq, ht, hc, hl⟩ := fold_unsubscribeType_frame s id [ty]
  exact h.of_quiet (hl.trans (List.append_nil _).symm) (by simp) hc hq (fun _ _ h' _ => ht ▸ h')
    fun _ _ => stores_unsubscribeType

/-- A live payload to a bucket keeps the invariant: no cancellation has reached its members. -/
theorem DeliveryInvariant.fanout (h : DeliveryInvariant s) (ty : String) :
    DeliveryInvariant (s.emit [.fanout (((s.subscriptions.lookup ty).map bucketChans).getD 0)]) := by
  refine h.of_passive rfl (by simp [Event.Passive]) (h.log.append_fanout fun sub hc hcan => ?_)
    rfl rfl (fun _ _ ht _ => ht) fun _ _ => id
  cases hb : s.subscriptions.lookup ty with
  | none => simp [hb] at hc
  | some b =>
    rw [hb, Option.map_some', Option.getD_some, mem_bucketChans] at hc
    obtain ⟨k, m, hk, hm⟩ := hc
    obtain ⟨-, hin, hnc⟩ := h.stored k m ⟨ty, b, hb, hk⟩
    have hsub : Event.subscribed sub ∈ s.log := by
      rcases hcan with hs | hs <;> exact hs.subset (List.mem_cons_self _ _)
    exact hnc (h.chan_unique sub m hsub hin hm.symm ▸ hcan)

theorem DeliveryInvariant.serve_type (h : DeliveryInvariant s) (blockNumber : ℤ)
    (filtered : SubscriptionSettings → FilterOutcome) (ty : String) :
    DeliveryInvariant (serveType blockNumber filtered s ty) := by
  rcases serveType_cases s blockNumber filtered ty with ⟨-, he⟩ | ⟨-, he | he | he⟩ <;> rw [he]
  · exact DeliveryInvariant.close_type
      (h.of_quiet rfl (by simp [Event.Quiet]) rfl rfl (fun _ _ ht _ => ht) (fun _ _ => id) :
        DeliveryInvariant (s.emit [.configUnavailable ty])) ty
  · exact h.close_type ty
  · exact h
  · exact h.fanout ty

theorem stores_addSubscriber {ty k : String} {sub m : Subscription} {params : SubscriptionSettings}
    (h : (addSubscriber ty sub params s).Stores k m) : s.Stores k m ∨ (k = sub.id ∧ m = sub) := by
  obtain ⟨t, b, hb, hk⟩ := h
  by_cases ht : t = ty
  · rw [addSubscriber, ht, Finmap.lookup_insert, Option.some.injEq] at hb
    subst hb
    by_cases hki : k = sub.id
    · rw [hki, Finmap.lookup_insert, Option.some.injEq] at hk
      exact .inr ⟨hki, hk.symm⟩
    · rw [Finmap.lookup_insert_of_ne _ hki] at hk
      cases hl : s.subscriptions.lookup ty with
      | none =>
        rw [hl, Option.getD_none, Finmap.lookup_empty] at hk
        cases hk
      | some b => exact .inl ⟨ty, b, ht ▸ hl, by rwa [hl, Option.getD_some] at hk⟩
  · exact .inl ⟨t, b, by rwa [addSubscriber, Finmap.lookup_insert_of_ne _ ht] at hb, hk⟩

theorem stores_subscribe (encodeSettings : SubscriptionSettings → Except String (List UInt8))
    (keccak256 : List UInt8 → String) {id k : String} {params : SubscriptionSettings}
    {m : Subscription} (h : (subscribe encodeSettings keccak256 id params s).Stores k m) :
    s.Stores k m ∨ (k = id ∧ m = ⟨id, s.nextChan⟩) := by
  obtain ⟨ty, b, hb, hk⟩ := h
  rcases subscribe_subscriptions s encodeSettings keccak256 id params with he | ⟨ty', he⟩ <;>
    rw [he] at hb
  exacts [.inl ⟨ty, b, hb, hk⟩, stores_addSubscriber ⟨ty, b, hb, hk⟩]

theorem DeliveryInvariant.register (h : DeliveryInvariant s) {id : String}
    (hlog : s'.log = s.log ++ [.subscribed ⟨id, s.nextChan⟩])
    (hchan : s'.nextChan = s.nextChan + 1) (hquit : s'.quitClosed = s.quitClosed)
    (htasks : s'.backfillTasks = s.backfillTasks)
    (hstores : ∀ k m, s'.Stores k m → s.Stores k m ∨ (k = id ∧ m = ⟨id, s.nextChan⟩)) :
    DeliveryInvariant s' := by
  have hfresh : Event.subscribed ⟨id, s.nextChan⟩ ∉ s.log := fun hin =>
    lt_irrefl _ (h.chan_fresh _ hin)
  have hmem : ∀ sub, Event.subscribed sub ∈ s'.log →
      Event.subscribed sub ∈ s.log ∨ sub = ⟨id, s.nextChan⟩ := fun sub hin => by
    rwa [hlog, List.mem_append, List.mem_singleton, Event.subscribed.injEq] at hin
  have hcan : ∀ m, Cancelled s'.log m → Cancelled s.log m := fun m hc =>
    cancelled_of_append (hlog ▸ hc) (by simp) (by simp)
  refine ⟨fun sub hin => ?_, fun sub sub' hin hin' hch => ?_, fun k m hs => ?_, ?_,
    fun j t height htj hp hs => ?_, hlog ▸ h.log.append (by simp)⟩
  · rw [hchan]
    rcases hmem sub hin with hin | rfl
    exacts [Nat.lt_succ_of_lt (h.chan_fresh sub hin), Nat.lt_succ_self _]
  · rcases hmem sub hin with hin | rfl <;> rcases hmem sub' hin' with hin' | rfl
    · exact h.chan_unique sub sub' hin hin' hch
    · exact absurd hch (Nat.ne_of_lt (h.chan_fresh sub hin))
    · exact absurd hch.symm (Nat.ne_of_lt (h.chan_fresh sub' hin'))
    · rfl
  · rcases hstores k m hs with hs | ⟨rfl, rfl⟩
    · obtain ⟨hid, hin, hnc⟩ := h.stored k m hs
      exact ⟨hid, hlog ▸ List.mem_append_left _ hin, fun hc => hnc (hcan m hc)⟩
    · refine ⟨rfl, hlog ▸ List.mem_append_right _ (List.mem_singleton_self _), fun hc => ?_⟩
      rcases hcan _ hc with hc | hc <;> exact hfresh (hc.subset (List.mem_cons_self _ _))
  · simp [hquit, h.quit_iff, hlog]
  · exact h.retrieve_pending j t height (htasks ▸ htj) hp
      (sublist_of_append_of_last_not_mem (l := [_]) (hlog ▸ hs) (by simp))

theorem DeliveryInvariant.subscribe (h : DeliveryInvariant s)
    (encodeSettings : SubscriptionSettings → Except String (List UInt8))
    (keccak256 : List UInt8 → String) (id : String) (params : SubscriptionSettings) :
    DeliveryInvariant (subscribe encodeSettings keccak256 id params s) := by
  obtain ⟨hq, ht, hc, evs, hl, hevs⟩ := subscribe_frame s encodeSettings keccak256 id params
  have hreg : DeliveryInvariant { IpldEthServer.subscribe encodeSettings keccak256 id params s with
      log := s.log ++ [.subscribed ⟨id, s.nextChan⟩] } :=
    h.register rfl hc hq ht fun _ _ hs => stores_subscribe encodeSettings keccak256 hs
  exact hreg.of_quiet (hl.trans (List.append_cons _ _ _))
    (fun ev hin => by rcases hevs ev hin with rfl | rfl <;> trivial) rfl rfl
    (fun _ _ ht _ => ht) fun _ _ hs => hs

theorem DeliveryInvariant.sendHistoricalData (h : DeliveryInvariant s) (k : ℕ)
    (first last : Except String ℤ) : DeliveryInvariant (sendHistoricalData k first last s) := by
  obtain ⟨h₁, -, hq, hc, htasks, evs, hl, hevs⟩ := sendHistoricalData_frame s k first last
  refine h.of_quiet hl (fun ev hin => ?_) hc hq (fun j t ht hp => ?_)
    fun _ _ ⟨ty, b, hb, hk⟩ => ⟨ty, b, h₁ ▸ hb, hk⟩
  · rcases hevs ev hin with ⟨c, rfl⟩ | ⟨cs, rfl⟩ <;> trivial
  · rcases htasks with he | ⟨t', hp', he⟩
    · rwa [← he]
    · rw [he] at ht
      rcases lt_or_le j s.backfillTasks.length with hj | hj
      · rwa [List.getElem?_append_left hj] at ht
      · rw [List.getElem?_append_right hj] at ht
        rw [List.mem_singleton.mp (List.getElem?_mem ht), hp'] at hp
        cases hp

/-- A backfill step keeps the invariant: it calls `Retrieve` only after passing an open `QuitChan`.
-/
theorem DeliveryInvariant.backfill (h : DeliveryInvariant s) {j : ℕ} {retrieved : RetrieveOutcome}
    (hstep : backfillStep j retrieved s = some s') : DeliveryInvariant s' := by
  obtain ⟨t, t', calls, sends, ht, rfl, henter, hcalls, hsends⟩ := backfillStep_spec s hstep
  have hev : ∀ ev ∈ calls ++ sends, ev.Quiet ∨ ev = .retrieve j t.i := fun ev hin => by
    rcases List.mem_append.mp hin with hin | hin
    · rcases hcalls with rfl | ⟨rfl, -⟩
      · cases hin
      · exact .inr (List.mem_singleton.mp hin)
    · obtain ⟨kind, rfl⟩ := hsends ev hin
      exact .inl trivial
  refine h.of_append rfl (fun _ hin => ?_) (fun _ hin => ?_) (fun hin => ?_) ?_ rfl rfl
    (fun j' t'' height htj hp hs => ?_) fun _ _ => id
  iterate 3 rcases hev _ hin with he | he <;> cases he
  · rw [Engine.moveTask_log, ← List.append_assoc]
    refine LogInvariant.append_quiet ?_ fun ev hin => ?_
    · rcases hcalls with rfl | ⟨rfl, hp, -⟩
      · simpa using h.log
      · exact h.log.append_retrieve fun h' => h.retrieve_pending j t h' ht hp
    · obtain ⟨kind, rfl⟩ := hsends ev hin
      trivial
  · rw [Engine.moveTask_log] at hs
    by_cases hjj : j = j'
    · subst hjj
      obtain ⟨hlen, -⟩ := List.getElem?_eq_some_iff.mp ht
      rw [Engine.moveTask_backfillTasks, List.getElem?_set_self hlen, Option.some.injEq] at htj
      subst htj
      refine Bool.false_ne_true ((henter hp).2 ▸ h.quit_iff.mpr ?_)
      refine (List.mem_append.mp (hs.subset (List.mem_cons_self _ _))).resolve_right fun hin => ?_
      rcases hev _ hin with he | he <;> cases he
    · rw [Engine.moveTask_backfillTasks, List.getElem?_set_ne hjj] at htj
      refine h.retrieve_pending j' t'' height htj hp
        (sublist_of_append_of_last_not_mem (l := [_]) hs fun hin => ?_)
      rcases hev _ hin with hq | he
      exacts [hq, hjj (Event.retrieve.inj he).1.symm]

theorem DeliveryInvariant.append_unsubscribed (h : DeliveryInvariant s) {id : String}
    (hnone : ∀ k m, s.Stores k m → k ≠ id) : DeliveryInvariant (s.emit [.unsubscribed id]) := by
  refine ⟨fun sub hin => ?_, fun sub sub' hin hin' => ?_, fun k m hs => ?_, ?_,
    fun j t height htj hp hs => ?_, h.log.append (by simp)⟩
  · rw [Engine.emit_log, List.mem_append, or_iff_left (by simp)] at hin
    exact h.chan_fresh sub hin
  · rw [Engine.emit_log, List.mem_append, or_iff_left (by simp)] at hin hin'
    exact h.chan_unique sub sub' hin hin'
  · obtain ⟨hid, hin, hnc⟩ := h.stored k m hs
    refine ⟨hid, List.mem_append_left _ hin, fun hc => ?_⟩
    rcases hc with hc | hc
    · rcases sublist_append_singleton (l := [_]) hc with hc | ⟨he, -⟩
      exacts [hnc (.inl hc), hnone k m hs (hid ▸ (Event.unsubscribed.inj he))]
    · exact hnc (.inr (sublist_of_append_of_last_not_mem (l := [_]) hc (by simp)))
  · simp [h.quit_iff]
  · exact h.retrieve_pending j t height htj hp
      (sublist_of_append_of_last_not_mem (l := [_]) hs (by simp))

theorem DeliveryInvariant.unsubscribe (h : DeliveryInvariant s) {order : List String}
    (id : String) (ho : IsOrder order s.subscriptions) :
    DeliveryInvariant (unsubscribe order id s) := by
  have hfold : DeliveryInvariant (order.foldl (unsubscribeType id) s) :=
    List.foldlRecOn order _ s h fun _ h' ty _ => h'.unsubscribe_type id ty
  have habs := fold_unsubscribeType_removes id order s fun ty b hty hb =>
    absurd ((ho.2 ty).mpr (Finmap.mem_of_lookup_eq_some hb)) hty
  exact hfold.append_unsubscribed fun k m ⟨ty, b, hb, hk⟩ hki =>
    habs ty b hb (hki ▸ Finmap.mem_of_lookup_eq_some hk)

/-- `Stop` keeps the invariant: it closes `QuitChan`, empties the buckets and logs only quits. -/
theorem DeliveryInvariant.stop (h : DeliveryInvariant s) {order : List String}
    (ho : IsOrder order s.subscriptions) (hstop : stop order s = .ok s') : DeliveryInvariant s' := by
  obtain ⟨hq, rfl⟩ := stop_eq s hstop
  obtain ⟨ht, hc, evs, hl, hevs⟩ := close_frame { s with quitClosed := true } order
  have hnot : ∀ ev, (∀ cs, ev ≠ .quits cs) → ev ≠ .stopped → ev ∉ evs ++ [.stopped] :=
    fun ev hq hs hin => by
      rcases List.mem_append.mp hin with hin | hin
      exacts [(hevs ev hin).elim fun cs he => hq cs he, hs (List.mem_singleton.mp hin)]
  have hlog : ((close order { s with quitClosed := true }).emit [.stopped]).log =
      s.log ++ (evs ++ [.stopped]) := by
    rw [Engine.emit_log, hl, List.append_assoc]
  refine ⟨fun sub hin => ?_, fun sub sub' hin hin' => ?_, fun k m ⟨ty, b, hb, _⟩ => ?_, ?_,
    fun j t height htj hp hs => ?_, hlog ▸ h.log.append fun ev hin => ?_⟩
  · rw [hlog, List.mem_append, or_iff_left (hnot _ (by simp) (by simp))] at hin
    exact hc ▸ h.chan_fresh sub hin
  · rw [hlog, List.mem_append, or_iff_left (hnot _ (by simp) (by simp))] at hin hin'
    exact h.chan_unique sub sub' hin hin'
  · rw [Engine.emit_subscriptions, (close_lookup _ order ty).1] at hb
    split_ifs at hb with hty
    exact absurd ((ho.2 ty).mpr (Finmap.mem_of_lookup_eq_some hb)) hty
  · simp [hlog]
  · refine h.retrieve_pending j t height (ht ▸ htj) hp
      (sublist_of_append_of_last_not_mem (l := [_]) (hlog ▸ hs) ?_)
    exact hnot _ (by simp) (by simp)
  · rcases List.mem_append.mp hin with hin | hin
    · obtain ⟨cs, rfl⟩ := hevs ev hin
      exact ⟨fun _ => Event.noConfusion, fun _ _ => Event.noConfusion⟩
    · rw [List.mem_singleton.mp hin]
      exact ⟨fun _ => Event.noConfusion, fun _ _ => Event.noConfusion⟩

end

section

variable {encodeSettings : SubscriptionSettings → Except String (List UInt8)}
  {keccak256 : List UInt8 → String} {s : Engine}

theorem reachable_delivery_invariant (hs : Reachable encodeSettings keccak256 s) :
    DeliveryInvariant s := by
  induction hs with
  | init =>
    refine ⟨by simp [newServer], by simp [newServer], fun _ _ ⟨_, _, hb, _⟩ => ?_,
      by simp [newServer], by simp [newServer], ⟨fun _ _ _ => by simp [newServer], by simp [newServer]⟩⟩
    simp [newServer] at hb
  | step _ hstep h =>
    cases hstep with
    | subscribe id params => exact h.subscribe encodeSettings keccak256 id params
    | sendHistoricalData k first last => exact h.sendHistoricalData k first last
    | backfill _ j retrieved hb => exact h.backfill hb
    | filterAndServe order blockNumber filtered _ _ =>
      exact List.foldlRecOn order _ _ h fun _ h' ty _ => h'.serve_type blockNumber filtered ty
    | serveReturns _ =>
      exact h.of_quiet (List.append_nil _).symm (by simp) rfl rfl (fun _ _ ht _ => ht) fun _ _ => id
    | unsubscribe order id ho => exact h.unsubscribe id ho
    | stop _ order ho hstop => exact h.stop ho hstop

end

end IpldEthServer
