import IpldEthServer.Serve

namespace IpldEthServer

/-- The two maps have the same keys, no empty bucket, and each type hashes the settings recorded for
it. -/
structure MapsInvariant (encodeSettings : SubscriptionSettings → Except String (List UInt8))
    (keccak256 : List UInt8 → String) (s : Engine) : Prop where
  keys_agree : ∀ ty, ty ∈ s.subscriptions ↔ ty ∈ s.subscriptionTypes
  bucket_nonempty : ∀ ty b, s.subscriptions.lookup ty = some b → b ≠ ∅
  type_hash : ∀ ty params, s.subscriptionTypes.lookup ty = some params →
    ∃ bytes, encodeSettings params = .ok bytes ∧ keccak256 bytes = ty

section

variable {encodeSettings : SubscriptionSettings → Except String (List UInt8)}
  {keccak256 : List UInt8 → String} {s s' : Engine}

namespace MapsInvariant

theorem of_maps (h : MapsInvariant encodeSettings keccak256 s)
    (h₁ : s'.subscriptions = s.subscriptions) (h₂ : s'.subscriptionTypes = s.subscriptionTypes) :
    MapsInvariant encodeSettings keccak256 s' :=
  ⟨fun ty => by rw [h₁, h₂]; exact h.keys_agree ty,
    fun ty b hb => h.bucket_nonempty ty b (h₁ ▸ hb), fun ty p hp => h.type_hash ty p (h₂ ▸ hp)⟩

theorem erase_type (h : MapsInvariant encodeSettings keccak256 s) (ty : String)
    (h₁ : s'.subscriptions = s.subscriptions.erase ty)
    (h₂ : s'.subscriptionTypes = s.subscriptionTypes.erase ty) :
    MapsInvariant encodeSettings keccak256 s' where
  keys_agree t := by rw [h₁, h₂, Finmap.mem_erase, Finmap.mem_erase, h.keys_agree]
  bucket_nonempty t b hb := by
    rw [h₁] at hb
    by_cases ht : t = ty
    · rw [ht, Finmap.lookup_erase] at hb
      cases hb
    · exact h.bucket_nonempty t b (by rwa [Finmap.lookup_erase_ne ht] at hb)
  type_hash t p hp := by
    rw [h₂] at hp
    by_cases ht : t = ty
    · rw [ht, Finmap.lookup_erase] at hp
      cases hp
    · exact h.type_hash t p (by rwa [Finmap.lookup_erase_ne ht] at hp)

theorem add_subscriber (h : MapsInvariant encodeSettings keccak256 s) (sub : Subscription)
    {params : SubscriptionSettings} {bytes : List UInt8} (hb : encodeSettings params = .ok bytes) :
    MapsInvariant encodeSettings keccak256 (addSubscriber (keccak256 bytes) sub params s) where
  keys_agree t := by simp only [addSubscriber, Finmap.mem_insert, h.keys_agree]
  bucket_nonempty t b hl := by
    simp only [addSubscriber] at hl
    by_cases ht : t = keccak256 bytes
    · rw [ht, Finmap.lookup_insert, Option.some.injEq] at hl
      exact hl ▸ finmap_insert_ne_empty
    · exact h.bucket_nonempty t b (by rwa [Finmap.lookup_insert_of_ne _ ht] at hl)
  type_hash t p hl := by
    simp only [addSubscriber] at hl
    by_cases ht : t = keccak256 bytes
    · rw [ht, Finmap.lookup_insert, Option.some.injEq] at hl
      exact ⟨bytes, hl ▸ hb, ht.symm⟩
    · exact h.type_hash t p (by rwa [Finmap.lookup_insert_of_ne _ ht] at hl)

theorem subscribe (h : MapsInvariant encodeSettings keccak256 s) (id : String)
    (params : SubscriptionSettings) :
    MapsInvariant encodeSettings keccak256 (subscribe encodeSettings keccak256 id params s) := by
  have h₁ : MapsInvariant encodeSettings keccak256
      { s with nextChan := s.nextChan + 1, log := s.log ++ [.subscribed ⟨id, s.nextChan⟩] } :=
    h.of_maps rfl rfl
  unfold IpldEthServer.subscribe
  split
  · exact h₁.of_maps rfl rfl
  · next bytes hb =>
    have h₂ := h₁.add_subscriber ⟨id, s.nextChan⟩ hb
    split_ifs <;> first | exact h₁.of_maps rfl rfl | exact h₂.of_maps rfl rfl

theorem unsubscribe_type (h : MapsInvariant encodeSettings keccak256 s) (id ty : String) :
    MapsInvariant encodeSettings keccak256 (unsubscribeType id s ty) := by
  rcases unsubscribeType_cases s id ty with ⟨-, he⟩ | ⟨hne, he⟩ <;> rw [he]
  · exact h.erase_type ty rfl rfl
  · obtain ⟨b, hb⟩ : ∃ b, s.subscriptions.lookup ty = some b := by
      cases hl : s.subscriptions.lookup ty with
      | none => exact absurd (by rw [hl, Option.getD_none, finmap_erase_of_not_mem
          Finmap.not_mem_empty]) hne
      | some b => exact ⟨b, rfl⟩
    rw [hb, Option.getD_some] at hne ⊢
    refine ⟨fun t => ?_, fun t b' hb' => ?_, h.type_hash⟩
    · rw [Finmap.mem_insert, ← h.keys_agree]
      exact ⟨fun h' => h'.elim (· ▸ Finmap.mem_of_lookup_eq_some hb) fun h' => h', .inr⟩
    · by_cases ht : t = ty
      · rw [ht, Finmap.lookup_insert, Option.some.injEq] at hb'
        exact hb' ▸ hne
      · exact h.bucket_nonempty t b' (by rwa [Finmap.lookup_insert_of_ne _ ht] at hb')

theorem close_type (h : MapsInvariant encodeSettings keccak256 s) (ty : String) :
    MapsInvariant encodeSettings keccak256 (closeType s ty) :=
  h.erase_type ty rfl rfl

theorem serve_type (h : MapsInvariant encodeSettings keccak256 s) (blockNumber : ℤ)
    (filtered : SubscriptionSettings → FilterOutcome) (ty : String) :
    MapsInvariant encodeSettings keccak256 (serveType blockNumber filtered s ty) := by
  rcases serveType_cases s blockNumber filtered ty with ⟨-, he⟩ | ⟨-, he | he | he⟩ <;> rw [he]
  · exact MapsInvariant.close_type (h.of_maps rfl rfl : MapsInvariant _ _ (s.emit _)) ty
  · exact h.close_type ty
  · exact h
  · exact h.of_maps rfl rfl

end MapsInvariant

theorem serveType_log_of_mem (h : MapsInvariant encodeSettings keccak256 s) (blockNumber : ℤ)
    (filtered : SubscriptionSettings → FilterOutcome) {ty : String} (hty : ty ∈ s.subscriptions) :
    ∃ evs, (serveType blockNumber filtered s ty).log = s.log ++ evs ∧
      ∀ t, Event.configUnavailable t ∉ evs := by
  rcases serveType_cases s blockNumber filtered ty with ⟨hn, -⟩ | ⟨-, he | he | he⟩
  · exact absurd ((h.keys_agree ty).mp hty) (Finmap.lookup_eq_none.mp hn)
  all_goals rw [he]
  · exact ⟨_, rfl, by simp⟩
  · exact ⟨[], (List.append_nil _).symm, by simp⟩
  · exact ⟨_, rfl, by simp⟩

theorem filterAndServe_maps (blockNumber : ℤ) (filtered : SubscriptionSettings → FilterOutcome) :
    ∀ (order : List String) (s : Engine), order.Nodup → (∀ ty ∈ order, ty ∈ s.subscriptions) →
      MapsInvariant encodeSettings keccak256 s →
      MapsInvariant encodeSettings keccak256 (filterAndServe order blockNumber filtered s) ∧
        ∃ evs, (filterAndServe order blockNumber filtered s).log = s.log ++ evs ∧
          ∀ t, Event.configUnavailable t ∉ evs
  | [], s, _, _, h => ⟨h, [], (List.append_nil _).symm, by simp⟩
  | ty :: rest, s, hnd, hmem, h => by
    obtain ⟨evs, hlog, hevs⟩ :=
      serveType_log_of_mem h blockNumber filtered (hmem ty (List.mem_cons_self _ _))
    have hrest : ∀ t ∈ rest, t ∈ (serveType blockNumber filtered s ty).subscriptions := by
      intro t ht
      have hne : t ≠ ty := fun he => (List.nodup_cons.mp hnd).1 (he ▸ ht)
      rcases serveType_cases s blockNumber filtered ty with ⟨-, he⟩ | ⟨-, he | he | he⟩ <;>
        rw [he] <;> simp [Finmap.mem_erase, hne, hmem t (List.mem_cons_of_mem _ ht)]
    obtain ⟨h', evs', hlog', hevs'⟩ := filterAndServe_maps blockNumber filtered rest _
      (List.nodup_cons.mp hnd).2 hrest (h.serve_type blockNumber filtered ty)
    refine ⟨h', evs ++ evs', ?_, fun t hin => ?_⟩
    · rw [filterAndServe, List.foldl_cons, ← filterAndServe, hlog', hlog, List.append_assoc]
    · rcases List.mem_append.mp hin with hin | hin
      exacts [hevs t hin, hevs' t hin]

/-- Every step keeps the map invariant and logs no missing configuration. -/
theorem step_maps_invariant (h : MapsInvariant encodeSettings keccak256 s)
    (hstep : Step encodeSettings keccak256 s s') :
    MapsInvariant encodeSettings keccak256 s' ∧
      ∃ evs, s'.log = s.log ++ evs ∧ ∀ t, Event.configUnavailable t ∉ evs := by
  cases hstep with
  | subscribe id params =>
    obtain ⟨-, -, -, evs, hl, hevs⟩ := subscribe_frame s encodeSettings keccak256 id params
    refine ⟨h.subscribe id params, _, hl, fun t ht => ?_⟩
    rcases List.mem_cons.mp ht with he | he
    · cases he
    · rcases hevs _ he with he | he <;> cases he
  | sendHistoricalData k first last =>
    obtain ⟨h₁, h₂, -, -, -, evs, hl, hevs⟩ := sendHistoricalData_frame s k first last
    refine ⟨h.of_maps h₁ h₂, evs, hl, fun t ht => ?_⟩
    rcases hevs _ ht with ⟨c, he⟩ | ⟨cs, he⟩ <;> cases he
  | backfill _ j retrieved hb =>
    obtain ⟨t, t', calls, sends, -, rfl, -, hcalls, hsends⟩ := backfillStep_spec s hb
    refine ⟨h.of_maps rfl rfl, calls ++ sends, rfl, fun c hc => ?_⟩
    rcases List.mem_append.mp hc with hc | hc
    · rcases hcalls with rfl | ⟨rfl, -⟩ <;> simp at hc
    · obtain ⟨k, he⟩ := hsends _ hc
      cases he
  | filterAndServe order blockNumber filtered _ ho =>
    exact filterAndServe_maps blockNumber filtered order s ho.1 (fun ty hty => (ho.2 ty).mp hty) h
  | serveReturns _ => exact ⟨h.of_maps rfl rfl, [], by simp⟩
  | unsubscribe order id _ =>
    have hfold : MapsInvariant encodeSettings keccak256 (order.foldl (unsubscribeType id) s) :=
      List.foldlRecOn order _ s h fun _ h' ty _ => h'.unsubscribe_type id ty
    refine ⟨hfold.of_maps rfl rfl, [.unsubscribed id], ?_, by simp⟩
    simp only [unsubscribe, Engine.emit_log, (fold_unsubscribeType_frame s id order).2.2.2]
  | stop _ order _ hs =>
    obtain ⟨-, rfl⟩ := stop_eq s hs
    have hclose :
        MapsInvariant encodeSettings keccak256 (close order { s with quitClosed := true }) :=
      List.foldlRecOn order _ _ (h.of_maps rfl rfl) fun _ h' ty _ => h'.close_type ty
    obtain ⟨-, -, evs, hl, hevs⟩ := close_frame { s with quitClosed := true } order
    refine ⟨hclose.of_maps rfl rfl, evs ++ [.stopped], by simp [hl], fun t ht => ?_⟩
    rcases List.mem_append.mp ht with ht | ht
    · obtain ⟨cs, he⟩ := hevs _ ht
      cases he
    · simp at ht

theorem reachable_maps_invariant (hs : Reachable encodeSettings keccak256 s) :
    MapsInvariant encodeSettings keccak256 s ∧ ∀ ty, Event.configUnavailable ty ∉ s.log := by
  induction hs with
  | init => exact ⟨⟨fun _ => iff_of_false Finmap.not_mem_empty Finmap.not_mem_empty,
      by simp [newServer], by simp [newServer]⟩, by simp [newServer]⟩
  | step _ hstep ih =>
    obtain ⟨h, evs, hl, hevs⟩ := step_maps_invariant ih.1 hstep
    refine ⟨h, fun ty hty => ?_⟩
    rw [hl, List.mem_append] at hty
    exact hty.elim (ih.2 ty) (hevs ty)

theorem fold_unsubscribeType_removes (id : String) :
    ∀ (order : List String) (s : Engine),
      (∀ ty b, ty ∉ order → s.subscriptions.lookup ty = some b → id ∉ b) →
      ∀ ty b, (order.foldl (unsubscribeType id) s).subscriptions.lookup ty = some b → id ∉ b
  | [], _, h => fun ty b => h ty b (List.not_mem_nil ty)
  | t :: rest, s, h => fold_unsubscribeType_removes id rest _ fun ty b hty hb => by
    have hne : ty ≠ t → ty ∉ t :: rest := fun htt => by simp [htt, hty]
    rcases unsubscribeType_cases s id t with ⟨-, he⟩ | ⟨-, he⟩ <;> rw [he] at hb <;>
      by_cases htt : ty = t
    · rw [htt, Finmap.lookup_erase] at hb
      cases hb
    · exact h ty b (hne htt) (by rwa [Finmap.lookup_erase_ne htt] at hb)
    · rw [htt, Finmap.lookup_insert, Option.some.injEq] at hb
      exact hb ▸ Finmap.not_mem_erase_self
    · exact h ty b (hne htt) (by rwa [Finmap.lookup_insert_of_ne _ htt] at hb)

theorem unsubscribeType_of_absent (h : MapsInvariant encodeSettings keccak256 s) {id : String}
    (habs : ∀ ty b, s.subscriptions.lookup ty = some b → id ∉ b) (ty : String) :
    (unsubscribeType id s ty).subscriptions = s.subscriptions ∧
      (unsubscribeType id s ty).subscriptionTypes = s.subscriptionTypes := by
  cases hl : s.subscriptions.lookup ty with
  | none =>
    have hty : ty ∉ s.subscriptions := Finmap.lookup_eq_none.mp hl
    rcases unsubscribeType_cases s id ty with ⟨-, he⟩ | ⟨hne, -⟩
    · rw [he]
      exact ⟨finmap_erase_of_not_mem hty, finmap_erase_of_not_mem (mt (h.keys_agree ty).mpr hty)⟩
    · rw [hl, Option.getD_none, finmap_erase_of_not_mem Finmap.not_mem_empty] at hne
      exact absurd rfl hne
  | some b =>
    have hb : b.erase id = b := finmap_erase_of_not_mem (habs ty b hl)
    rcases unsubscribeType_cases s id ty with ⟨hemp, -⟩ | ⟨-, he⟩
    · rw [hl, Option.getD_some, hb] at hemp
      exact absurd hemp (h.bucket_nonempty ty b hl)
    · rw [he, hl, Option.getD_some, hb, finmap_insert_of_lookup hl]
      exact ⟨rfl, rfl⟩

theorem fold_unsubscribeType_of_absent {id : String} :
    ∀ (order : List String) (s : Engine), MapsInvariant encodeSettings keccak256 s →
      (∀ ty b, s.subscriptions.lookup ty = some b → id ∉ b) →
      (order.foldl (unsubscribeType id) s).subscriptions = s.subscriptions ∧
        (order.foldl (unsubscribeType id) s).subscriptionTypes = s.subscriptionTypes
  | [], _, _, _ => ⟨rfl, rfl⟩
  | t :: rest, s, h, habs => by
    obtain ⟨h₁, h₂⟩ := unsubscribeType_of_absent h habs t
    obtain ⟨h₃, h₄⟩ := fold_unsubscribeType_of_absent rest _ (h.of_maps h₁ h₂) (h₁ ▸ habs)
    exact ⟨h₃.trans h₁, h₄.trans h₂⟩

/-- The invariant holds in every reachable state, and `Unsubscribe(id)` leaves no bucket holding
`id`. -/
theorem subscription_maps_invariant (hs : Reachable encodeSettings keccak256 s) :
    MapsInvariant encodeSettings keccak256 s ∧ (∀ ty, Event.configUnavailable ty ∉ s.log) ∧
      ∀ order id, IsOrder order s.subscriptions →
        ∀ ty b, (unsubscribe order id s).subscriptions.lookup ty = some b → id ∉ b := by
  refine ⟨(reachable_maps_invariant hs).1, (reachable_maps_invariant hs).2,
    fun order id ho => fold_unsubscribeType_removes id order s fun ty b hty hb => ?_⟩
  exact absurd ((ho.2 ty).mpr (Finmap.mem_of_lookup_eq_some hb)) hty

theorem subscription_maps_invariant_on_two_subscribers :
    Reachable (fun _ => .ok []) (fun _ => "t") twoSubscriberRun ∧
      (MapsInvariant (fun _ => .ok []) (fun _ => "t") twoSubscriberRun ∧
        (∀ ty, Event.configUnavailable ty ∉ twoSubscriberRun.log) ∧
        ∀ order id, IsOrder order twoSubscriberRun.subscriptions →
          ∀ ty b, (unsubscribe order id twoSubscriberRun).subscriptions.lookup ty = some b →
            id ∉ b) :=
  ⟨twoSubscriberRun_reachable, subscription_maps_invariant twoSubscriberRun_reachable⟩

/-- A second `Unsubscribe(id)` changes no map; `Stop` empties both, and a second `Stop` panics. -/
theorem unsubscribe_idempotent_second_stop_panics (hs : Reachable encodeSettings keccak256 s) :
    (∀ id o₁ o₂, IsOrder o₁ s.subscriptions →
      (unsubscribe o₂ id (unsubscribe o₁ id s)).subscriptions = (unsubscribe o₁ id s).subscriptions ∧
        (unsubscribe o₂ id (unsubscribe o₁ id s)).subscriptionTypes =
          (unsubscribe o₁ id s).subscriptionTypes) ∧
      ∀ o₁ s₁, IsOrder o₁ s.subscriptions → stop o₁ s = .ok s₁ →
        s₁.subscriptions = ∅ ∧ s₁.subscriptionTypes = ∅ ∧
          ∀ o₂, stop o₂ s₁ = .error closeOfClosedChannel := by
  have h := (reachable_maps_invariant hs).1
  refine ⟨fun id o₁ o₂ ho => ?_, fun o₁ s₁ ho hstop => ?_⟩
  · have h₁ : MapsInvariant encodeSettings keccak256 (unsubscribe o₁ id s) :=
      (List.foldlRecOn o₁ _ s h fun _ h' ty _ => h'.unsubscribe_type id ty).of_maps rfl rfl
    have habs := fold_unsubscribeType_removes id o₁ s fun ty b hty hb =>
      absurd ((ho.2 ty).mpr (Finmap.mem_of_lookup_eq_some hb)) hty
    exact fold_unsubscribeType_of_absent o₂ _ h₁ habs
  · obtain ⟨-, rfl⟩ := stop_eq s hstop
    have hlook := close_lookup { s with quitClosed := true } o₁
    have hgone : ∀ ty, ty ∉ o₁ → ty ∉ s.subscriptions :=
      fun ty hty hm => hty ((ho.2 ty).mpr hm)
    refine ⟨Finmap.ext_lookup fun ty => ?_, Finmap.ext_lookup fun ty => ?_,
      fun o₂ => stop_of_quitClosed _ o₂ (by simp)⟩
    · rw [Engine.emit_subscriptions, (hlook ty).1, Finmap.lookup_empty]
      split_ifs with hty
      · rfl
      · exact Finmap.lookup_eq_none.mpr (hgone ty hty)
    · rw [Engine.emit_subscriptionTypes, (hlook ty).2, Finmap.lookup_empty]
      split_ifs with hty
      · rfl
      · exact Finmap.lookup_eq_none.mpr (mt (h.keys_agree ty).mpr (hgone ty hty))

theorem unsubscribe_idempotent_second_stop_panics_on_two_subscribers :
    Reachable (fun _ => .ok []) (fun _ => "t") twoSubscriberRun ∧
      ((∀ id o₁ o₂, IsOrder o₁ twoSubscriberRun.subscriptions →
        (unsubscribe o₂ id (unsubscribe o₁ id twoSubscriberRun)).subscriptions =
            (unsubscribe o₁ id twoSubscriberRun).subscriptions ∧
          (unsubscribe o₂ id (unsubscribe o₁ id twoSubscriberRun)).subscriptionTypes =
            (unsubscribe o₁ id twoSubscriberRun).subscriptionTypes) ∧
        ∀ o₁ s₁, IsOrder o₁ twoSubscriberRun.subscriptions → stop o₁ twoSubscriberRun = .ok s₁ →
          s₁.subscriptions = ∅ ∧ s₁.subscriptionTypes = ∅ ∧
            ∀ o₂, stop o₂ s₁ = .error closeOfClosedChannel) :=
  ⟨twoSubscriberRun_reachable, unsubscribe_idempotent_second_stop_panics twoSubscriberRun_reachable⟩

theorem second_stop_panics :
    (∀ encodeSettings keccak256, Reachable encodeSettings keccak256 newServer) ∧
      IsOrder [] newServer.subscriptions ∧
      ∃ s₁, stop [] newServer = .ok s₁ ∧ IsOrder [] s₁.subscriptions ∧
        stop [] s₁ = .error closeOfClosedChannel :=
  ⟨fun _ _ => .init, isOrder_nil, _, rfl, isOrder_nil, rfl⟩

end

end IpldEthServer
