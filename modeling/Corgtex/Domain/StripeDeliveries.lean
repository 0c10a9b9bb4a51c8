import Corgtex.Domain.BillingEvents

/-!
# Stripe events are applied once

Stripe delivers an event at least once and in any order. The mark of an event is read when a
delivery starts and written after its effects, so two deliveries that overlap, or one after a lost
mark, commit the effects twice; and the effects are those of the event at hand, so one that is late
activates a subscription that has been deleted. `Once` is what holds where neither happens.
-/

namespace Corgtex.Domain.Billing

open JsString KeyedTable List

/-! ## Disturbances -/

/-- A step that disturbs no delivery: an event is received while no other delivery of it is being
handled, and a delivery that has committed its effects writes the mark. -/
def Undisturbed (state : BillingState) : BillingStep → Prop
  | .receive _ event => ∀ delivery other phase,
      state.deliveries delivery = some (other, phase) → other.id ≠ event.id
  | .mark _ stored _ => stored = true
  | .crash delivery => ∀ event, state.deliveries delivery ≠ some (event, .applied)
  | _ => True

/-- The subscription that an event is about. -/
def StripeEvent.subscription? (event : StripeEvent) : Option JsString :=
  event.object.bind fun object =>
    if event.type = "customer.subscription.updated" ∨ event.type = "customer.subscription.deleted"
    then object.id else object.subscription

/-- The subscription of the event has been deleted, and Stripe created the event before that. -/
def StripeEvent.Outdated (event : StripeEvent) (state : BillingState) : Prop :=
  ∃ deletion ∈ state.committed, deletion.type = "customer.subscription.deleted" ∧
    deletion.subscription?.isSome ∧ event.subscription? = deletion.subscription? ∧
    event.created < deletion.created

/-- A step that applies no outdated event that activates its subscription. -/
def InOrder (state : BillingState) : BillingStep → Prop
  | .commit delivery _ _ _ _ => ∀ event object workspaceId,
      state.deliveries delivery = some (event, .resolved (some (object, workspaceId))) →
        event.Outdated state → ¬ event.activates object
  | _ => True

/-- An outdated event puts a workspace back on `PAYG_AI`. -/
def PutsBack (state : BillingState) (step : BillingStep) : Prop :=
  ∃ delivery fetched priceId aborts now event target,
    step = .commit delivery fetched priceId aborts now ∧
    state.deliveries delivery = some (event, .resolved target) ∧ event.Outdated state ∧
    ∃ workspaceId, (state.store.billing workspaceId).1 ≠ some .PAYG_AI ∧
      ((step.apply state).store.billing workspaceId).1 = some .PAYG_AI

/-! ## Marks -/

section
variable {store store' : BillingStore} {state state' : BillingState} {workspaceId w id : JsString}
  {now : Int}

/-- The event is marked as processed. -/
def Processed (store : BillingStore) (id : JsString) : Prop :=
  ∃ stored, store.events.find? id = some stored ∧ stored.processedAt.isSome

/-- The events and the marks of a store are still there. -/
structure KeepsEvents (store store' : BillingStore) : Prop where
  stored : ∀ id, (store.events.find? id).isSome → (store'.events.find? id).isSome
  processed : ∀ id, Processed store id → Processed store' id

theorem KeepsEvents.of_eq (h : store'.events = store.events) : KeepsEvents store store' :=
  ⟨fun id hid => by rwa [h], fun id hid => by rwa [Processed, h]⟩

variable {event : StripeEvent} {target : Option (StripeObject × JsString)}

theorem transaction_events
    {fetched : Except AppError StripeObject} {priceId : Option JsString} {aborts : Bool}
    (h : transaction store event target fetched priceId aborts now = .ok store') :
    store'.events = store.events := by
  rcases transaction_outcome h with ⟨_, rfl⟩ | ⟨_, _, _, houtcome⟩
  · rfl
  · exact houtcome.events

theorem markError_keepsEvents {error : String} : KeepsEvents store (markError store id error) := by
  have hfind : ∀ other, (markError store id error).events.find? other =
      (store.events.find? other).map fun stored =>
        if stored.id = id then { stored with error := some error } else stored := by
    intro other
    simp [markError, update, find?_updateMany]
  constructor
  · intro other hother
    rw [hfind, Option.isSome_map]
    exact hother
  · rintro other ⟨stored, hstored, hprocessed⟩
    refine ⟨_, (hfind other).trans (congrArg (Option.map _) hstored), ?_⟩
    dsimp only
    split <;> exact hprocessed

theorem markProcessed_keepsEvents : KeepsEvents store (markProcessed store id now) := by
  have hfind : ∀ other, (markProcessed store id now).events.find? other =
      (store.events.find? other).map fun stored =>
        if stored.id = id then { stored with processedAt := some now, error := none }
        else stored := by
    intro other
    simp [markProcessed, update, find?_updateMany]
  constructor
  · intro other hother
    rw [hfind, Option.isSome_map]
    exact hother
  · rintro other ⟨stored, hstored, hprocessed⟩
    refine ⟨_, (hfind other).trans (congrArg (Option.map _) hstored), ?_⟩
    dsimp only
    split
    · rfl
    · exact hprocessed

/-- **The mark** of a stored event. -/
theorem processed_markProcessed (h : (store.events.find? id).isSome) :
    Processed (markProcessed store id now) id := by
  obtain ⟨stored, hstored⟩ := Option.isSome_iff_exists.1 h
  refine ⟨{ stored with processedAt := some now, error := none }, ?_, rfl⟩
  simp [markProcessed, find?_update_self, hstored]

/-- **A receipt** stores the event, and says whether it has been processed. -/
theorem receiveStripeEvent_keepsEvents :
    KeepsEvents store (receiveStripeEvent store event).1 ∧
      ((receiveStripeEvent store event).1.events.find? event.id).isSome ∧
      ((receiveStripeEvent store event).2 = true ↔ Processed store event.id) := by
  cases hfound : store.events.find? event.id with
  | some stored =>
    simp only [receiveStripeEvent, hfound, Processed, Option.isSome_some, true_and,
      Option.some.injEq, exists_eq_left']
    exact ⟨.of_eq rfl, trivial⟩
  | none =>
    have hfind : ∀ other, (receiveStripeEvent store event).1.events.find? other =
        if other = event.id then some ⟨event.id, event.type, none, none⟩
        else store.events.find? other := by
      intro other
      simp only [receiveStripeEvent, hfound, find?_set]
    refine ⟨⟨?_, ?_⟩, ?_, ?_⟩
    · intro other hother
      rw [hfind]
      split
      · rfl
      · exact hother
    · rintro other ⟨stored, hstored, hprocessed⟩
      refine ⟨stored, ?_, hprocessed⟩
      rw [hfind, if_neg]
      · exact hstored
      · rintro rfl
        rw [hfound] at hstored
        cases hstored
    · rw [hfind, if_pos rfl]
      rfl
    · simp [receiveStripeEvent, hfound, Processed]

/-! ## Deliveries -/

/-- What holds where no delivery is disturbed: the effects of no event have been committed twice,
deliveries that are under way are of different events, one that has not committed is of an event
whose effects have not been, and an event whose effects have been committed is marked or will be. -/
structure Once (state : BillingState) : Prop where
  nodup : (state.committed.map StripeEvent.id).Nodup
  apart : ∀ d d' event event' phase phase', state.deliveries d = some (event, phase) →
    state.deliveries d' = some (event', phase') → event.id = event'.id → d = d'
  fresh : ∀ d event phase, state.deliveries d = some (event, phase) →
    phase = .applied ∨ event.id ∉ state.committed.map StripeEvent.id
  stored : ∀ d event phase, state.deliveries d = some (event, phase) →
    (state.store.events.find? event.id).isSome
  settled : ∀ event ∈ state.committed, Processed state.store event.id ∨
    ∃ d other, state.deliveries d = some (other, .applied) ∧ other.id = event.id

variable {phase : Option (StripeEvent × DeliveryPhase)}

@[simp] theorem BillingState.setDelivery_deliveries {d d' : Nat} :
    (state.setDelivery d phase).deliveries d' = if d' = d then phase else state.deliveries d' := by
  exact Function.update_apply ..

theorem once_empty : Once ⟨store, fun _ => none, []⟩ where
  nodup := nodup_nil
  apart _ _ _ _ _ _ h := by cases h
  fresh _ _ _ h := by cases h
  stored _ _ _ h := by cases h
  settled := by simp

/-- A step that commits nothing: deliveries go on or end, and one that has committed ends with its
mark. -/
theorem Once.advance (h : Once state) (hcommitted : state'.committed = state.committed)
    (hkeeps : KeepsEvents state.store state'.store)
    (hunder : ∀ d event phase, state'.deliveries d = some (event, phase) →
      ∃ before, state.deliveries d = some (event, before) ∧ (before = .applied → phase = .applied))
    (hended : ∀ d event, state.deliveries d = some (event, .applied) →
      Processed state'.store event.id ∨ state'.deliveries d = some (event, .applied)) :
    Once state' where
  nodup := hcommitted ▸ h.nodup
  apart d d' event event' phase phase' hd hd' hid := by
    obtain ⟨before, hbefore, _⟩ := hunder d event phase hd
    obtain ⟨before', hbefore', _⟩ := hunder d' event' phase' hd'
    exact h.apart d d' event event' before before' hbefore hbefore' hid
  fresh d event phase hd := by
    obtain ⟨before, hbefore, hphase⟩ := hunder d event phase hd
    rw [hcommitted]
    exact (h.fresh d event before hbefore).imp_left hphase
  stored d event phase hd := by
    obtain ⟨before, hbefore, _⟩ := hunder d event phase hd
    exact hkeeps.stored _ (h.stored d event before hbefore)
  settled event hevent := by
    rw [hcommitted] at hevent
    rcases h.settled event hevent with hprocessed | ⟨d, other, hd, hid⟩
    · exact .inl (hkeeps.processed _ hprocessed)
    · rcases hended d other hd with hprocessed | hstill
      · exact .inl (hid ▸ hprocessed)
      · exact .inr ⟨d, other, hstill, hid⟩

/-- A delivery that has not committed goes on to `phase`, or ends. -/
theorem Once.setDelivery (h : Once state) {d : Nat} {before : DeliveryPhase}
    (hd : state.deliveries d = some (event, before)) (hbefore : before ≠ .applied)
    (hphase : ∀ after ∈ phase, after.1 = event) : Once (state.setDelivery d phase) := by
  refine h.advance rfl (.of_eq rfl) (fun d' event' phase' hd' => ?_) (fun d' event' hd' => ?_)
  · rw [BillingState.setDelivery_deliveries] at hd'
    split at hd'
    · next hsame =>
      subst hsame
      obtain rfl := hphase _ hd'
      exact ⟨before, hd, fun happlied => absurd happlied hbefore⟩
    · exact ⟨phase', hd', id⟩
  · refine .inr ?_
    rw [BillingState.setDelivery_deliveries, if_neg]
    · exact hd'
    · rintro rfl
      rw [hd] at hd'
      cases hd'
      exact hbefore rfl

/-- **The receipt** of an event of which no delivery is under way. -/
theorem Once.receive (h : Once state) {d : Nat}
    (hfree : state.deliveries d = none)
    (halone : ∀ delivery other phase, state.deliveries delivery = some (other, phase) →
      other.id ≠ event.id)
    (hnew : (receiveStripeEvent state.store event).2 = false) :
    Once ({ state with store := (receiveStripeEvent state.store event).1 }.setDelivery d
      (some (event, .received))) := by
  have hreceipt : KeepsEvents state.store (receiveStripeEvent state.store event).1 ∧ _ :=
    receiveStripeEvent_keepsEvents
  obtain ⟨hkeeps, hstored, hprocessed⟩ := hreceipt
  have hunmarked : ¬ Processed state.store event.id := by
    rw [← hprocessed, hnew]
    simp
  have hcommitted : event.id ∉ state.committed.map StripeEvent.id := by
    intro hmem
    obtain ⟨other, hother, hid⟩ := mem_map.1 hmem
    rcases h.settled other hother with hdone | ⟨d', pending, hd', hpending⟩
    · exact hunmarked (hid ▸ hdone)
    · exact halone d' pending _ hd' (hpending.trans hid)
  constructor
  · exact h.nodup
  · intro d₁ d₂ event₁ event₂ phase₁ phase₂ hd₁ hd₂ hid
    rw [BillingState.setDelivery_deliveries] at hd₁ hd₂
    split at hd₁
    · next heq₁ =>
      split at hd₂
      · next heq₂ => rw [heq₁, heq₂]
      · cases hd₁
        exact absurd hid.symm (halone d₂ event₂ phase₂ hd₂)
    · split at hd₂
      · cases hd₂
        exact absurd hid (halone d₁ event₁ phase₁ hd₁)
      · exact h.apart d₁ d₂ event₁ event₂ phase₁ phase₂ hd₁ hd₂ hid
  · intro d' event' phase hd'
    rw [BillingState.setDelivery_deliveries] at hd'
    split at hd'
    · cases hd'
      exact .inr hcommitted
    · exact h.fresh d' event' phase hd'
  · intro d' event' phase hd'
    rw [BillingState.setDelivery_deliveries] at hd'
    split at hd'
    · cases hd'
      exact hstored
    · exact hkeeps.stored _ (h.stored d' event' phase hd')
  · intro other hother
    rcases h.settled other hother with hdone | ⟨d', pending, hd', hpending⟩
    · exact .inl (hkeeps.processed _ hdone)
    · refine .inr ⟨d', pending, ?_, hpending⟩
      rw [BillingState.setDelivery_deliveries, if_neg]
      · exact hd'
      · rintro rfl
        rw [hfree] at hd'
        cases hd'

/-- **The transaction** of a delivery is the first of its event. -/
theorem Once.commit (h : Once state) {d : Nat}
    (hd : state.deliveries d = some (event, .resolved target))
    (hevents : store'.events = state.store.events) :
    Once ({ state with store := store', committed := state.committed ++ [event] }.setDelivery d
      (some (event, .applied))) := by
  have hkeeps : KeepsEvents state.store store' := .of_eq hevents
  have hnew : event.id ∉ state.committed.map StripeEvent.id :=
    (h.fresh d event _ hd).resolve_left (by simp)
  have hbefore : ∀ d' event' phase,
      ({ state with store := store', committed := state.committed ++ [event] }.setDelivery d
        (some (event, .applied))).deliveries d' = some (event', phase) →
      ∃ before, state.deliveries d' = some (event', before) ∧
        (phase = .applied ∨ d' ≠ d ∧ before = phase) := by
    intro d' event' phase hd'
    rw [BillingState.setDelivery_deliveries] at hd'
    split at hd'
    · next hsame =>
      cases hd'
      exact ⟨_, hsame ▸ hd, .inl rfl⟩
    · next hne => exact ⟨phase, hd', .inr ⟨hne, rfl⟩⟩
  constructor
  · show ((state.committed ++ [event]).map StripeEvent.id).Nodup
    rw [map_append, nodup_append]
    refine ⟨h.nodup, nodup_singleton _, fun id hid other hother => ?_⟩
    rintro rfl
    exact hnew (mem_singleton.1 hother ▸ hid)
  · intro d₁ d₂ event₁ event₂ phase₁ phase₂ hd₁ hd₂ hid
    obtain ⟨before₁, hbefore₁, _⟩ := hbefore d₁ event₁ phase₁ hd₁
    obtain ⟨before₂, hbefore₂, _⟩ := hbefore d₂ event₂ phase₂ hd₂
    exact h.apart d₁ d₂ event₁ event₂ before₁ before₂ hbefore₁ hbefore₂ hid
  · intro d' event' phase hafter
    obtain ⟨before, hd', hphase⟩ := hbefore d' event' phase hafter
    rcases hphase with happlied | ⟨hne, rfl⟩
    · exact .inl happlied
    · refine (h.fresh d' event' before hd').imp_right fun hfresh hmem => ?_
      have hmem : event'.id ∈ (state.committed ++ [event]).map StripeEvent.id := hmem
      rw [map_append] at hmem
      rcases mem_append.1 hmem with hold | hsame
      · exact hfresh hold
      · exact hne (h.apart d' d event' event _ _ hd' hd (mem_singleton.1 hsame))
  · intro d' event' phase hd'
    obtain ⟨before, hd', _⟩ := hbefore d' event' phase hd'
    exact hkeeps.stored _ (h.stored d' event' before hd')
  · intro other hother
    rcases mem_append.1 hother with hold | hsame
    · rcases h.settled other hold with hdone | ⟨d', pending, hd', hpending⟩
      · exact .inl (hkeeps.processed _ hdone)
      · refine .inr ⟨d', pending, ?_, hpending⟩
        rw [BillingState.setDelivery_deliveries, if_neg]
        · exact hd'
        · rintro rfl
          rw [hd] at hd'
          cases hd'
    · refine .inr ⟨d, event, ?_, congrArg _ (mem_singleton.1 hsame).symm⟩
      rw [BillingState.setDelivery_deliveries, if_pos rfl]

/-- **A step** that disturbs no delivery. -/
theorem BillingStep.apply_once {step : BillingStep} (h : Once state)
    (hundisturbed : Undisturbed state step) : Once (step.apply state) := by
  cases step with
  | checkout call =>
    rw [BillingStep.apply]
    split
    · next store' hok =>
      exact h.advance rfl (.of_eq (createStripeCheckoutSession_sets hok).2.events)
        (fun d event phase hd => ⟨phase, hd, id⟩) fun d event hd => .inr hd
    · exact h
  | receive delivery event =>
    rw [BillingStep.apply]
    split
    · exact h
    · next hfree =>
      dsimp only
      split
      · exact h.advance rfl receiveStripeEvent_keepsEvents.1
          (fun d event phase hd => ⟨phase, hd, id⟩) fun d event hd => .inr hd
      · next hnew => exact h.receive hfree hundisturbed (Bool.eq_false_iff.2 hnew)
  | resolve delivery =>
    rw [BillingStep.apply]
    split
    · next event hd => exact h.setDelivery hd (by simp) (by rintro _ ⟨⟩; rfl)
    · exact h
  | commit delivery fetched priceId aborts now =>
    rw [BillingStep.apply]
    split
    · next event target hd =>
      split
      · next store' hok => exact h.commit hd (transaction_events hok)
      · exact h.setDelivery hd (by simp) (by rintro _ ⟨⟩; rfl)
    · exact h
  | mark delivery stored now =>
    rw [BillingStep.apply]
    split
    · next event hd =>
      have hstored : stored = true := hundisturbed
      subst hstored
      rw [if_pos rfl]
      refine h.advance rfl markProcessed_keepsEvents (fun d other phase hd' => ?_)
        (fun d other hd' => ?_)
      · rw [BillingState.setDelivery_deliveries] at hd'
        split at hd'
        · cases hd'
        · exact ⟨phase, hd', id⟩
      · by_cases hsame : d = delivery
        · subst hsame
          rw [hd] at hd'
          cases hd'
          exact .inl (processed_markProcessed (h.stored d event _ hd))
        · refine .inr ?_
          rw [BillingState.setDelivery_deliveries, if_neg hsame]
          exact hd'
    · exact h
  | record delivery stored =>
    rw [BillingStep.apply]
    split
    · next event error hd =>
      have hkeeps : KeepsEvents state.store
          (if stored then markError state.store event.id error else state.store) := by
        split
        · exact markError_keepsEvents
        · exact .of_eq rfl
      refine h.advance rfl hkeeps (fun d other phase hd' => ?_) (fun d other hd' => .inr ?_)
      · rw [BillingState.setDelivery_deliveries] at hd'
        split at hd'
        · cases hd'
        · exact ⟨phase, hd', id⟩
      · rw [BillingState.setDelivery_deliveries, if_neg]
        · exact hd'
        · rintro rfl
          rw [hd] at hd'
          cases hd'
    · exact h
  | crash delivery =>
    rw [BillingStep.apply]
    cases hd : state.deliveries delivery with
    | none =>
      have hsame : state.setDelivery delivery none = state := by
        rw [BillingState.setDelivery, ← hd, Function.update_eq_self]
      rwa [hsame]
    | some entry =>
      obtain ⟨event, phase⟩ := entry
      refine h.setDelivery hd ?_ (by simp)
      rintro rfl
      exact hundisturbed event hd

/-- **An outdated event** that puts a workspace back activates its subscription. -/
theorem not_inOrder_of_putsBack {step : BillingStep} (h : PutsBack state step) :
    ¬ InOrder state step := by
  obtain ⟨delivery, fetched, priceId, aborts, now, event, target, rfl, hd, houtdated, workspaceId,
    hbefore, hafter⟩ := h
  intro hinOrder
  rw [BillingStep.apply, hd] at hafter
  dsimp only at hafter
  split at hafter
  · next store' hok =>
    have hafter : (store'.billing workspaceId).1 = some .PAYG_AI := hafter
    rcases transaction_outcome hok with ⟨_, rfl⟩ | ⟨object, target', rfl, houtcome⟩
    · exact hbefore hafter
    · have hnot := hinOrder event object target' hd houtdated
      cases houtcome with
      | activated hactivates _ => exact hnot hactivates
      | invoiced _ hactivates _ _ => exact hnot hactivates
      | paused status _ hsets =>
        rw [hsets.billing] at hafter
        split at hafter
        · cases hafter
        · exact hbefore hafter
      | kept hbilling _ _ => exact hbefore (hbilling workspaceId ▸ hafter)
  · exact hbefore hafter

/-- **Stripe events are applied once and a cancelled subscription stays cancelled** in every run
that disturbs no delivery, and in every run that applies no outdated event that reports its
subscription as active. -/
theorem stripe_events_applied_once (store : BillingStore) (steps : List BillingStep) :
    ((∀ done step, done ++ [step] <+: steps → Undisturbed (runBilling store done) step) →
      ∀ done, done <+: steps → ((runBilling store done).committed.map StripeEvent.id).Nodup) ∧
    ((∀ done step, done ++ [step] <+: steps → InOrder (runBilling store done) step) →
      ∀ done step, done ++ [step] <+: steps → ¬ PutsBack (runBilling store done) step) := by
  constructor
  · intro h
    have honce := forall_prefix_foldl once_empty
      (fun _ _ hbefore hundisturbed => BillingStep.apply_once hbefore hundisturbed) h
    exact fun done hpre => (honce done hpre).nodup
  · intro h done step hpre hback
    exact not_inOrder_of_putsBack hback (h done step hpre)

end

/-! ## Two deliveries, and a late one -/

def deletedEvent : StripeEvent :=
  ⟨lit "evt2", "customer.subscription.deleted", 2, some (sampleSubscription "canceled")⟩

theorem forall_deliver {P : List BillingStep → BillingStep → Prop} {delivery : Nat} {now : Int}
    (hreceive : P [] (.receive delivery event))
    (hresolve : P [.receive delivery event] (.resolve delivery))
    (hcommit : P [.receive delivery event, .resolve delivery]
      (.commit delivery (.ok (sampleSubscription "active")) (some (lit "price")) false now))
    (hmark : ∀ done, P done (.mark delivery true now)) :
    ∀ done step, done ++ [step] <+: deliver delivery event now → P done step :=
  forall_steps_cons.2 ⟨hreceive, forall_steps_cons.2 ⟨hresolve,
    forall_steps_cons.2 ⟨hcommit, forall_steps_cons.2 ⟨hmark _, forall_steps_nil⟩⟩⟩⟩

/-- One delivery disturbs nothing, and nothing is outdated before the first deletion. -/
theorem stripe_events_applied_once_delivered :
    (∀ done, done <+: deliver 0 activeEvent 5 →
      ((runBilling freeStore done).committed.map StripeEvent.id).Nodup) ∧
    ∀ done step, done ++ [step] <+: deliver 0 activeEvent 5 →
      ¬ PutsBack (runBilling freeStore done) step := by
  obtain ⟨honce, hback⟩ := stripe_events_applied_once freeStore (deliver 0 activeEvent 5)
  refine ⟨honce (forall_deliver ?_ trivial trivial fun _ => rfl),
    hback (forall_deliver trivial trivial ?_ fun _ => trivial)⟩
  · simp [Undisturbed, runBilling]
  · have hcommitted : (runBilling freeStore
        [.receive 0 activeEvent, .resolve 0]).committed = [] := rfl
    intro event object target _ houtdated
    simp [StripeEvent.Outdated, hcommitted] at houtdated

/-- Two deliveries of one event, the second of which starts before the first has written its mark.
-/
def twoDeliveries : List BillingStep :=
  [.receive 0 activeEvent, .receive 1 activeEvent, .resolve 0, .resolve 1,
    .commit 0 (.ok (sampleSubscription "active")) (some (lit "price")) false 5, .mark 0 true 5,
    .commit 1 (.ok (sampleSubscription "active")) (some (lit "price")) false 6, .mark 1 true 6]

/-- A deletion, and an older event of the subscription up to its transaction. -/
def deletedThenActivated : List BillingStep :=
  .checkout sampleCheckout :: deliver 0 deletedEvent 5 ++ [.receive 1 activeEvent, .resolve 1]

/-- **Two deliveries** that overlap commit the effects twice, and **a late event** puts the
workspace of a deleted subscription back on `PAYG_AI`. -/
theorem not_stripe_events_applied_once :
    ¬ ((runBilling freeStore twoDeliveries).committed.map StripeEvent.id).Nodup ∧
    PutsBack (runBilling freeStore deletedThenActivated)
      (.commit 1 (.ok (sampleSubscription "active")) (some (lit "price")) false 6) := by
  refine ⟨by decide +kernel, 1, _, _, _, _, activeEvent,
    some (sampleSubscription "active", lit "w"), rfl, by rfl, ?_, lit "w", by decide +kernel,
    by decide +kernel⟩
  refine ⟨deletedEvent, ?_, rfl, rfl, by decide +kernel, by decide +kernel⟩
  decide +kernel

end Corgtex.Domain.Billing
