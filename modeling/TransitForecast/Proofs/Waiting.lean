import Mathlib.Data.String.Basic
import TransitForecast.Proofs.Confluence
import TransitForecast.Proofs.Ledger
import TransitForecast.Proofs.Plan

/-!
# TransitForecast — what waits for answers

The parked batches are those that still wait: each lies under its own id, is not published, and
awaits at least one inference and at most as many as it has requests. A batch that awaits nothing
from the start is published by the handling that builds it, and is never parked. So whoever lists
the parked batches finds none that is done.

## Results

* `waiting_run`  — what is parked waits, however the engine got there.
* `published_run` — what is published stays published.
* `sendsOff_handleReport` — a report publishes the batches that await nothing.
* `parked_batches_wait` — all of it, for every run from a start.
-/

namespace TransitForecast

-- ---------------------------------------------------------------------------
-- Batches that wait
-- ---------------------------------------------------------------------------

/-- A batch that waits for answers to at most its requests. -/
structure Batch.Waits (b : Batch) : Prop where
  unpublished : b.published = false
  awaits : 1 ≤ b.pending
  requested : b.pending ≤ b.requests.length

/-- A batch after it was built and sent off: published if it awaits nothing. -/
def Batch.sentOff (b : Batch) : Batch := { b with published := decide (b.pending = 0) }

/-- A fresh batch that awaits something waits. -/
theorem Batch.Fresh.waits {b : Batch} (hb : b.Fresh) (hPending : b.pending ≠ 0) : b.Waits :=
  ⟨hb.unpublished, Nat.one_le_iff_ne_zero.2 hPending, Nat.le_of_eq hb.length_requests.symm⟩

/-- A batch that waits does so until its last answer. -/
theorem Batch.Waits.answer {b b' : Batch} {c : CorrelationId} {seconds : Float} (hb : b.Waits)
    (h : b.answer c seconds = .ok b') (hPending : b'.pending ≠ 0) : b'.Waits := by
  have hOne := Batch.pending_answer h
  obtain ⟨front, p, back, p', -, -, -, -, rfl⟩ := Batch.answer_eq_ok_iff.1 h
  have hRequested := hb.requested
  exact ⟨hb.unpublished, Nat.one_le_iff_ne_zero.2 hPending, by dsimp only at hOne ⊢; omega⟩

namespace BatchStore

/-- Every parked batch lies under its own id and waits. -/
def Waiting (s : BatchStore) : Prop :=
  ∀ id p, s.parked.find? id = some p → ∃ b, s.get? p.batch = some b ∧ b.id = id ∧ b.Waits

/-- Whether the batch of a number is published. -/
def Published (s : BatchStore) (ref : BatchRef) : Prop :=
  ∃ b, s.get? ref = some b ∧ b.published = true

theorem waiting_empty (lifetime : Span) : (empty lifetime).Waiting := by
  intro id p h
  simp [empty] at h

/-- What is published is not parked. -/
theorem Waiting.not_mem_refs {s : BatchStore} (h : s.Waiting) {ref : BatchRef}
    (hPublished : s.Published ref) : ref ∉ s.refs := by
  intro hMem
  obtain ⟨p, hp, rfl⟩ := List.mem_map.1 hMem
  obtain ⟨⟨id, p⟩, hEntry, rfl⟩ := List.mem_map.1 hp
  obtain ⟨b, hGet, -, hWaits⟩ := h id p (Table.find?_eq_some_iff.2 hEntry)
  obtain ⟨b', hGet', hDone⟩ := hPublished
  rw [hGet] at hGet'
  cases hGet'
  rw [hWaits.unpublished] at hDone
  cases hDone

-- ---------------------------------------------------------------------------
-- Answers and sweeps
-- ---------------------------------------------------------------------------

/-- An answer leaves the others waiting, and takes out the batch that it completes. -/
theorem Waiting.apply {s : BatchStore} (h : s.Waiting) (hs : s.Sound) (r : InferenceResponse)
    (now : Instant) : (s.apply r now).2.Waiting := by
  rcases apply_cases hs r now with ⟨error, hError⟩ |
    ⟨c, seconds, ref, b, b', -, hFind, hGet, hb', hCases⟩
  · rw [hError]
    exact h
  · obtain ⟨p, hParked, -, rfl⟩ := find_eq_ok_iff.1 hFind
    obtain ⟨own, hOwn, hId, hWaits⟩ := h _ _ hParked
    rw [hGet] at hOwn
    cases hOwn
    have hSameId : b'.id = b.id := by
      obtain ⟨front, q, back, q', -, -, -, -, rfl⟩ := Batch.answer_eq_ok_iff.1 hb'
      rfl
    rcases hCases with ⟨hMore, hApply⟩ | ⟨-, hApply⟩
    · rw [hApply]
      intro id q hFound
      obtain ⟨other, hOther, hOtherId, hOtherWaits⟩ := h id q hFound
      rw [get?_set hGet]
      split
      · rename_i hSame
        rw [hSame, hGet] at hOther
        cases hOther
        exact ⟨b', rfl, hSameId.trans hOtherId, hWaits.answer hb' hMore⟩
      · exact ⟨other, hOther, hOtherId, hOtherWaits⟩
    · rw [hApply]
      intro id q hFound
      rw [find?_unpark] at hFound
      split at hFound
      · cases hFound
      · rename_i hApart
        obtain ⟨other, hOther, hOtherId, hOtherWaits⟩ := h id q hFound
        refine ⟨other, ?_, hOtherId, hOtherWaits⟩
        -- the completed batch lay under the id that was taken out, and under no other
        refine (get?_set_of_ne hGet _ fun hSame => hApart ?_).trans hOther
        rw [hSame, hGet] at hOther
        cases hOther
        exact hOtherId.symm.trans hId

/-- A sweep takes batches out, and leaves the others as they are. -/
theorem Waiting.sweep {s : BatchStore} (h : s.Waiting) (now : Instant) : (s.sweep now).Waiting := by
  intro id p hFound
  rw [find?_sweep, Option.filter_eq_some_iff] at hFound
  exact h id p hFound.1

/-- An answer publishes, but takes nothing back. -/
theorem Published.apply {s : BatchStore} {ref : BatchRef} (h : s.Published ref) (hs : s.Sound)
    (r : InferenceResponse) (now : Instant) : (s.apply r now).2.Published ref := by
  obtain ⟨b, hGet, hPublished⟩ := h
  rcases apply_cases hs r now with ⟨error, hError⟩ |
    ⟨c, seconds, other, b₁, b₁', -, -, hOther, hb₁', hCases⟩
  · rw [hError]
    exact ⟨b, hGet, hPublished⟩
  · -- a published batch awaits nothing, so the answer is for another one
    have hApart : ref ≠ other := by
      rintro rfl
      rw [hGet] at hOther
      cases hOther
      have hNothing := hs.published hGet hPublished
      have hOne := Batch.pending_answer hb₁'
      omega
    rcases hCases with ⟨-, hApply⟩ | ⟨-, hApply⟩
    · rw [hApply]
      exact ⟨b, (get?_set_of_ne hOther _ hApart).trans hGet, hPublished⟩
    · rw [hApply]
      exact ⟨b, (get?_set_of_ne hOther _ hApart).trans hGet, hPublished⟩

-- ---------------------------------------------------------------------------
-- Summaries
-- ---------------------------------------------------------------------------

/-- The view of a parked batch. -/
def view? (s : BatchStore) (p : Parked) : Option BatchSummary :=
  (s.get? p.batch).map fun b => b.summary (some p.expiresAt)

/-- Each parked batch has a view, and it shows the id that the batch is parked under. -/
theorem Waiting.view? {s : BatchStore} (h : s.Waiting) {id : BatchId} {p : Parked}
    (hParked : s.parked.find? id = some p) :
    ∃ v, s.view? p = some v ∧ v.batch = id.text ∧ 1 ≤ v.pending ∧ v.pending ≤ v.requests := by
  obtain ⟨b, hGet, rfl, hWaits⟩ := h id p hParked
  exact ⟨_, by rw [BatchStore.view?, hGet]; rfl, rfl, hWaits.awaits, hWaits.requested⟩

/-- The views show the ids in some order. -/
theorem Waiting.perm_summaries {s : BatchStore} (h : s.Waiting) :
    (s.summaries.map BatchSummary.batch).Perm
      (s.parked.entries.map fun entry => entry.1.text) := by
  have hViews : ∀ entries : List (BatchId × Parked),
      (∀ entry ∈ entries, s.parked.find? entry.1 = some entry.2) →
      ((entries.map Prod.snd).filterMap s.view?).map BatchSummary.batch =
        entries.map fun entry => entry.1.text := by
    intro entries
    induction entries with
    | nil => exact fun _ => rfl
    | cons entry rest ih =>
      intro hAll
      obtain ⟨v, hView, hText, -, -⟩ := h.view? (hAll entry (List.mem_cons_self ..))
      rw [List.map_cons, List.filterMap_cons_some hView, List.map_cons, List.map_cons, hText,
        ih fun x hx => hAll x (List.mem_cons_of_mem _ hx)]
  have hSorted := (List.mergeSort_perm (s.parked.values.filterMap s.view?)
    fun a b : BatchSummary => decide (a.batch ≤ b.batch)).map BatchSummary.batch
  rw [Table.values, hViews s.parked.entries fun _ => Table.find?_eq_some_iff.2] at hSorted
  exact hSorted

/-- The views of the parked batches show different ids in ascending order. -/
theorem Waiting.ascending_summaries {s : BatchStore} (h : s.Waiting) :
    (s.summaries.map BatchSummary.batch).Pairwise (· < ·) := by
  have hSorted : (s.summaries.map BatchSummary.batch).Pairwise (· ≤ ·) := by
    have hTrans : ∀ a b c : BatchSummary, decide (a.batch ≤ b.batch) = true →
        decide (b.batch ≤ c.batch) = true → decide (a.batch ≤ c.batch) = true :=
      fun _ _ _ hab hbc =>
        decide_eq_true (le_trans (of_decide_eq_true hab) (of_decide_eq_true hbc))
    have hTotal : ∀ a b : BatchSummary,
        (decide (a.batch ≤ b.batch) || decide (b.batch ≤ a.batch)) = true := by
      intro a b
      rw [Bool.or_eq_true, decide_eq_true_eq, decide_eq_true_eq]
      exact le_total a.batch b.batch
    exact List.pairwise_map.2 ((List.pairwise_mergeSort hTrans hTotal _).imp of_decide_eq_true)
  have hDistinct : (s.summaries.map BatchSummary.batch).Nodup := by
    rw [h.perm_summaries.nodup_iff]
    have hIds := s.parked.nodup.map fun a b (hText : BatchId.text a = BatchId.text b) => by
      cases a
      cases b
      cases hText
      rfl
    rwa [List.map_map] at hIds
  exact (hSorted.and hDistinct).imp fun hBoth => lt_of_le_of_ne hBoth.1 hBoth.2

/-- What a view of a parked batch shows. -/
theorem Waiting.of_mem_summaries {s : BatchStore} (h : s.Waiting) {v : BatchSummary}
    (hv : v ∈ s.summaries) : 1 ≤ v.pending ∧ v.pending ≤ v.requests := by
  obtain ⟨p, hp, hView⟩ := List.mem_filterMap.1 (List.mem_mergeSort.1 hv)
  obtain ⟨⟨id, p⟩, hEntry, rfl⟩ := List.mem_map.1 hp
  obtain ⟨v', hView', -, hPending⟩ := h.view? (Table.find?_eq_some_iff.2 hEntry)
  have hSame : v = v' := Option.some.inj (hView.symm.trans hView')
  rw [hSame]
  exact hPending

end BatchStore

namespace Engine

-- ---------------------------------------------------------------------------
-- Vehicles
-- ---------------------------------------------------------------------------

/-- A vehicle parks only what waits. -/
theorem VehicleEffect.waiting {s s' : BatchStore} {vehicle : String} {now : Instant}
    {result : Except Halt (Option BatchRef)} (hEffect : VehicleEffect s vehicle now result s')
    (h : s.Waiting) : s'.Waiting := by
  -- the batches that were parked before stay as they are
  have hOld : ∀ id p, s.parked.find? id = some p →
      ∃ b, s'.get? p.batch = some b ∧ b.id = id ∧ b.Waits := by
    intro id p hFound
    obtain ⟨b, hGet, hRest⟩ := h id p hFound
    exact ⟨b, hEffect.get?_before hGet, hRest⟩
  cases hEffect with
  | halted => exact hOld
  | nothing => exact hOld
  | unparked _ => exact hOld
  | @claimed b _ _ _ =>
    rw [BatchStore.claim_eq (s.get?_add_self b)] at hOld ⊢
    exact hOld
  | @parked b _ _ hBuilt _ hPending hPark =>
    obtain ⟨-, rfl⟩ := BatchStore.park_eq_ok_iff.1 hPark
    intro id p hFound
    rw [Table.find?_insert] at hFound
    split at hFound
    · rename_i hId
      cases hFound
      exact ⟨b, s.get?_add_self b, hId.symm, hBuilt.fresh.waits hPending⟩
    · exact hOld id p hFound

theorem VehicleEffect.published {s s' : BatchStore} {vehicle : String} {now : Instant}
    {result : Except Halt (Option BatchRef)} (hEffect : VehicleEffect s vehicle now result s')
    {ref : BatchRef} (h : s.Published ref) : s'.Published ref := by
  obtain ⟨b, hGet, hPublished⟩ := h
  exact ⟨b, hEffect.get?_before hGet, hPublished⟩

-- ---------------------------------------------------------------------------
-- Runs
-- ---------------------------------------------------------------------------

theorem waiting_handle {e : Engine} (hs : e.batches.Reachable) (h : e.batches.Waiting)
    (event : Event) : (e.handle event).batches.Waiting := by
  cases event with
  | observe ts => exact h
  | report r now =>
    obtain ⟨s', hLast, hCore⟩ := handleReport_induction (P := BatchStore.Waiting) now
      (fun hEffect => hEffect.waiting) e r h
    have hStore : (e.handleReport r now).2.batches = s' := congrArg Core.batches hCore
    rw [handle, hStore]
    exact hLast
  | response r now =>
    rw [handle, batches_handleResponse]
    exact h.apply hs.sound r now
  | sweep now => exact h.sweep now

/-- What is parked waits, at every moment of a run. -/
theorem waiting_run (events : List Event) : ∀ {e : Engine}, e.batches.Reachable →
    e.batches.Waiting → (e.run events).batches.Waiting := by
  induction events with
  | nil => exact fun {e} _ h => h
  | cons event rest ih =>
    intro e hs h
    exact ih (reachable_handle hs event) (waiting_handle hs h event)

theorem published_handle {e : Engine} (hs : e.batches.Reachable) {ref : BatchRef}
    (h : e.batches.Published ref) (event : Event) : (e.handle event).batches.Published ref := by
  cases event with
  | observe ts => exact h
  | report r now =>
    obtain ⟨s', hLast, hCore⟩ := handleReport_induction (P := fun s => s.Published ref) now
      (fun hEffect => hEffect.published) e r h
    have hStore : (e.handleReport r now).2.batches = s' := congrArg Core.batches hCore
    rw [handle, hStore]
    exact hLast
  | response r now =>
    rw [handle, batches_handleResponse]
    exact h.apply hs.sound r now
  | sweep now => exact h

/-- What is published stays published. -/
theorem published_run (events : List Event) : ∀ {e : Engine}, e.batches.Reachable →
    ∀ {ref : BatchRef}, e.batches.Published ref → (e.run events).batches.Published ref := by
  induction events with
  | nil => exact fun {e} _ ref h => h
  | cons event rest ih =>
    intro e hs ref h
    exact ih (reachable_handle hs event) (published_handle hs h event)

-- ---------------------------------------------------------------------------
-- Reports
-- ---------------------------------------------------------------------------

/-- The batch that is built of a vehicle, if there is one. -/
def builtOf (e : Engine) (vehicle : String) (deviations : List Deviation) : List Batch :=
  match (e.predictVehicle vehicle deviations).1 with
  | .ok (some b) => [b]
  | _ => []

/-- The batches that are built of vehicles, as they are when they are built. -/
def builtOfAll (now : Instant) : Engine → List (String × List Deviation) → List Batch
  | _, [] => []
  | e, (vehicle, deviations) :: rest =>
    match e.handleVehicle vehicle deviations now with
    | (.error _, _) => e.builtOf vehicle deviations
    | (.ok _, after) => e.builtOf vehicle deviations ++ builtOfAll now after rest

/-- The batches that are built of a report, as they are when they are built. -/
def built (e : Engine) (r : VehicleReport) (now : Instant) : List Batch :=
  (e.measure fun m => m.count .reportsHandled).builtOfAll now
    (byVehicle (r.deviations.filter fun d => e.settings.allowsRoute d.route))

/-- An engine before and after it has built batches and sent something. Each batch that awaits
nothing is published, and its updates are among what was sent. -/
structure SendsOff (e : Engine) (made : List Batch) (sent : List Sent) (e' : Engine) : Prop where
  follows : e.Follows sent e'
  publish : e'.core.publish = e.core.publish
  batches : e'.batches.batches = e.batches.batches ++ made.map Batch.sentOff
  published : ∀ b ∈ made, b.pending = 0 →
    e.core.publish (e.updateRules.buildBatch b) <:+: sent

namespace SendsOff

variable {e e₁ e₂ : Engine} {made later : List Batch} {sent more : List Sent}

/-- Nothing is built. -/
theorem nothing (hFollows : e.Follows [] e₁) (hCore : e₁.core = e.core) :
    e.SendsOff [] [] e₁ where
  follows := hFollows
  publish := by rw [hCore]
  batches := by
    rw [List.map_nil, List.append_nil, show e₁.batches = e.batches from congrArg Core.batches hCore]
  published _ hb := absurd hb List.not_mem_nil

theorem trans (h : e.SendsOff made sent e₁) (h' : e₁.SendsOff later more e₂) :
    e.SendsOff (made ++ later) (sent ++ more) e₂ where
  follows := h.follows.trans h'.follows
  publish := h'.publish.trans h.publish
  batches := by rw [h'.batches, h.batches, List.map_append, List.append_assoc]
  published := by
    intro b hb hPending
    rcases List.mem_append.1 hb with hFirst | hLast
    · exact (h.published b hFirst hPending).trans (List.prefix_append sent more).isInfix
    · have hInfix := h'.published b hLast hPending
      have hRules : e₁.updateRules = e.updateRules := congrArg Plan.updateRules h.follows.plan
      rw [h.publish, hRules] at hInfix
      exact hInfix.trans (List.suffix_append sent more).isInfix

end SendsOff

section Dispatch

variable {e : Engine} {s : BatchStore} {b : Batch}

/-- A new batch that awaits nothing is published. -/
theorem sendsOff_publishBatch (hAdded : s.batches = e.batches.batches ++ [b.sentOff]) :
    e.SendsOff [b] (e.core.publish (e.updateRules.buildBatch b))
      ({ e with batches := s }.publishBatch e.batches.batches.length).2 := by
  have hGet : s.get? e.batches.batches.length = some b.sentOff := by
    rw [BatchStore.get?, hAdded, List.getElem?_append_right (Nat.le_refl _), Nat.sub_self]
    rfl
  have hFollows := follows_publishBatch { e with batches := s } hGet
  have hCore := core_publishBatch { e with batches := s } e.batches.batches.length
  refine ⟨⟨hFollows.plan, hFollows.keeps, hFollows.journal⟩,
    (congrArg Core.publish hCore).trans rfl,
    (congrArg (fun c => c.batches.batches) hCore).trans hAdded, fun b' hb' _ => ?_⟩
  cases List.mem_singleton.1 hb'
  exact List.infix_rfl

/-- A new batch that awaits something has its requests sent. -/
theorem sendsOff_sendRequests (hAdded : s.batches = e.batches.batches ++ [b.sentOff])
    (hPending : b.pending ≠ 0) :
    ∃ sent, e.SendsOff [b] sent ({ e with batches := s }.showParked.sendRequests b) := by
  obtain ⟨sent, hFollows⟩ := follows_sendRequests { e with batches := s }.showParked b
  have hCore : ({ e with batches := s }.showParked.sendRequests b).core =
      { e with batches := s }.core := by
    rw [core_sendRequests, core_showParked]
  refine ⟨sent, ⟨hFollows.plan, hFollows.keeps, hFollows.journal⟩,
    (congrArg Core.publish hCore).trans rfl,
    (congrArg (fun c => c.batches.batches) hCore).trans hAdded, fun b' hb' hNothing => ?_⟩
  rw [List.mem_singleton.1 hb'] at hNothing
  exact absurd hNothing hPending

/-- A new batch is published at once, or it is parked and its requests are sent. -/
theorem sendsOff_dispatch (e : Engine) (hFresh : b.published = false) (now : Instant) :
    ∃ sent, e.SendsOff [b] sent ((e.keep b).2.dispatch e.batches.batches.length now).2 := by
  have hGet : (e.keep b).2.batches.get? e.batches.batches.length = some b :=
    e.batches.get?_add_self b
  unfold dispatch
  rw [hGet]
  dsimp only
  by_cases hPending : b.pending = 0
  · -- nobody has claimed it before
    have hClaim : (e.keep b).2.claim e.batches.batches.length =
        (true, { e with
          batches := (e.batches.add b).2.set e.batches.batches.length b.sentOff }) := by
      rw [claim, BatchStore.claim_eq hGet, hFresh, Batch.sentOff, decide_eq_true hPending]
      rfl
    have hClaimed : ((e.batches.add b).2.set e.batches.batches.length b.sentOff).batches =
        e.batches.batches ++ [b.sentOff] := by
      show (e.batches.batches ++ [b]).set _ _ = _
      rw [List.set_append_right _ _ (Nat.le_refl _), Nat.sub_self]
      rfl
    rw [if_pos hPending, hClaim]
    exact ⟨_, sendsOff_publishBatch hClaimed⟩
  · have hSentOff : b.sentOff = b := by
      rw [Batch.sentOff, decide_eq_false hPending, ← hFresh]
    have hAdded : (e.keep b).2.batches.batches = e.batches.batches ++ [b.sentOff] := by
      rw [hSentOff]
      rfl
    rw [if_neg hPending]
    cases hPark : (e.keep b).2.batches.park e.batches.batches.length b now with
    | error halt =>
      refine ⟨[], .quiet rfl rfl, rfl, hAdded, fun b' hb' hNothing => ?_⟩
      rw [List.mem_singleton.1 hb'] at hNothing
      exact absurd hNothing hPending
    | ok parked =>
      obtain ⟨expiresAt, s'⟩ := parked
      obtain ⟨-, rfl⟩ := BatchStore.park_eq_ok_iff.1 hPark
      exact sendsOff_sendRequests (s := { (e.keep b).2.batches with
        parked := (e.keep b).2.batches.parked.insert b.id ⟨e.batches.batches.length, expiresAt⟩ })
        hAdded hPending

end Dispatch

/-- A vehicle has its batch sent off. -/
theorem sendsOff_handleVehicle (e : Engine) (vehicle : String) (deviations : List Deviation)
    (now : Instant) : ∃ sent, e.SendsOff (e.builtOf vehicle deviations) sent
      (e.handleVehicle vehicle deviations now).2 := by
  have hFollows := (e.follows_predictVehicle vehicle deviations).1
  have hCore := e.core_predictVehicle vehicle deviations
  have hFresh : ∀ {b}, (e.predictVehicle vehicle deviations).1 = .ok (some b) → b.Fresh :=
    fun hMade => (fresh_predictVehicle hMade).1
  unfold handleVehicle builtOf
  rcases hResult : e.predictVehicle vehicle deviations with ⟨halt | _ | b, e₁⟩
  · rw [hResult] at hFollows hCore
    exact ⟨[], .nothing hFollows hCore⟩
  · rw [hResult] at hFollows hCore
    exact ⟨[], .nothing hFollows hCore⟩
  · rw [hResult] at hFollows hCore hFresh
    obtain ⟨sent, hDispatch⟩ := sendsOff_dispatch e₁ (hFresh rfl).unpublished now
    have hBoth := SendsOff.trans (.nothing hFollows hCore) hDispatch
    refine ⟨sent, ?_⟩
    have hRef : (e₁.keep b).1 = e₁.batches.batches.length := rfl
    rw [← hRef] at hBoth
    dsimp only
    rcases hLast : (e₁.keep b).2.dispatch (e₁.keep b).1 now with ⟨halt | _, e₂⟩
    · rw [hLast] at hBoth
      exact hBoth
    · rw [hLast] at hBoth
      exact hBoth

/-- The vehicles of a report have their batches sent off in order. -/
theorem sendsOff_handleVehicles (now : Instant) (vehicles : List (String × List Deviation)) :
    ∀ e : Engine, ∃ sent, e.SendsOff (e.builtOfAll now vehicles) sent
      (e.handleVehicles now vehicles).2 := by
  induction vehicles with
  | nil => exact fun e => ⟨[], .nothing (.refl e) rfl⟩
  | cons x rest ih =>
    intro e
    obtain ⟨vehicle, deviations⟩ := x
    obtain ⟨sent, hFirst⟩ := e.sendsOff_handleVehicle vehicle deviations now
    unfold handleVehicles builtOfAll
    rcases hResult : e.handleVehicle vehicle deviations now with ⟨halt | ref, e₁⟩
    · rw [hResult] at hFirst
      exact ⟨sent, hFirst⟩
    · rw [hResult] at hFirst
      obtain ⟨more, hRest⟩ := ih e₁
      have hBoth := hFirst.trans hRest
      refine ⟨sent ++ more, ?_⟩
      dsimp only at hBoth ⊢
      rcases hMore : e₁.handleVehicles now rest with ⟨halt | refs, e₂⟩
      · rw [hMore] at hBoth
        exact hBoth
      · rw [hMore] at hBoth
        exact hBoth

/-- A report has its batches sent off. -/
theorem sendsOff_handleReport (e : Engine) (r : VehicleReport) (now : Instant) :
    ∃ sent, e.SendsOff (e.built r now) sent (e.handleReport r now).2 := by
  obtain ⟨sent, hVehicles⟩ := sendsOff_handleVehicles now
    (byVehicle (r.deviations.filter fun d => e.settings.allowsRoute d.route))
    (e.measure fun m => m.count .reportsHandled)
  have hCounted : e.SendsOff [] [] (e.measure fun m => m.count .reportsHandled) :=
    .nothing (.quiet rfl rfl) (core_add e (by simp) 1)
  have hBoth := hCounted.trans hVehicles
  refine ⟨sent, ?_⟩
  unfold handleReport
  dsimp only at hBoth ⊢
  rcases hResult : (e.measure fun m => m.count .reportsHandled).handleVehicles now
    (byVehicle (r.deviations.filter fun d => e.settings.allowsRoute d.route)) with
    ⟨halt | refs, e₁⟩
  · rw [hResult] at hBoth
    exact hBoth
  · rw [hResult] at hBoth
    have hTimed : e₁.SendsOff [] [] (e₁.measure fun m => m.count .predictionLatency) :=
      .nothing (.quiet rfl rfl) (core_add e₁ (by simp) 1)
    have hLast := hBoth.trans hTimed
    rwa [List.append_nil, List.append_nil] at hLast

/-- The number of a batch that a report has built. -/
theorem SendsOff.get? {e e' : Engine} {made : List Batch} {sent : List Sent}
    (h : e.SendsOff made sent e') {i : Nat} {b : Batch} (hb : made[i]? = some b) :
    e'.batches.get? (e.batches.batches.length + i) = some b.sentOff := by
  rw [BatchStore.get?, h.batches, List.getElem?_append_right (Nat.le_add_right _ _),
    Nat.add_sub_cancel_left, List.getElem?_map, hb]
  rfl

-- ---------------------------------------------------------------------------
-- From a start
-- ---------------------------------------------------------------------------

theorem run_append (e : Engine) (before after : List Event) :
    e.run (before ++ after) = (e.run before).run after :=
  List.foldl_append

/-- After any events each parked batch lies under its own id, is not published, and awaits at least
one inference and at most as many as it has requests. A report publishes each batch that awaits
nothing when it is built, and has its updates sent; and whatever was published is not parked, then
or later. So the views of the parked batches show different ids in ascending order, with as many
inferences to await. -/
theorem parked_batches_wait {settings : EngineSettings} {timetable : Timetable}
    {models : ModelRegistry} {holidays : Holidays} {refusedTrips : List String} {wall : Instant}
    {e : Engine} (hStart : start? settings timetable models holidays refusedTrips wall = some e)
    (events : List Event) :
    (∀ id p, (e.run events).batches.parked.find? id = some p →
      ∃ b, (e.run events).batches.get? p.batch = some b ∧ b.id = id ∧ b.published = false ∧
        1 ≤ b.pending ∧ b.pending ≤ b.requests.length) ∧
    (∀ before r now after, events = before ++ .report r now :: after →
      ((e.run before).handleReport r now).2.batches.batches =
        (e.run before).batches.batches ++ ((e.run before).built r now).map Batch.sentOff ∧
      ∀ (i : Nat) b, ((e.run before).built r now)[i]? = some b → b.pending = 0 →
        (∃ sent, ((e.run before).handleReport r now).2.journal = (e.run before).journal ++ sent ∧
          (e.run before).core.publish ((e.run before).updateRules.buildBatch b) <:+: sent) ∧
        (e.run before).batches.batches.length + i ∉ (e.run events).batches.refs) ∧
    (∀ before after ref b, events = before ++ after →
      (e.run before).batches.get? ref = some b → b.published = true →
      ref ∉ (e.run events).batches.refs) ∧
    ((e.run events).batches.summaries.map BatchSummary.batch).Pairwise (· < ·) ∧
    (e.run events).batches.summaries.length = (e.run events).batches.parkedCount ∧
    ∀ v ∈ (e.run events).batches.summaries, 1 ≤ v.pending ∧ v.pending ≤ v.requests := by
  have hStore : e.batches = .empty settings.batchLifetime :=
    congrArg Core.batches (core_start hStart)
  have hReachable : e.batches.Reachable := hStore ▸ .empty _
  have hWaiting := waiting_run events hReachable (hStore ▸ BatchStore.waiting_empty _)
  -- what was published before is still published, so it is not parked
  have hGone : ∀ before after ref, events = before ++ after →
      (e.run before).batches.Published ref → ref ∉ (e.run events).batches.refs := by
    rintro before after ref rfl hPublished
    rw [run_append] at hWaiting ⊢
    exact hWaiting.not_mem_refs (published_run after (reachable_run hReachable before) hPublished)
  refine ⟨fun id p hFound => ?_, fun before r now after hEvents => ?_,
    fun before after ref b hEvents hGet hPublished => ?_, hWaiting.ascending_summaries, ?_,
    fun v hv => hWaiting.of_mem_summaries hv⟩
  · obtain ⟨b, hGet, hId, hWaits⟩ := hWaiting id p hFound
    exact ⟨b, hGet, hId, hWaits.unpublished, hWaits.awaits, hWaits.requested⟩
  · obtain ⟨sent, hSendsOff⟩ := (e.run before).sendsOff_handleReport r now
    refine ⟨hSendsOff.batches, fun i b hb hPending => ⟨⟨sent, hSendsOff.follows.journal, ?_⟩, ?_⟩⟩
    · exact hSendsOff.published b (List.mem_of_getElem? hb) hPending
    · refine hGone (before ++ [.report r now]) after _ (by simp [hEvents]) ?_
      rw [run_append]
      exact ⟨b.sentOff, hSendsOff.get? hb, decide_eq_true hPending⟩
  · exact hGone before after ref hEvents ⟨b, hGet, hPublished⟩
  · have hLength := hWaiting.perm_summaries.length_eq
    rw [List.length_map, List.length_map] at hLength
    exact hLength

/-- A report of a vehicle that has passed the whole trip. -/
def arrived : VehicleReport := ⟨[], [{ Sample.deviation with vehicle := "V2", progress := 1 }]⟩

/-- Two reports, and an answer to the first. -/
def twoReports : List Event :=
  [.report ⟨[], [Sample.deviation]⟩ (Sample.clock 0), .report arrived (Sample.clock 1),
    .response (Sample.answer 7 120) (Sample.clock 2)]

/-- Of two batches one still waits, and one awaits nothing from the start. -/
theorem parked_batches_wait_for_one_of_two :
    (Sample.engine.run twoReports).batches.parkedCount = 1 ∧
    (Sample.engine.run twoReports).batches.summaries.length = 1 ∧
    ((Sample.engine.run (twoReports.take 1)).built arrived (Sample.clock 1)).map Batch.pending =
      [0] ∧
    1 ∉ (Sample.engine.run twoReports).batches.refs := by
  have hStart : Sample.engine? = some Sample.engine := (Option.some_get _).symm
  have hCount : (Sample.engine.run twoReports).batches.parkedCount = 1 := by decide +kernel
  have hPending : ((Sample.engine.run (twoReports.take 1)).built arrived
      (Sample.clock 1)).map Batch.pending = [0] := by
    decide +kernel
  obtain ⟨-, hReports, -, -, hLength, -⟩ := parked_batches_wait hStart twoReports
  refine ⟨hCount, hLength.trans hCount, hPending, ?_⟩
  obtain ⟨-, hDone⟩ := hReports (twoReports.take 1) arrived (Sample.clock 1) _ rfl
  obtain ⟨b, hb, hNothing⟩ : ∃ b, ((Sample.engine.run (twoReports.take 1)).built arrived
      (Sample.clock 1))[0]? = some b ∧ b.pending = 0 := by
    have hFirst := congrArg (fun l => l[0]?) hPending
    rwa [List.getElem?_map, List.getElem?_cons_zero, Option.map_eq_some_iff] at hFirst
  have hGone := (hDone 0 b hb hNothing).2
  rwa [show (Sample.engine.run (twoReports.take 1)).batches.batches.length = 1 by decide +kernel]
    at hGone

end Engine

end TransitForecast
