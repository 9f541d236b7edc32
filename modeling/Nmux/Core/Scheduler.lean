import Nmux.Core.Actor
import Mathlib.Data.Prod.Lex
import Mathlib.Data.String.Basic

/-! The order in which the scheduler gives events out. The queues are kept by source, in the order of the
sources and without an empty one, so the queues of the sources say all there is to say about a scheduler,
and pushing in another order makes the same scheduler. -/
namespace Nmux

namespace DeterministicSessionScheduler

/-- The events of a source that wait. -/
def queue (queues : List (String × List PendingSessionEvent)) (source : String) : List PendingSessionEvent :=
  match queues with
  | [] => []
  | entry :: rest => if entry.1 = source then entry.2 else queue rest source

/-- What the pushes and pops keep: sources in their order, each with a queue of its own events that is
not empty. -/
structure Canonical (queues : List (String × List PendingSessionEvent)) : Prop where
  sorted : (queues.map Prod.fst).Pairwise (· < ·)
  nonempty : ∀ entry ∈ queues, entry.2 ≠ []
  owned : ∀ entry ∈ queues, ∀ pending ∈ entry.2, pending.sourceId = entry.1

variable {queues queues' rest : List (String × List PendingSessionEvent)}
  {entry : String × List PendingSessionEvent} {source : String} {pending : PendingSessionEvent}

theorem Canonical.nil : Canonical [] := ⟨List.Pairwise.nil, nofun, nofun⟩

theorem Canonical.tail (h : Canonical (entry :: rest)) : Canonical rest where
  sorted := (List.pairwise_cons.mp h.sorted).2
  nonempty := fun other hmem => h.nonempty other (List.mem_cons_of_mem _ hmem)
  owned := fun other hmem => h.owned other (List.mem_cons_of_mem _ hmem)

theorem Canonical.head_lt (h : Canonical (entry :: rest)) : ∀ key ∈ rest.map Prod.fst, entry.1 < key :=
  (List.pairwise_cons.mp h.sorted).1

/-- An entry in front of queues that have greater sources. -/
theorem Canonical.cons (h : Canonical rest) (hlt : ∀ key ∈ rest.map Prod.fst, entry.1 < key)
    (hnonempty : entry.2 ≠ []) (howned : ∀ pending ∈ entry.2, pending.sourceId = entry.1) :
    Canonical (entry :: rest) where
  sorted := List.pairwise_cons.mpr ⟨hlt, h.sorted⟩
  nonempty := List.forall_mem_cons.mpr ⟨hnonempty, h.nonempty⟩
  owned := List.forall_mem_cons.mpr ⟨howned, h.owned⟩

@[simp] theorem queue_nil : queue [] source = [] := rfl

theorem queue_cons : queue (entry :: rest) source = if entry.1 = source then entry.2 else queue rest source :=
  rfl

theorem queue_eq_nil (h : source ∉ queues.map Prod.fst) : queue queues source = [] := by
  induction queues with
  | nil => rfl
  | cons entry rest ih =>
    rw [List.map_cons, List.mem_cons, not_or] at h
    rw [queue_cons, if_neg (Ne.symm h.1), ih h.2]

theorem queue_eq_nil_of_le (h : Canonical (entry :: rest)) (hle : source ≤ entry.1) :
    queue rest source = [] :=
  queue_eq_nil fun hmem => absurd (h.head_lt source hmem) (not_lt.mpr hle)

/-- The queues of the sources say everything. -/
theorem Canonical.ext (h : Canonical queues) (h' : Canonical queues')
    (hsame : ∀ source, queue queues source = queue queues' source) : queues = queues' := by
  induction queues generalizing queues' with
  | nil =>
    cases queues' with
    | nil => rfl
    | cons entry rest =>
      have hqueue := hsame entry.1
      rw [queue_cons, if_pos rfl] at hqueue
      exact absurd hqueue.symm (h'.nonempty entry List.mem_cons_self)
  | cons entry rest ih =>
    have hqueue := hsame entry.1
    rw [queue_cons, if_pos rfl] at hqueue
    have hnonempty := h.nonempty entry List.mem_cons_self
    cases queues' with
    | nil => exact absurd hqueue hnonempty
    | cons entry' rest' =>
      have hqueue' := hsame entry'.1
      rw [queue_cons, queue_cons, if_pos rfl] at hqueue'
      have hkey : entry.1 = entry'.1 := by
        by_contra hne
        rw [if_neg hne] at hqueue'
        rw [queue_cons, if_neg (Ne.symm hne)] at hqueue
        rcases lt_or_gt_of_ne hne with hlt | hlt
        · exact hnonempty (hqueue.trans (queue_eq_nil_of_le h' hlt.le))
        · exact h'.nonempty entry' List.mem_cons_self
            (hqueue'.symm.trans (queue_eq_nil_of_le h hlt.le))
      have hevents : entry.2 = entry'.2 := by rwa [queue_cons, if_pos hkey.symm] at hqueue
      have hrest : rest = rest' := ih h.tail h'.tail fun source => by
        have hsource := hsame source
        by_cases heq : entry.1 = source
        · rw [queue_eq_nil_of_le h heq.ge, queue_eq_nil_of_le h' (hkey ▸ heq.ge)]
        · rwa [queue_cons, queue_cons, if_neg heq, if_neg (hkey ▸ heq)] at hsource
      rw [Prod.ext hkey hevents, hrest]

/-! ### Pushing -/

theorem mem_pushQueue_key {key : String} (h : key ∈ (pushQueue pending queues).map Prod.fst) :
    key = pending.sourceId ∨ key ∈ queues.map Prod.fst := by
  induction queues with
  | nil => exact .inl (by simpa [pushQueue] using h)
  | cons entry rest ih =>
    rw [pushQueue] at h
    split at h
    · exact .inr h
    · split at h
      · exact List.mem_cons.mp h
      · rcases List.mem_cons.mp h with rfl | h
        · exact .inr List.mem_cons_self
        · exact (ih h).imp_right (List.mem_cons_of_mem _)

theorem Canonical.pushQueue (h : Canonical queues) (pending : PendingSessionEvent) :
    Canonical (pushQueue pending queues) := by
  have hown : ∀ event ∈ [pending], event.sourceId = pending.sourceId := fun event hmem => by
    rw [List.mem_singleton.mp hmem]
  induction queues with
  | nil => exact .cons .nil nofun (List.cons_ne_nil _ _) hown
  | cons entry rest ih =>
    rw [DeterministicSessionScheduler.pushQueue]
    split
    case isTrue heq =>
      refine .cons h.tail h.head_lt (List.append_ne_nil_of_right_ne_nil _ (List.cons_ne_nil _ _)) ?_
      intro event hmem
      rcases List.mem_append.mp hmem with hmem | hmem
      · exact h.owned entry List.mem_cons_self event hmem
      · rw [hown event hmem, heq]
    case isFalse hne =>
      split
      case isTrue hlt =>
        refine .cons h (fun key hmem => ?_) (List.cons_ne_nil _ _) hown
        rcases List.mem_cons.mp hmem with rfl | hmem
        · exact hlt
        · exact hlt.trans (h.head_lt key hmem)
      case isFalse hlt =>
        refine .cons (ih h.tail) (fun key hmem => ?_) (h.nonempty entry List.mem_cons_self)
          (h.owned entry List.mem_cons_self)
        rcases mem_pushQueue_key hmem with rfl | hmem
        · exact lt_of_le_of_ne (not_lt.mp hlt) hne
        · exact h.head_lt key hmem

/-- A push appends to the queue of its source and to no other. -/
theorem queue_pushQueue (h : Canonical queues) (pending : PendingSessionEvent) (source : String) :
    queue (pushQueue pending queues) source =
      if pending.sourceId = source then queue queues source ++ [pending] else queue queues source := by
  induction queues with
  | nil => rw [pushQueue, queue_cons, queue_nil, List.nil_append]
  | cons entry rest ih =>
    rw [pushQueue]
    split
    case isTrue heq =>
      rw [queue_cons, queue_cons, heq]
      split <;> rfl
    case isFalse hne =>
      split
      case isTrue hlt =>
        have hnone : queue (entry :: rest) pending.sourceId = [] := by
          rw [queue_cons, if_neg hne, queue_eq_nil_of_le h hlt.le]
        rw [queue_cons]
        split
        case isTrue heq =>
          rw [← heq, hnone, List.nil_append]
        case isFalse => rfl
      case isFalse hlt =>
        rw [queue_cons, ih h.tail, queue_cons]
        by_cases heq : entry.1 = source
        · rw [if_pos heq, if_neg (heq ▸ Ne.symm hne), if_pos heq]
        · rw [if_neg heq, if_neg heq]

/-! ### Popping -/

/-- The lane of the first comes before that of the second, or they share it and the source does. -/
def Before (front other : String × PendingSessionEvent) : Prop :=
  toLex (front.2.lane.priority, front.1) ≤ toLex (other.2.lane.priority, other.1)

theorem fronts_cons {head : PendingSessionEvent} (hhead : entry.2.head? = some head) :
    (⟨entry :: rest⟩ : DeterministicSessionScheduler).fronts =
      (entry.1, head) :: (⟨rest⟩ : DeterministicSessionScheduler).fronts := by
  obtain ⟨source, events⟩ := entry
  cases events with
  | nil => cases hhead
  | cons first tail =>
    cases hhead
    rfl

theorem Canonical.exists_head (h : Canonical (entry :: rest)) : ∃ head, entry.2.head? = some head := by
  cases hevents : entry.2 with
  | nil => exact absurd hevents (h.nonempty entry List.mem_cons_self)
  | cons head tail => exact ⟨head, rfl⟩

/-- The fronts are the heads of the queues that wait. -/
theorem Canonical.mem_fronts (h : Canonical queues) {front : String × PendingSessionEvent} :
    front ∈ (⟨queues⟩ : DeterministicSessionScheduler).fronts ↔
      (queue queues front.1).head? = some front.2 := by
  induction queues with
  | nil => exact ⟨nofun, nofun⟩
  | cons entry rest ih =>
    obtain ⟨head, hhead⟩ := h.exists_head
    rw [fronts_cons hhead, List.mem_cons, ih h.tail, queue_cons]
    by_cases heq : entry.1 = front.1
    · have hnone : queue rest front.1 = [] := queue_eq_nil_of_le h heq.ge
      rw [if_pos heq, hnone, hhead, List.head?_nil, or_iff_left nofun]
      constructor
      · intro hfront
        rw [hfront]
      · intro hfront
        exact Prod.ext heq.symm (Option.some.inj hfront).symm
    · rw [if_neg heq, or_iff_right]
      intro hfront
      exact heq (congrArg Prod.fst hfront).symm

/-- The front that is taken comes before every other. -/
theorem Canonical.urgent_before (h : Canonical queues) {front : String × PendingSessionEvent}
    (hurgent : urgent (⟨queues⟩ : DeterministicSessionScheduler).fronts = some front) :
    front ∈ (⟨queues⟩ : DeterministicSessionScheduler).fronts ∧
      ∀ other ∈ (⟨queues⟩ : DeterministicSessionScheduler).fronts, Before front other := by
  induction queues generalizing front with
  | nil => cases hurgent
  | cons entry rest ih =>
    obtain ⟨head, hhead⟩ := h.exists_head
    rw [fronts_cons hhead] at hurgent ⊢
    have hlater : ∀ other ∈ (⟨rest⟩ : DeterministicSessionScheduler).fronts, entry.1 < other.1 := by
      intro other hother
      by_contra hle
      have hnone : queue rest other.1 = [] := queue_eq_nil_of_le h (not_lt.mp hle)
      have hwaits := (h.tail.mem_fronts).mp hother
      rw [hnone] at hwaits
      cases hwaits
    rw [urgent] at hurgent
    split at hurgent
    case h_1 least hleast =>
      obtain ⟨hmem, hbefore⟩ := ih h.tail hleast
      split at hurgent
      case isTrue hlt =>
        cases hurgent
        refine ⟨List.mem_cons_of_mem _ hmem, List.forall_mem_cons.mpr ⟨?_, hbefore⟩⟩
        exact Prod.Lex.toLex_le_toLex.mpr (.inl hlt)
      case isFalse hle =>
        cases hurgent
        refine ⟨List.mem_cons_self, List.forall_mem_cons.mpr ⟨le_rfl, fun other hother => ?_⟩⟩
        have hpriority : head.lane.priority ≤ other.2.lane.priority :=
          (not_lt.mp hle).trans (Prod.Lex.monotone_fst _ _ (hbefore other hother))
        rcases hpriority.lt_or_eq with hlt | heq
        · exact Prod.Lex.toLex_le_toLex.mpr (.inl hlt)
        · exact Prod.Lex.toLex_le_toLex.mpr (.inr ⟨heq, (hlater other hother).le⟩)
    case h_2 hnone =>
      cases hurgent
      refine ⟨List.mem_cons_self, List.forall_mem_cons.mpr ⟨le_rfl, fun other hother => ?_⟩⟩
      cases hfronts : (⟨rest⟩ : DeterministicSessionScheduler).fronts with
      | nil => rw [hfronts] at hother; cases hother
      | cons first others =>
        rw [hfronts, urgent] at hnone
        split at hnone
        · split at hnone <;> cases hnone
        · cases hnone

/-- Only a scheduler without events has nothing to pop. -/
theorem Canonical.urgent_isSome (h : Canonical (entry :: rest)) :
    (urgent (⟨entry :: rest⟩ : DeterministicSessionScheduler).fronts).isSome = true := by
  obtain ⟨head, hhead⟩ := h.exists_head
  rw [fronts_cons hhead, urgent]
  split
  · split <;> rfl
  · rfl

theorem popQueue_cons : popQueue source (entry :: rest) =
    if entry.1 = source then
      if entry.2.tail.isEmpty then popQueue source rest else (entry.1, entry.2.tail) :: popQueue source rest
    else entry :: popQueue source rest := by
  unfold popQueue
  rw [List.map_cons, List.filter_cons]
  by_cases heq : entry.1 = source
  · simp [heq]
  · simp [heq]

theorem popQueue_of_not_mem (h : source ∉ queues.map Prod.fst) : popQueue source queues = queues := by
  induction queues with
  | nil => rfl
  | cons entry rest ih =>
    rw [List.map_cons, List.mem_cons, not_or] at h
    rw [popQueue_cons, if_neg (Ne.symm h.1), ih h.2]

theorem mem_popQueue_key {key : String} (h : key ∈ (popQueue source queues).map Prod.fst) :
    key ∈ queues.map Prod.fst := by
  induction queues with
  | nil => exact h
  | cons entry rest ih =>
    rw [popQueue_cons] at h
    rw [List.map_cons, List.mem_cons]
    split at h
    · split at h
      · exact .inr (ih h)
      · exact (List.mem_cons.mp h).imp_right ih
    · exact (List.mem_cons.mp h).imp_right ih

theorem Canonical.popQueue (h : Canonical queues) (source : String) : Canonical (popQueue source queues) := by
  induction queues with
  | nil => exact h
  | cons entry rest ih =>
    have hlt : ∀ key ∈ (DeterministicSessionScheduler.popQueue source rest).map Prod.fst, entry.1 < key :=
      fun key hmem => h.head_lt key (mem_popQueue_key hmem)
    rw [popQueue_cons]
    split
    · split
      · exact ih h.tail
      case isFalse hempty =>
        refine .cons (ih h.tail) hlt (fun hnil => hempty (List.isEmpty_iff.mpr hnil)) ?_
        exact fun event hmem => h.owned entry List.mem_cons_self event (List.mem_of_mem_tail hmem)
    · exact .cons (ih h.tail) hlt (h.nonempty entry List.mem_cons_self)
        (h.owned entry List.mem_cons_self)

/-- A pop takes the head of the queue of its source and leaves the others. -/
theorem queue_popQueue (h : Canonical queues) (popped source : String) :
    queue (popQueue popped queues) source =
      if popped = source then (queue queues source).tail else queue queues source := by
  induction queues with
  | nil => split <;> rfl
  | cons entry rest ih =>
    have ih := ih h.tail
    rw [popQueue_cons]
    by_cases hpopped : entry.1 = popped
    · subst hpopped
      rw [if_pos rfl]
      by_cases hsource : entry.1 = source
      · subst hsource
        rw [if_pos rfl, queue_cons, if_pos rfl]
        split
        case isTrue hempty =>
          rw [ih, if_pos rfl, queue_eq_nil_of_le h le_rfl, List.isEmpty_iff.mp hempty, List.tail_nil]
        case isFalse => rw [queue_cons, if_pos rfl]
      · rw [if_neg hsource] at ih ⊢
        rw [queue_cons, if_neg hsource]
        split
        · exact ih
        · rw [queue_cons, if_neg hsource, ih]
    · rw [if_neg hpopped, queue_cons, queue_cons, ih]
      by_cases hsource : entry.1 = source
      · have hother : ¬ popped = source := fun heq => hpopped (hsource.trans heq.symm)
        rw [if_pos hsource, if_neg hother, if_pos hsource]
      · rw [if_neg hsource, if_neg hsource]

/-- A pop leaves one event fewer. -/
theorem size_popQueue (h : Canonical queues) {head : PendingSessionEvent}
    (hhead : (queue queues source).head? = some head) :
    (⟨popQueue source queues⟩ : DeterministicSessionScheduler).size + 1 =
      (⟨queues⟩ : DeterministicSessionScheduler).size := by
  have hcons : ∀ (entry : String × List PendingSessionEvent) (rest : List (String × List PendingSessionEvent)),
      (⟨entry :: rest⟩ : DeterministicSessionScheduler).size =
        entry.2.length + (⟨rest⟩ : DeterministicSessionScheduler).size := fun entry rest => by
    unfold size
    rw [List.map_cons, List.sum_cons]
  induction queues with
  | nil => cases hhead
  | cons entry rest ih =>
    rw [popQueue_cons, hcons]
    by_cases heq : entry.1 = source
    · rw [queue_cons, if_pos heq] at hhead
      have hrest : popQueue source rest = rest := popQueue_of_not_mem fun hmem =>
        absurd (h.head_lt source hmem) (not_lt.mpr heq.ge)
      have hlength : entry.2.tail.length + 1 = entry.2.length := by
        rw [List.length_tail]
        cases hevents : entry.2 with
        | nil => rw [hevents] at hhead; cases hhead
        | cons head tail => rfl
      rw [if_pos heq, hrest]
      split
      case isTrue hempty =>
        rw [List.isEmpty_iff.mp hempty, List.length_nil] at hlength
        omega
      case isFalse =>
        rw [hcons]
        show entry.2.tail.length + _ + 1 = _
        omega
    · rw [queue_cons, if_neg heq] at hhead
      have ih := ih h.tail hhead
      rw [if_neg heq, hcons]
      omega

/-! ### Runs -/

variable {scheduler after : DeterministicSessionScheduler}

/-- The events pushed one after the other. -/
def pushAll (scheduler : DeterministicSessionScheduler) (pushes : List PendingSessionEvent) :
    DeterministicSessionScheduler :=
  pushes.foldl push scheduler

/-- Pops that give these events out. -/
inductive Pops : DeterministicSessionScheduler → List PendingSessionEvent →
    DeterministicSessionScheduler → Prop
  | refl (scheduler : DeterministicSessionScheduler) : Pops scheduler [] scheduler
  | pop {scheduler next after : DeterministicSessionScheduler} {pending : PendingSessionEvent}
      {events : List PendingSessionEvent} (hpop : scheduler.popNext = some (pending, next))
      (hrest : Pops next events after) : Pops scheduler (pending :: events) after

/-- `while let Some(pending) = pop_next()`, for as many events as may be waiting. -/
def drainFrom (scheduler : DeterministicSessionScheduler) : Nat → List PendingSessionEvent
  | 0 => []
  | fuel + 1 =>
    match scheduler.popNext with
    | none => []
    | some (pending, next) => pending :: next.drainFrom fuel

/-- Every pop takes one event out of the queues, so their number is enough. -/
def drain (scheduler : DeterministicSessionScheduler) : List PendingSessionEvent :=
  scheduler.drainFrom scheduler.size

/-- The event is the head of its source's queue, and comes before the head of every other. -/
structure Least (scheduler : DeterministicSessionScheduler) (pending : PendingSessionEvent) : Prop where
  head : (queue scheduler.queues pending.sourceId).head? = some pending
  before : ∀ source head, (queue scheduler.queues source).head? = some head →
    Before (pending.sourceId, pending) (source, head)

theorem Canonical.owned_queue (h : Canonical queues) (hmem : pending ∈ queue queues source) :
    pending.sourceId = source := by
  induction queues with
  | nil => cases hmem
  | cons entry rest ih =>
    rw [queue_cons] at hmem
    split at hmem
    case isTrue heq => rw [h.owned entry List.mem_cons_self pending hmem, heq]
    case isFalse => exact ih h.tail hmem

/-- What a pop does: it gives the least head out. -/
theorem popNext_spec (h : Canonical scheduler.queues) (hpop : scheduler.popNext = some (pending, after)) :
    scheduler.Least pending ∧ after.queues = popQueue pending.sourceId scheduler.queues := by
  unfold popNext at hpop
  obtain ⟨⟨source, least⟩, hurgent, hresult⟩ := Option.map_eq_some_iff.mp hpop
  cases hresult
  obtain ⟨hfront, hbefore⟩ := h.urgent_before hurgent
  have hhead : (queue scheduler.queues source).head? = some pending := h.mem_fronts.mp hfront
  have hsource : pending.sourceId = source := h.owned_queue (List.mem_of_head? hhead)
  subst hsource
  exact ⟨⟨hhead, fun other head hother => hbefore (other, head) (h.mem_fronts.mpr hother)⟩, rfl⟩

theorem popNext_queue (h : Canonical scheduler.queues) (hpop : scheduler.popNext = some (pending, after))
    (source : String) :
    queue scheduler.queues source =
      (if pending.sourceId = source then [pending] else []) ++ queue after.queues source := by
  obtain ⟨hleast, hqueues⟩ := popNext_spec h hpop
  rw [hqueues, queue_popQueue h]
  by_cases heq : pending.sourceId = source
  · subst heq
    rw [if_pos rfl, if_pos rfl]
    exact (List.cons_head?_tail hleast.head).symm
  · rw [if_neg heq, if_neg heq, List.nil_append]

theorem popNext_size (h : Canonical scheduler.queues) (hpop : scheduler.popNext = some (pending, after)) :
    after.size + 1 = scheduler.size := by
  obtain ⟨hleast, hqueues⟩ := popNext_spec h hpop
  have hsize := size_popQueue h hleast.head
  rwa [← hqueues] at hsize

theorem popNext_canonical (h : Canonical scheduler.queues) (hpop : scheduler.popNext = some (pending, after)) :
    Canonical after.queues := by
  rw [(popNext_spec h hpop).2]
  exact h.popQueue _

theorem popNext_none (h : Canonical scheduler.queues) (hpop : scheduler.popNext = none) : scheduler = new := by
  obtain ⟨queues⟩ := scheduler
  cases queues with
  | nil => rfl
  | cons entry rest =>
    have hsome := h.urgent_isSome
    rw [Option.map_eq_none_iff.mp hpop] at hsome
    cases hsome

theorem new_canonical : Canonical new.queues := .nil

theorem push_canonical (h : Canonical scheduler.queues) (pending : PendingSessionEvent) :
    Canonical (scheduler.push pending).queues := h.pushQueue pending

theorem pushAll_canonical (h : Canonical scheduler.queues) (pushes : List PendingSessionEvent) :
    Canonical (scheduler.pushAll pushes).queues := by
  induction pushes generalizing scheduler with
  | nil => exact h
  | cons pending rest ih => exact ih (push_canonical h pending)

/-- The queue of a source gets what the source pushed, in its order. -/
theorem queue_pushAll (h : Canonical scheduler.queues) (pushes : List PendingSessionEvent) (source : String) :
    queue (scheduler.pushAll pushes).queues source =
      queue scheduler.queues source ++ pushes.filter (·.sourceId = source) := by
  induction pushes generalizing scheduler with
  | nil => exact (List.append_nil _).symm
  | cons pending rest ih =>
    have hpush : queue (scheduler.push pending).queues source =
        if pending.sourceId = source then queue scheduler.queues source ++ [pending]
        else queue scheduler.queues source := queue_pushQueue h pending source
    show queue ((scheduler.push pending).pushAll rest).queues source = _
    rw [ih (push_canonical h pending), hpush, List.filter_cons]
    by_cases heq : pending.sourceId = source
    · rw [if_pos heq, if_pos (decide_eq_true heq), List.append_assoc, List.singleton_append]
    · rw [if_neg heq, if_neg (by simpa using heq)]

/-- **Interleavings do not matter**: two orders of the same pushes of each source make one scheduler. -/
theorem pushAll_eq {pushes pushes' : List PendingSessionEvent}
    (hsame : ∀ source, pushes.filter (·.sourceId = source) = pushes'.filter (·.sourceId = source)) :
    new.pushAll pushes = new.pushAll pushes' := by
  have hqueues : (new.pushAll pushes).queues = (new.pushAll pushes').queues :=
    (pushAll_canonical new_canonical pushes).ext (pushAll_canonical new_canonical pushes') fun source => by
      rw [queue_pushAll new_canonical, queue_pushAll new_canonical, hsame source]
  exact congrArg mk hqueues

theorem Pops.canonical {events : List PendingSessionEvent} (hpops : Pops scheduler events after)
    (h : Canonical scheduler.queues) : Canonical after.queues := by
  induction hpops with
  | refl => exact h
  | pop hpop _ ih => exact ih (popNext_canonical h hpop)

/-- What was given out of a source, and then what waits, is what waited. -/
theorem Pops.queue_eq {events : List PendingSessionEvent} (hpops : Pops scheduler events after)
    (h : Canonical scheduler.queues) (source : String) :
    queue scheduler.queues source = events.filter (·.sourceId = source) ++ queue after.queues source := by
  induction hpops with
  | refl => rfl
  | @pop _ _ _ pending events hpop _ ih =>
    rw [popNext_queue h hpop source, ih (popNext_canonical h hpop), List.filter_cons]
    by_cases heq : pending.sourceId = source
    · rw [if_pos heq, if_pos (decide_eq_true heq), List.singleton_append, List.cons_append]
    · rw [if_neg heq, if_neg (by simpa using heq), List.nil_append]

theorem drainFrom_pops {fuel : Nat} (h : Canonical scheduler.queues) (hfuel : scheduler.size ≤ fuel) :
    Pops scheduler (scheduler.drainFrom fuel) new := by
  induction fuel generalizing scheduler with
  | zero =>
    cases hpop : scheduler.popNext with
    | none =>
      rw [popNext_none h hpop]
      exact .refl new
    | some popped =>
      have hsize := popNext_size h hpop
      omega
  | succ fuel ih =>
    rw [drainFrom]
    split
    case h_1 hpop =>
      rw [popNext_none h hpop]
      exact .refl new
    case h_2 pending next hpop =>
      have hsize := popNext_size h hpop
      exact .pop hpop (ih (popNext_canonical h hpop) (by omega))

/-- Draining pops until no event waits. -/
theorem drain_pops (h : Canonical scheduler.queues) : Pops scheduler scheduler.drain new :=
  drainFrom_pops h le_rfl

theorem drain_filter (h : Canonical scheduler.queues) (source : String) :
    scheduler.drain.filter (·.sourceId = source) = queue scheduler.queues source := by
  rw [(drain_pops h).queue_eq h source]
  exact (List.append_nil _).symm

end DeterministicSessionScheduler

namespace SessionActor

/-- The events enqueued one after the other. -/
def enqueueAll {σ : Type} (actor : SessionActor σ) (pushes : List PendingSessionEvent) : SessionActor σ :=
  pushes.foldl enqueue actor

theorem enqueueAll_eq {σ : Type} (actor : SessionActor σ) (pushes : List PendingSessionEvent) :
    actor.enqueueAll pushes = { actor with scheduler := actor.scheduler.pushAll pushes } := by
  induction pushes generalizing actor with
  | nil => rfl
  | cons pending rest ih => exact ih _

end SessionActor

open DeterministicSessionScheduler (Pops)

/-- **The order of the events depends only on what each source sent.** Two interleavings of the same
events of each source are drained in one order. Each event comes out once, those of a source in the order
of their pushes, and each that is popped is the least of the heads that wait. So two actors in one state,
to which the sources send the same in different orders, drain to one state with the same records. -/
theorem event_order_depends_only_on_sources {pushes pushes' : List PendingSessionEvent}
    (hsame : ∀ source, pushes.filter (·.sourceId = source) = pushes'.filter (·.sourceId = source)) :
    (DeterministicSessionScheduler.new.pushAll pushes).drain =
        (DeterministicSessionScheduler.new.pushAll pushes').drain ∧
      (DeterministicSessionScheduler.new.pushAll pushes).drain.Perm pushes ∧
      (∀ source, (DeterministicSessionScheduler.new.pushAll pushes).drain.filter (·.sourceId = source) =
        pushes.filter (·.sourceId = source)) ∧
      (∀ events reached pending after,
        Pops (DeterministicSessionScheduler.new.pushAll pushes) events reached →
        reached.popNext = some (pending, after) → reached.Least pending) ∧
      ∀ {σ : Type} (engine : TerminalEngine σ) (actor actor' : SessionActor σ),
        actor.Idle → actor'.Idle → actor.core = actor'.core → actor.trace = actor'.trace →
        (actor.enqueueAll pushes).drainReady engine = (actor'.enqueueAll pushes').drainReady engine := by
  have hcanonical := DeterministicSessionScheduler.pushAll_canonical
    DeterministicSessionScheduler.new_canonical pushes
  have hfilter : ∀ source, (DeterministicSessionScheduler.new.pushAll pushes).drain.filter
      (·.sourceId = source) = pushes.filter (·.sourceId = source) := fun source => by
    rw [DeterministicSessionScheduler.drain_filter hcanonical,
      DeterministicSessionScheduler.queue_pushAll DeterministicSessionScheduler.new_canonical]
    rfl
  have heq := DeterministicSessionScheduler.pushAll_eq hsame
  refine ⟨congrArg DeterministicSessionScheduler.drain heq, List.perm_iff_count.mpr fun event => ?_, hfilter,
    fun events reached pending after hpops hpop => ?_, fun engine actor actor' hidle hidle' hcore htrace => ?_⟩
  · have hcount : ∀ events : List PendingSessionEvent,
        (events.filter (·.sourceId = event.sourceId)).count event = events.count event :=
      fun events => List.count_filter (by simp)
    rw [← hcount, hfilter event.sourceId, hcount]
  · exact (DeterministicSessionScheduler.popNext_spec (hpops.canonical hcanonical) hpop).1
  · have hactor : actor.enqueueAll pushes = actor'.enqueueAll pushes' := by
      rw [SessionActor.enqueueAll_eq, SessionActor.enqueueAll_eq, hidle, hidle', heq, hcore, htrace]
    rw [hactor]

/-- An event that asks for the end of the session, by this source in this lane. -/
def shutdownRequest (sourceId : String) (lane : SessionEventLane) : PendingSessionEvent where
  sourceId
  lane
  sessionMonoMs := 0
  event := .requestSessionShutdown none

/-- The control event of the first source waits behind its timer event, whatever the order of the pushes. -/
theorem event_order_head_of_line :
    (DeterministicSessionScheduler.new.pushAll
      [shutdownRequest "a" .timer, shutdownRequest "a" .control, shutdownRequest "b" .client]).drain =
        [shutdownRequest "b" .client, shutdownRequest "a" .timer, shutdownRequest "a" .control] ∧
      (DeterministicSessionScheduler.new.pushAll
        [shutdownRequest "a" .timer, shutdownRequest "a" .control, shutdownRequest "b" .client]).drain =
      (DeterministicSessionScheduler.new.pushAll
        [shutdownRequest "b" .client, shutdownRequest "a" .timer, shutdownRequest "a" .control]).drain := by
  refine ⟨by decide, (event_order_depends_only_on_sources fun source => ?_).1⟩
  by_cases ha : "a" = source
  · subst ha
    rfl
  · by_cases hb : "b" = source
    · subst hb
      rfl
    · simp [shutdownRequest, ha, hb]

end Nmux
