import Mathlib.Tactic.SplitIfs
import ControlPlane.Store.Watch

/-!
# What a receive delivers

A watch has two sources: its backlog, read from the history when it opened, and its receiver on
the hub, to which every later commit is sent. This module follows one receiver through the
hub's operations and one receive through the subscription.

* The hub: sending appends to every open receiver's queue; closing, refilling or opening
  another receiver leaves this one's queue alone (`Hub.queued_send`, `Hub.queued_setQueue_self`,
  `Hub.queued_subscribe_of_ne`, ...). A new receiver starts empty when the hub never gave its
  number before (`Hub.Fresh`).
* A receive that does not fall behind delivers a prefix of what the watch has yet to deliver,
  the backlog and then the matching events of the queued batches, and keeps the rest
  (`Subscription.poll_delivers`); it waits only when nothing is left.
* A receive on a watch that is neither compacted nor cancelled waits exactly when nothing is
  left and its receiver holds no more batches than the hub keeps (`Subscription.poll_waits`);
  otherwise it hands over events or fails compacted (`Subscription.poll_ready`).
-/

namespace ControlPlane

namespace Hub

variable {h : Hub} {r i : Nat} {b : Batch} {q : List Batch}

/-- Whether a receiver is open. -/
def IsOpen (h : Hub) (r : Nat) : Prop := ∃ rc ∈ h.receivers, rc.id = r

/-- Every open receiver has a number below the next one the hub gives. -/
def Fresh (h : Hub) : Prop := ∀ rc ∈ h.receivers, rc.id < h.nextId

theorem find?_of_isOpen (hr : h.IsOpen r) : ∃ rc, h.receivers.find? (·.id == r) = some rc := by
  obtain ⟨rc, mem, rfl⟩ := hr
  exact List.find?_isSome.2 ⟨rc, mem, by simp⟩ |> Option.isSome_iff_exists.1

theorem queued_eq {rc : Receiver} (hrc : h.receivers.find? (·.id == r) = some rc) :
    h.queued r = rc.queue := by
  simp [queued, hrc]

/-! ## Sending -/

theorem isOpen_send : (h.send b).IsOpen r ↔ h.IsOpen r := by
  simp only [IsOpen, send, List.mem_map]
  constructor
  · rintro ⟨_, ⟨rc, mem, rfl⟩, rfl⟩
    exact ⟨rc, mem, rfl⟩
  · rintro ⟨rc, mem, rfl⟩
    exact ⟨_, ⟨rc, mem, rfl⟩, rfl⟩

theorem queued_send (hr : h.IsOpen r) : (h.send b).queued r = h.queued r ++ [b] := by
  obtain ⟨rc, hrc⟩ := find?_of_isOpen hr
  -- sending keeps every receiver's number, so the lookup finds the same receiver
  have found : (h.send b).receivers.find? (·.id == r) = some { rc with queue := rc.queue ++ [b] } := by
    simp only [send, List.find?_map]
    have same : ((fun rc : Receiver => rc.id == r) ∘
        fun rc : Receiver => { rc with queue := rc.queue ++ [b] }) = fun rc => rc.id == r := rfl
    rw [same, hrc]
    rfl
  rw [queued_eq found, queued_eq hrc]

theorem queued_sends (hr : h.IsOpen r) :
    ∀ bs : List Batch, (bs.foldl send h).queued r = h.queued r ++ bs := by
  intro bs
  induction bs generalizing h with
  | nil => simp
  | cons b bs ih =>
    rw [List.foldl_cons, ih (isOpen_send.2 hr), queued_send hr, List.append_assoc]
    rfl

theorem isOpen_sends : ∀ bs : List Batch, (bs.foldl send h).IsOpen r ↔ h.IsOpen r := by
  intro bs
  induction bs generalizing h with
  | nil => rfl
  | cons b bs ih => rw [List.foldl_cons, ih, isOpen_send]

@[simp] theorem send_nextId : (h.send b).nextId = h.nextId := rfl

@[simp] theorem sends_nextId : ∀ bs : List Batch, (bs.foldl send h).nextId = h.nextId := by
  intro bs
  induction bs generalizing h with
  | nil => rfl
  | cons b bs ih => rw [List.foldl_cons, ih]; rfl

/-! ## Refilling one queue -/

theorem isOpen_setQueue : (h.setQueue i q).IsOpen r ↔ h.IsOpen r := by
  simp only [IsOpen, setQueue, List.mem_map]
  constructor
  · rintro ⟨_, ⟨rc, mem, rfl⟩, rfl⟩
    exact ⟨rc, mem, by split <;> rfl⟩
  · rintro ⟨rc, mem, rfl⟩
    exact ⟨_, ⟨rc, mem, rfl⟩, by split <;> rfl⟩

theorem queued_setQueue (hr : h.IsOpen r) :
    (h.setQueue i q).queued r = if r = i then q else h.queued r := by
  obtain ⟨rc, hrc⟩ := find?_of_isOpen hr
  have same : ((fun rc : Receiver => rc.id == r) ∘
      fun rc : Receiver => if rc.id == i then { rc with queue := q } else rc) = fun rc => rc.id == r := by
    funext rc
    by_cases hi : rc.id = i <;> simp [hi]
  have found : (h.setQueue i q).receivers.find? (·.id == r) =
      some (if rc.id == i then { rc with queue := q } else rc) := by
    simp only [setQueue, List.find?_map, same, hrc]
    rfl
  rw [queued_eq found, queued_eq hrc]
  have hid : rc.id = r := by simpa using List.find?_some hrc
  by_cases hri : r = i <;> simp [hid, hri]

@[simp] theorem setQueue_nextId : (h.setQueue i q).nextId = h.nextId := rfl

theorem setQueue_setQueue {q' : List Batch} : (h.setQueue i q).setQueue i q' = h.setQueue i q' := by
  simp only [setQueue, List.map_map, Hub.mk.injEq, and_true, true_and]
  congr 1
  funext rc
  by_cases hi : rc.id = i <;> simp [hi]

/-! ## Closing and opening other receivers -/

theorem isOpen_close (hne : r ≠ i) : (h.close i).IsOpen r ↔ h.IsOpen r := by
  simp only [IsOpen, close, List.mem_filter, bne_iff_ne]
  constructor
  · rintro ⟨rc, ⟨mem, -⟩, rfl⟩
    exact ⟨rc, mem, rfl⟩
  · rintro ⟨rc, mem, rfl⟩
    exact ⟨rc, ⟨mem, hne⟩, rfl⟩

theorem queued_close (hne : r ≠ i) : (h.close i).queued r = h.queued r := by
  -- every receiver numbered `r` survives the filter, so the lookup finds the same one
  have keep : (fun rc : Receiver => decide ((rc.id != i) = true ∧ (rc.id == r) = true)) =
      fun rc => rc.id == r := by
    funext rc
    by_cases same : rc.id = r <;> simp [same, hne]
  simp only [queued, close, List.find?_filter, keep]

@[simp] theorem close_nextId : (h.close i).nextId = h.nextId := rfl

theorem isOpen_subscribe (hr : h.IsOpen r) : h.subscribe.1.IsOpen r := by
  obtain ⟨rc, mem, rfl⟩ := hr
  exact ⟨rc, List.mem_append_left _ mem, rfl⟩

theorem queued_subscribe_of_ne (hne : r ≠ h.nextId) : h.subscribe.1.queued r = h.queued r := by
  have other : ({ id := h.nextId } : Receiver).id ≠ r := Ne.symm hne
  simp [queued, subscribe, List.find?_append, other]

/-- A receiver under a number the hub never gave before starts with nothing queued. -/
theorem subscribe_self (hf : h.Fresh) :
    h.subscribe.1.IsOpen h.nextId ∧ h.subscribe.1.queued h.nextId = [] := by
  have none : h.receivers.find? (·.id == h.nextId) = none :=
    List.find?_eq_none.2 fun rc mem same => by
      have := hf rc mem
      simp only [beq_iff_eq] at same
      omega
  refine ⟨⟨{ id := h.nextId }, List.mem_append_right _ (List.mem_singleton_self _), rfl⟩, ?_⟩
  simp [queued, subscribe, List.find?_append, none]

@[simp] theorem subscribe_nextId : h.subscribe.1.nextId = h.nextId + 1 := rfl

/-! ## Taking a batch -/

/-- A take falls behind, finds nothing, or takes the oldest queued batch. -/
theorem take_cases (h : Hub) (r : Nat) :
    (∃ m q, h.take r = (.lagged m, h.setQueue r q)) ∨
    (h.queued r = [] ∧ h.take r = (.empty, h)) ∨
    (∃ b rest, h.queued r = b :: rest ∧ h.take r = (.batch b, h.setQueue r rest)) := by
  unfold take
  dsimp only
  split_ifs
  · exact .inl ⟨_, _, rfl⟩
  · cases hq : h.queued r with
    | nil => exact .inr (.inl ⟨rfl, rfl⟩)
    | cons b rest => exact .inr (.inr ⟨b, rest, rfl, rfl⟩)

/-- A receiver that holds no more than the hub keeps finds nothing or takes its oldest batch. -/
theorem take_of_fits (hfit : (h.queued r).length ≤ h.capacity) :
    (h.queued r = [] ∧ h.take r = (.empty, h)) ∨
      (∃ b rest, h.queued r = b :: rest ∧ h.take r = (.batch b, h.setQueue r rest)) := by
  unfold take
  dsimp only
  rw [if_neg (by omega)]
  cases hq : h.queued r with
  | nil => exact .inl ⟨rfl, rfl⟩
  | cons b rest => exact .inr ⟨b, rest, rfl, rfl⟩

theorem take_of_behind (hbehind : h.capacity < (h.queued r).length) :
    ∃ m q, h.take r = (.lagged m, h.setQueue r q) := by
  unfold take
  dsimp only
  rw [if_pos hbehind]
  exact ⟨_, _, rfl⟩

/-! ## Fresh numbers -/

theorem fresh_make (capacity : Nat) : (Hub.make capacity).Fresh := by
  simp [Fresh, Hub.make]

theorem Fresh.send (hf : h.Fresh) : (h.send b).Fresh := by
  intro rc mem
  obtain ⟨rc₀, mem₀, rfl⟩ := List.mem_map.1 mem
  exact hf rc₀ mem₀

theorem Fresh.sends (hf : h.Fresh) : ∀ bs : List Batch, (bs.foldl Hub.send h).Fresh := by
  intro bs
  induction bs generalizing h with
  | nil => exact hf
  | cons b bs ih => exact ih hf.send

theorem Fresh.setQueue (hf : h.Fresh) : (h.setQueue i q).Fresh := by
  intro rc mem
  obtain ⟨rc₀, mem₀, rfl⟩ := List.mem_map.1 mem
  have := hf rc₀ mem₀
  split <;> exact this

theorem Fresh.close (hf : h.Fresh) : (h.close i).Fresh :=
  fun rc mem => hf rc (List.mem_filter.1 mem).1

theorem Fresh.subscribe (hf : h.Fresh) : h.subscribe.1.Fresh := by
  intro rc mem
  rcases List.mem_append.1 mem with mem | mem
  · have := hf rc mem
    simp only [subscribe_nextId]
    omega
  · rw [List.mem_singleton.1 mem]
    simp

end Hub

/-- The events a receive hands over: those of a successful receive, none otherwise. -/
def Poll.delivered : Poll → List WatchEvent
  | .ready (.ok evs) => evs
  | _ => []

namespace Subscription

variable {sub : Subscription} {hub : Hub}

/-- What the watch has yet to deliver: its backlog, then the matching events of the batches
queued on its receiver. -/
def remaining (sub : Subscription) (hub : Hub) : List WatchEvent :=
  sub.backlog ++ (hub.queued sub.receiver).flatMap sub.select

/-- Taking batches off a receiver that does not fall behind: the events handed over, then those
of the batches still queued, are the matching events of the batches queued before. The
subscription is unchanged, and it waits only when no queued batch had a matching event. -/
theorem next_delivers :
    ∀ (fuel : Nat) (hub : Hub), (hub.queued sub.receiver).length < fuel → hub.IsOpen sub.receiver →
      sub.compacted = false → (sub.next fuel hub).2.1.compacted = false →
      (sub.next fuel hub).2.1 = sub ∧
      Poll.delivered (sub.next fuel hub).1 ++
          ((sub.next fuel hub).2.2.queued sub.receiver).flatMap sub.select =
        (hub.queued sub.receiver).flatMap sub.select ∧
      ((sub.next fuel hub).1 = .waiting → (hub.queued sub.receiver).flatMap sub.select = []) ∧
      (sub.next fuel hub).2.2.IsOpen sub.receiver ∧ (sub.next fuel hub).2.2.nextId = hub.nextId
  | 0, hub, hlen, _, _, _ => absurd hlen (Nat.not_lt_zero _)
  | fuel + 1, hub, hlen, hopen, hcomp, hsame => by
    rcases Hub.take_cases hub sub.receiver with ⟨m, q, ht⟩ | ⟨hq, ht⟩ | ⟨b, rest, hq, ht⟩
    · -- a receiver that fell behind turns the watch compacted
      simp [next, ht] at hsame
    · simp [next, ht, hq, Poll.delivered, hopen]
    · have hopen' : (hub.setQueue sub.receiver rest).IsOpen sub.receiver :=
        Hub.isOpen_setQueue.2 hopen
      have hrest : (hub.setQueue sub.receiver rest).queued sub.receiver = rest := by
        rw [Hub.queued_setQueue hopen, if_pos rfl]
      simp only [next, ht] at hsame ⊢
      rw [hq]
      split_ifs at hsame ⊢ with hnone
      · -- a batch with no matching event is skipped
        have hlen' : ((hub.setQueue sub.receiver rest).queued sub.receiver).length < fuel := by
          rw [hrest]
          simp only [hq, List.length_cons] at hlen
          omega
        obtain ⟨hsub, hdel, hwait, hop, hid⟩ := next_delivers fuel _ hlen' hopen' hcomp hsame
        have hsel : sub.select b = [] := List.isEmpty_iff.1 hnone
        rw [hrest] at hdel hwait
        refine ⟨hsub, ?_, ?_, hop, hid⟩
        · rw [List.flatMap_cons, hsel, List.nil_append]
          exact hdel
        · intro hw
          rw [List.flatMap_cons, hsel, List.nil_append]
          exact hwait hw
      · refine ⟨rfl, ?_, by simp, hopen', rfl⟩
        rw [hrest, List.flatMap_cons]
        rfl

/-- Taking batches off a receiver changes the hub only in that receiver's queue. -/
theorem next_hub : ∀ (fuel : Nat) (hub : Hub),
    (sub.next fuel hub).2.2 = hub ∨ ∃ q, (sub.next fuel hub).2.2 = hub.setQueue sub.receiver q
  | 0, hub => .inl rfl
  | fuel + 1, hub => by
    rcases Hub.take_cases hub sub.receiver with ⟨m, q, ht⟩ | ⟨hq, ht⟩ | ⟨b, rest, hq, ht⟩
    · exact .inr ⟨q, by simp [next, ht]⟩
    · exact .inl (by simp [next, ht])
    · simp only [next, ht]
      split_ifs
      · -- the next take starts from the refilled queue
        rcases next_hub fuel (hub.setQueue sub.receiver rest) with h | ⟨q, h⟩
        · exact .inr ⟨rest, h⟩
        · exact .inr ⟨q, by rw [h, Hub.setQueue_setQueue]⟩
      · exact .inr ⟨rest, rfl⟩

/-- Taking batches off a receiver leaves the subscription alone, unless the receiver fell
behind: then the receive fails and the watch turns compacted. -/
theorem next_sub : ∀ (fuel : Nat) (hub : Hub),
    (sub.next fuel hub).2.1 = sub ∨
      ((sub.next fuel hub).2.1 = { sub with compacted := true } ∧
        ∃ e, (sub.next fuel hub).1 = .ready (.error e))
  | 0, hub => .inl rfl
  | fuel + 1, hub => by
    rcases Hub.take_cases hub sub.receiver with ⟨m, q, ht⟩ | ⟨hq, ht⟩ | ⟨b, rest, hq, ht⟩
    · refine .inr ⟨by simp [next, ht], ?_⟩
      simp only [next, ht]
      exact ⟨_, rfl⟩
    · exact .inl (by simp [next, ht])
    · simp only [next, ht]
      split_ifs
      · exact next_sub fuel _
      · exact .inl rfl

theorem poll_hub (sub : Subscription) (hub : Hub) :
    (sub.poll hub).2.2 = hub ∨ ∃ q, (sub.poll hub).2.2 = hub.setQueue sub.receiver q := by
  unfold poll
  split_ifs
  · exact .inl rfl
  · exact .inl rfl
  · exact .inl rfl
  · exact next_hub _ hub

/-- A receive changes the subscription's backlog, and turns it compacted when the receiver fell
behind; a receive that waits changes nothing of it. -/
theorem poll_sub (sub : Subscription) (hub : Hub) : ∃ backlog compacted, (sub.poll hub).2.1 = { sub with backlog, compacted } ∧
    ((sub.poll hub).1 = .waiting → (sub.poll hub).2.1 = sub) := by
  unfold poll
  split_ifs
  · exact ⟨sub.backlog, sub.compacted, rfl, fun _ => rfl⟩
  · exact ⟨sub.backlog, sub.compacted, rfl, fun _ => rfl⟩
  · exact ⟨[], sub.compacted, rfl, fun h => by cases h⟩
  · rcases next_sub ((hub.queued sub.receiver).length + 1) hub with h | ⟨h, e, he⟩
    · exact ⟨sub.backlog, sub.compacted, by rw [h], fun _ => h⟩
    · exact ⟨sub.backlog, true, by rw [h], fun hw => by rw [he] at hw; cases hw⟩

/-- One receive on an open receiver, from a watch neither compacted nor cancelled, that does not
fall behind: what it hands over, then what is left, is what was left before. Only the backlog
of the subscription changes, and the receive waits only when nothing is left. -/
theorem poll_delivers (hopen : hub.IsOpen sub.receiver) (hcomp : sub.compacted = false)
    (hcanc : sub.cancelled = false) (hlag : (sub.poll hub).2.1.compacted = false) :
    (sub.poll hub).2.1 = { sub with backlog := (sub.poll hub).2.1.backlog } ∧
    Poll.delivered (sub.poll hub).1 ++ (sub.poll hub).2.1.remaining (sub.poll hub).2.2 =
      sub.remaining hub ∧
    ((sub.poll hub).1 = .waiting → sub.remaining hub = []) ∧
    (sub.poll hub).2.2.IsOpen sub.receiver ∧ (sub.poll hub).2.2.nextId = hub.nextId := by
  have live : ¬ sub.compacted = true := by rw [hcomp]; decide
  have open' : ¬ sub.cancelled = true := by rw [hcanc]; decide
  unfold poll at hlag ⊢
  rw [if_neg live, if_neg open'] at hlag ⊢
  split_ifs at hlag ⊢ with hback
  · -- the backlog goes out whole
    refine ⟨rfl, ?_, by simp, hopen, rfl⟩
    simp only [remaining, Poll.delivered, List.nil_append]
    rfl
  · -- an empty backlog: the receive takes batches off the receiver
    have hempty : sub.backlog = [] := by simpa using hback
    obtain ⟨hsub, hdel, hwait, hop, hid⟩ :=
      next_delivers ((hub.queued sub.receiver).length + 1) hub (Nat.lt_succ_self _) hopen hcomp hlag
    refine ⟨?_, ?_, ?_, hop, hid⟩
    · rw [hsub]
    · rw [hsub, remaining, remaining, hempty, List.nil_append, List.nil_append]
      exact hdel
    · intro hw
      rw [remaining, hempty, List.nil_append]
      exact hwait hw

/-! ## What a receive can give -/

theorem poll_sub_of_waiting (hwait : (sub.poll hub).1 = .waiting) : (sub.poll hub).2.1 = sub := by
  obtain ⟨-, -, -, same⟩ := poll_sub sub hub
  exact same hwait

/-- Taking batches gives nothing yet, the matching events of a batch (never none), or the
compacted failure of a receiver that fell behind, which turns the watch compacted. -/
theorem next_result : ∀ (fuel : Nat) (hub : Hub),
    (sub.next fuel hub).1 = .waiting ∨
      (∃ evs, (sub.next fuel hub).1 = .ready (.ok evs) ∧ evs ≠ []) ∨
      (∃ e, (sub.next fuel hub).1 = .ready (.error e) ∧ e.status = .compacted ∧
        (sub.next fuel hub).2.1.compacted = true)
  | 0, _ => .inl rfl
  | fuel + 1, hub => by
    rcases Hub.take_cases hub sub.receiver with ⟨m, q, ht⟩ | ⟨_, ht⟩ | ⟨b, rest, _, ht⟩
    · exact .inr (.inr ⟨⟨.compacted, "watcher fell behind by " ++ toString m ++ " batches"⟩,
        by simp [next, ht], rfl, by simp [next, ht]⟩)
    · exact .inl (by simp [next, ht])
    · simp only [next, ht]
      split_ifs with hnone
      · exact next_result fuel _
      · exact .inr (.inl ⟨_, rfl, by simpa using hnone⟩)

/-- A receiver that holds no more than the hub keeps never falls behind: taking batches leaves
the subscription as it is. -/
theorem next_of_fits : ∀ (fuel : Nat) (hub : Hub), hub.IsOpen sub.receiver →
    (hub.queued sub.receiver).length ≤ hub.capacity → (sub.next fuel hub).2.1 = sub
  | 0, _, _, _ => rfl
  | fuel + 1, hub, hopen, hfit => by
    rcases Hub.take_of_fits hfit with ⟨_, ht⟩ | ⟨b, rest, hq, ht⟩
    · simp [next, ht]
    · simp only [next, ht]
      split_ifs
      · apply next_of_fits fuel _ (Hub.isOpen_setQueue.2 hopen)
        -- the queue lost its oldest batch, and the capacity stays
        rw [Hub.queued_setQueue hopen, if_pos rfl]
        rw [hq, List.length_cons] at hfit
        exact Nat.le_of_succ_le hfit
      · rfl

/-- A receive on a watch neither compacted nor cancelled waits, hands over some events, or fails
compacted and turns the watch compacted. -/
theorem poll_result (hub : Hub) (hcomp : sub.compacted = false)
    (hcanc : sub.cancelled = false) :
    (sub.poll hub).1 = .waiting ∨
      (∃ evs, (sub.poll hub).1 = .ready (.ok evs) ∧ evs ≠ []) ∨
      (∃ e, (sub.poll hub).1 = .ready (.error e) ∧ e.status = .compacted ∧
        (sub.poll hub).2.1.compacted = true) := by
  unfold poll
  rw [if_neg (by simp [hcomp]), if_neg (by simp [hcanc])]
  split_ifs with hback
  · exact .inr (.inl ⟨_, rfl, by simpa using hback⟩)
  · exact next_result _ hub

/-- A receive that does not fall behind keeps the watch from turning compacted. -/
theorem poll_of_fits (hopen : hub.IsOpen sub.receiver)
    (hfit : (hub.queued sub.receiver).length ≤ hub.capacity) :
    (sub.poll hub).2.1.compacted = sub.compacted := by
  unfold poll
  split_ifs
  · rfl
  · rfl
  · rfl
  · rw [next_of_fits _ hub hopen hfit]

/-- A receive on a live watch that has nothing left to deliver and has not fallen behind waits. -/
theorem poll_waits (hopen : hub.IsOpen sub.receiver) (hcomp : sub.compacted = false)
    (hcanc : sub.cancelled = false) (hnone : sub.remaining hub = [])
    (hfit : (hub.queued sub.receiver).length ≤ hub.capacity) : (sub.poll hub).1 = .waiting := by
  have hlag : (sub.poll hub).2.1.compacted = false := by rw [poll_of_fits hopen hfit, hcomp]
  obtain ⟨-, hdel, -⟩ := poll_delivers hopen hcomp hcanc hlag
  rcases poll_result hub hcomp hcanc with hw | ⟨evs, hr, hne⟩ | ⟨e, -, -, hc⟩
  · exact hw
  · -- what it would hand over is a prefix of nothing
    rw [hnone, hr] at hdel
    exact absurd (List.append_eq_nil_iff.1 hdel).1 hne
  · rw [hlag] at hc
    cases hc

/-- A receive on a live watch that has something left to deliver, or has fallen behind, is
ready: with events, or with the compacted failure. -/
theorem poll_ready (hopen : hub.IsOpen sub.receiver) (hcomp : sub.compacted = false)
    (hcanc : sub.cancelled = false)
    (hsome : ¬ (sub.remaining hub = [] ∧ (hub.queued sub.receiver).length ≤ hub.capacity)) :
    ∃ r, (sub.poll hub).1 = .ready r ∧
      ((∃ evs, r = .ok evs) ∨ ∃ e, r = .error e ∧ e.status = .compacted) := by
  rcases poll_result hub hcomp hcanc with hw | ⟨evs, hr, -⟩ | ⟨e, hr, he, -⟩
  · exfalso
    by_cases hfit : (hub.queued sub.receiver).length ≤ hub.capacity
    · -- a receive that does not fall behind waits only when nothing is left
      have hlag : (sub.poll hub).2.1.compacted = false := by rw [poll_of_fits hopen hfit, hcomp]
      obtain ⟨-, -, hnone, -⟩ := poll_delivers hopen hcomp hcanc hlag
      exact hsome ⟨hnone hw, hfit⟩
    · -- a receiver that fell behind fails its first take, unless the backlog goes first
      unfold poll at hw
      rw [if_neg (by simp [hcomp]), if_neg (by simp [hcanc])] at hw
      split_ifs at hw
      obtain ⟨m, q, ht⟩ := Hub.take_of_behind (Nat.lt_of_not_le hfit)
      simp [next, ht] at hw
  · exact ⟨_, hr, .inl ⟨evs, rfl⟩⟩
  · exact ⟨_, hr, .inr ⟨e, rfl, he⟩⟩

end Subscription

end ControlPlane
