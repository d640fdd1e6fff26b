import Mathlib.Algebra.BigOperators.Group.List.Basic
import Mathlib.Algebra.Ring.Int.Defs
import SocketWatch.Proofs.Dialog.Timing
/-!
# What merging amounts to

A burst is merged event by event, and what it keeps of the events so far is all that it knows of
them. Here it is said what comes out of that for a whole list of events, whatever their times: the
first events, the sum of the results, the beginning of all bytes, and the time from the earliest
moment that was seen to the end of the last event (`Burst.foldl_merge_exact`). Every part is one
induction, on the list from its end.

The time is the part that is not obvious. With each event the time up to the event before is taken
off, and what would be negative is cut off at zero. That loses an event that ended early, but not
its time: it is the earliest moment from then on (`Event.earliest`), and what is counted is counted
from there.

Only a burst of one event keeps bytes beyond its limit. What it would keep with a limit is what the
next event finds, so the induction is on that (`Burst.gathered`).
-/

namespace SocketWatch

/-- The earliest of the moments that events which are merged tell of: when the first of them began,
which may be before time zero, and when each of the others ended. -/
def Event.earliest (first : Event) (later : List Event) : Int :=
  (later.map fun e ↦ (e.timestamp.toNat : Int)).foldl min
    (first.timestamp.toNat - first.latency.toNat)

theorem Event.earliest_concat (first : Event) (later : List Event) (e : Event) :
    first.earliest (later ++ [e]) = min (first.earliest later) e.timestamp.toNat := by
  simp [earliest]

namespace Burst

/-- What a burst adds up to, the bytes cut off also where it is a single event. -/
def gathered (b : Burst) : Merged := b.merged.getD (start b.first b.limit)

theorem gathered_merge (b : Burst) (e : Event) :
    (b.merge e).gathered = b.gathered.add e b.limit := rfl

variable (first : Event) (later : List Event) (limit : Nat)

@[simp] theorem limit_foldl_merge (b : Burst) : (later.foldl merge b).limit = b.limit := by
  induction later generalizing b with
  | nil => rfl
  | cons e later ih => exact ih (b.merge e)

/-- The first events are kept, as many as there is room for. -/
theorem events_foldl_merge :
    (later.foldl merge (ofEvent first limit)).events = (first :: later).take maxEvents := by
  induction later using List.reverseRecOn with
  | nil => rfl
  | append_singleton later e ih =>
    rw [List.foldl_concat, events_merge, ih, List.length_take, ← List.cons_append]
    split
    · -- there is room for all of them
      rw [List.take_of_length_le (by omega), List.take_of_length_le]
      rw [List.length_append, List.length_singleton]
      omega
    · rw [List.take_append_of_le_length (by omega)]

/-- The results of all events are added up, those of events that are not kept too. -/
theorem result_foldl_merge :
    (later.foldl merge (ofEvent first limit)).result =
      ((first :: later).map (·.result.toInt)).sum := by
  induction later using List.reverseRecOn with
  | nil => simp [ofEvent, result]
  | append_singleton later e ih =>
    rw [List.foldl_concat, result_merge, ih, ← List.cons_append, List.map_append, List.sum_append,
      List.map_singleton, List.sum_singleton]

theorem lastTimestamp_foldl_merge :
    (later.foldl merge (ofEvent first limit)).lastTimestamp =
      ((first :: later).getLast (List.cons_ne_nil first later)).timestamp.toNat := by
  induction later using List.reverseRecOn with
  | nil => rfl
  | append_singleton later e _ =>
    rw [List.foldl_concat, lastTimestamp_merge]
    simp

/-- The bytes of all events are strung together, up to the limit. -/
theorem data_gathered_foldl_merge :
    (later.foldl merge (ofEvent first limit)).gathered.data =
      ((first :: later).flatMap (·.data)).take limit := by
  induction later using List.reverseRecOn with
  | nil => simp [ofEvent, gathered, start]
  | append_singleton later e ih =>
    have hcut : ∀ bytes : List UInt8, limit - (bytes.take limit).length = limit - bytes.length :=
      fun bytes ↦ by rw [List.length_take]; omega
    rw [List.foldl_concat, gathered_merge, Merged.add, limit_foldl_merge, ih]
    show _ ++ e.data.take (limit - (_ : List UInt8).length) = _
    rw [hcut, ← List.take_append, ← List.cons_append, List.flatMap_append, List.flatMap_singleton]

/-- From the second event on, what is kept is what is gathered. -/
theorem data_foldl_merge :
    (later.foldl merge (ofEvent first limit)).data =
      if later = [] then first.data else ((first :: later).flatMap (·.data)).take limit := by
  rw [← data_gathered_foldl_merge]
  cases later using List.reverseRecOn with
  | nil => rfl
  | append_singleton later e =>
    rw [if_neg (by simp), List.foldl_concat]
    rfl

/-- **What is counted is the time since the earliest moment.** -/
theorem duration_foldl_merge :
    ((later.foldl merge (ofEvent first limit)).duration : Int) =
      (later.foldl merge (ofEvent first limit)).lastTimestamp - first.earliest later := by
  induction later using List.reverseRecOn with
  | nil =>
    show (first.latency.toNat : Int) =
      first.timestamp.toNat - (first.timestamp.toNat - first.latency.toNat)
    omega
  | append_singleton later e ih =>
    rw [List.foldl_concat, lastTimestamp_merge, duration_merge, Event.earliest_concat]
    -- an event that ended before the earliest moment so far leaves no time
    omega

/-- **Merging, as a whole.** Of a first event and any others, in any order of time, a burst keeps
the first ten and no more; it adds up all results; its last time is that of the last event; it keeps
the first bytes of all of them together, or all bytes of the first event if that is the only one;
and it counts the time from the earliest moment that the events tell of to the last time. -/
theorem foldl_merge_exact :
    let all := first :: later
    let last := all.getLast (List.cons_ne_nil first later)
    let b := later.foldl merge (ofEvent first limit)
    b.size = min all.length maxEvents ∧
      (∀ i, b.events[i]? = if i < b.size then all[i]? else none) ∧
      b.result = (all.map (·.result.toInt)).sum ∧
      b.lastTimestamp = last.timestamp.toNat ∧
      b.data = (if later = [] then first.data else (all.flatMap (·.data)).take limit) ∧
      (b.duration : Int) = last.timestamp.toNat - first.earliest later := by
  intro all last b
  have hevents : b.events = all.take maxEvents := events_foldl_merge first later limit
  have hlast : b.lastTimestamp = last.timestamp.toNat := lastTimestamp_foldl_merge first later limit
  have hsize : b.size = min all.length maxEvents := by
    rw [size, hevents, List.length_take, Nat.min_comm]
  refine ⟨hsize, fun i ↦ ?_, result_foldl_merge first later limit, hlast,
    data_foldl_merge first later limit, ?_⟩
  · rw [hevents, List.getElem?_take, hsize]
    by_cases hi : i < all.length
    · simp only [Nat.lt_min, hi, true_and]
    · simp only [List.getElem?_eq_none (Nat.le_of_not_lt hi), ite_self]
  · rw [← hlast]
    exact duration_foldl_merge first later limit

end Burst

end SocketWatch
