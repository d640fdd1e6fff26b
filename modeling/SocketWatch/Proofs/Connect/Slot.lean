import SocketWatch.Proofs.Connect.Run
import SocketWatch.Proofs.Table
/-!
# One tuple of the monitor

What a call does under a tuple depends on what is open under that tuple, and on nothing else. For
an event this is plain: it strikes its own tuple. Trimming walks over all overdue attempts, one
after the other and each on the monitor that the ones before left; that the walk does to every
tuple what it would do there alone rests on each attempt being stored under its own tuple, and
once.

So a monitor is a family of small machines, one for each tuple (`step_effect`), and
what is to be shown of a call is shown of `ConnectCall.effect`.
-/

namespace SocketWatch

/-! ### The effect of a call on a tuple -/

/-- What the socket tables make of an overdue attempt, and what is reported of it. -/
def Attempt.reconcile (tables : UInt32 → Option SocketTable) (a : Attempt) :
    Option Attempt × List Attempt :=
  match ConnectMonitor.tableSignal? (tables a.pid) a.tuple with
  | none => (some a, [])
  | some signal => a.respond signal

/-- What an event does to what is open under a tuple: nothing where it is about another. -/
def Impact.effect (t : FourTuple) (slot : Option Attempt) :
    Except MonitorError Impact → Option Attempt × List Attempt
  | .error _ => (slot, [])
  | .ok i => if i.tuple = t then i.strike slot else (slot, [])

/-- What trimming does to what is open under a tuple. -/
def Attempt.trimmed (tables : UInt32 → Option SocketTable) (now secs : Nat) :
    Option Attempt → Option Attempt × List Attempt
  | none => (none, [])
  | some a =>
    if ConnectMonitor.isOverdue now secs a then a.reconcile tables else (some a, [])

/-- What a call does to what is open under a tuple, and what it reports about the tuple. -/
def ConnectCall.effect (t : FourTuple) (slot : Option Attempt) :
    ConnectCall → Option Attempt × List Attempt
  | .kernelBegan e => Impact.effect t slot e.beginning
  | .callReturned e => Impact.effect t slot e.returning
  | .stateChanged e => Impact.effect t slot e.changing
  | .dataSent e => Impact.effect t slot e.sending
  | .trim tables now secs => Attempt.trimmed tables now secs slot

namespace Attempt

/-- What is reported of an attempt has its tuple. -/
theorem filter_respond (a : Attempt) (signal : Signal) (t : FourTuple) :
    (a.respond signal).2.filter (·.tuple = t) =
      if a.tuple = t then (a.respond signal).2 else [] := by
  have h := a.respond_cases signal
  generalize a.respond signal = p at h ⊢
  cases h with
  | stays => simp
  | decides => by_cases ht : a.tuple = t <;> simp [ht]
  | closes => simp

end Attempt

namespace ConnectMonitor

/-- What holds of a monitor between calls. -/
structure Sound (m : ConnectMonitor) : Prop where
  /-- Every attempt is stored under its own tuple. -/
  tuple : ∀ t a, m.find? t = some a → a.tuple = t
  /-- No attempt is stored that is over. -/
  isOpen : ∀ t a, m.find? t = some a → a.state ≠ .closed

variable {m : ConnectMonitor}

/-! ### Signals -/

theorem find?_put (m : ConnectMonitor) (a : Attempt) (t : FourTuple) :
    (m.put a).find? t = if a.tuple = t then some a else m.find? t := by
  unfold put find?
  by_cases ht : a.tuple = t
  · subst ht
    simp
  · rw [if_neg ht]
    exact Table.find?_insert_of_ne _ ht a

theorem find?_erase (m : ConnectMonitor) (t' t : FourTuple) :
    (m.erase t').find? t = if t' = t then none else m.find? t := by
  unfold erase find?
  by_cases ht : t' = t
  · subst ht
    simp
  · rw [if_neg ht]
    exact Table.find?_erase_of_ne _ ht

theorem find?_react (m : ConnectMonitor) (a : Attempt) (signal : Signal) (t : FourTuple) :
    (m.react a signal).1.find? t = if a.tuple = t then (a.respond signal).1 else m.find? t := by
  unfold react Attempt.respond
  cases hr : a.receive signal with
  | error err => exact m.find?_put a t
  | ok r =>
    have htuple := Attempt.receive_tuple hr
    show (if r.isOver then m.erase a.tuple else m.put r.attempt).find? t =
      if a.tuple = t then (if r.isOver then none else some r.attempt) else m.find? t
    by_cases hover : r.isOver = true
    · rw [if_pos hover, if_pos hover, find?_erase]
    · rw [if_neg hover, if_neg hover, find?_put, htuple]

/-- What a signal reports is decided by the attempt. -/
theorem reports_react (m : ConnectMonitor) (a : Attempt) (signal : Signal) :
    (m.react a signal).2.toOption.join.toList = (a.respond signal).2 := by
  unfold react Attempt.respond
  cases a.receive signal <;> rfl

/-! ### Events -/

theorem find?_settle (m : ConnectMonitor) (a : Attempt) (signal : Signal) (t : FourTuple) :
    (m.settle a signal).1.find? t = if a.tuple = t then (a.respond signal).1 else m.find? t :=
  m.find?_react a signal t

theorem reports_settle (m : ConnectMonitor) (a : Attempt) (signal : Signal) :
    (m.settle a signal).reports = (a.respond signal).2 := by
  rw [← m.reports_react a signal]
  unfold settle Outcome.reports
  obtain ⟨m', answer⟩ := m.react a signal
  cases answer <;> rfl

/-- **An event strikes its own tuple**, and no other. -/
theorem applied_effect (hm : m.Sound) (r : Except MonitorError Impact) (t : FourTuple) :
    (m.applied r).1.find? t = (Impact.effect t (m.find? t) r).1 ∧
      (m.applied r).reports.filter (·.tuple = t) = (Impact.effect t (m.find? t) r).2 := by
  cases r with
  | error err => exact ⟨rfl, rfl⟩
  | ok i =>
    rw [Impact.effect]
    cases htarget : i.target (m.find? i.tuple) with
    | none =>
      have hnone : m.find? i.tuple = none := i.eq_none_of_target htarget
      rw [applied_of_none htarget]
      by_cases ht : i.tuple = t
      · subst ht
        rw [if_pos rfl, Impact.strike, htarget]
        exact ⟨hnone, rfl⟩
      · rw [if_neg ht]
        exact ⟨rfl, rfl⟩
    | some a =>
      have ha : a.tuple = i.tuple := i.target_tuple (hm.tuple i.tuple) htarget
      rw [applied_of_some htarget, find?_settle, reports_settle, Attempt.filter_respond, ha]
      by_cases ht : i.tuple = t
      · subst ht
        rw [if_pos rfl, if_pos rfl, if_pos rfl, Impact.strike_of_some htarget]
        exact ⟨rfl, rfl⟩
      · rw [if_neg ht, if_neg ht, if_neg ht]
        exact ⟨rfl, rfl⟩

/-! ### Trimming -/

variable (tables : UInt32 → Option SocketTable)

/-- Settling one attempt that is stored does under every tuple what its table says about it. -/
theorem trimOne_effect {a : Attempt} (ha : m.find? a.tuple = some a) (t : FourTuple) :
    (m.trimOne tables a).1.find? t =
        (if a.tuple = t then (a.reconcile tables).1 else m.find? t) ∧
      (m.trimOne tables a).2.filter (·.tuple = t) =
        if a.tuple = t then (a.reconcile tables).2 else [] := by
  have hsame : m.find? t = if a.tuple = t then some a else m.find? t := by
    by_cases ht : a.tuple = t
    · rw [if_pos ht, ← ht, ha]
    · rw [if_neg ht]
  cases htable : tableSignal? (tables a.pid) a.tuple with
  | none =>
    have hone : m.trimOne tables a = (m, []) := by simp only [trimOne, htable]
    have hrec : a.reconcile tables = (some a, []) := by simp only [Attempt.reconcile, htable]
    rw [hone, hrec]
    exact ⟨hsame, by simp⟩
  | some signal =>
    have hrec : a.reconcile tables = a.respond signal := by
      simp only [Attempt.reconcile, htable]
    rw [hrec]
    cases hr : a.receive signal with
    | error err =>
      -- the walk keeps the monitor that it had, in which the attempt stands as it was
      have hreact : m.react a signal = (m.put a, .error err) := by simp only [react, hr]
      have hone : m.trimOne tables a = (m, []) := by simp only [trimOne, htable, hreact]
      have hrespond : a.respond signal = (some a, []) := by simp only [Attempt.respond, hr]
      rw [hone, hrespond]
      exact ⟨hsame, by simp⟩
    | ok r =>
      have hreact : m.react a signal =
          (if r.isOver then m.erase a.tuple else m.put r.attempt, .ok r.report) := by
        simp only [react, hr]
      have hone : m.trimOne tables a = ((m.react a signal).1, r.report.toList) := by
        simp only [trimOne, htable, hreact]
      have hreports : r.report.toList = (a.respond signal).2 := by
        rw [← m.reports_react a signal, hreact]
        rfl
      rw [hone, hreports]
      exact ⟨m.find?_react a signal t, a.filter_respond signal t⟩

variable (m) in
theorem trimAll_cons (a : Attempt) (rest : List Attempt) :
    m.trimAll tables (a :: rest) =
      (((m.trimOne tables a).1.trimAll tables rest).1,
        (m.trimOne tables a).2 ++ ((m.trimOne tables a).1.trimAll tables rest).2) :=
  rfl

/-- What is still to be settled stands as it was. -/
theorem stored_trimOne {a : Attempt} {rest : List Attempt}
    (hstored : ∀ b ∈ a :: rest, m.find? b.tuple = some b) (ha : a.tuple ∉ rest.map Attempt.tuple) :
    ∀ b ∈ rest, (m.trimOne tables a).1.find? b.tuple = some b := by
  intro b hb
  have hne : a.tuple ≠ b.tuple := by
    intro h
    exact ha (h ▸ List.mem_map_of_mem hb)
  rw [(trimOne_effect tables (hstored a List.mem_cons_self) b.tuple).1, if_neg hne]
  exact hstored b (List.mem_cons_of_mem a hb)

/-- The walk leaves alone what is not on its list. -/
theorem trimAll_of_not_mem {l : List Attempt} (hstored : ∀ a ∈ l, m.find? a.tuple = some a)
    (hnodup : (l.map Attempt.tuple).Nodup) {t : FourTuple} (ht : t ∉ l.map Attempt.tuple) :
    (m.trimAll tables l).1.find? t = m.find? t ∧
      (m.trimAll tables l).2.filter (·.tuple = t) = [] := by
  induction l generalizing m with
  | nil => exact ⟨rfl, rfl⟩
  | cons a rest ih =>
    rw [List.map_cons, List.nodup_cons] at hnodup
    rw [List.map_cons, List.mem_cons, not_or] at ht
    obtain ⟨hone, hreports⟩ := trimOne_effect tables (hstored a List.mem_cons_self) t
    rw [if_neg (Ne.symm ht.1)] at hone hreports
    obtain ⟨hrest, hmore⟩ := ih (stored_trimOne tables hstored hnodup.1) hnodup.2 ht.2
    rw [trimAll_cons]
    refine ⟨hrest.trans hone, ?_⟩
    rw [List.filter_append, hreports, hmore]
    rfl

/-- **The walk settles each attempt on its list as if it were the only one.** -/
theorem trimAll_of_mem {l : List Attempt} (hstored : ∀ a ∈ l, m.find? a.tuple = some a)
    (hnodup : (l.map Attempt.tuple).Nodup) {a : Attempt} (ha : a ∈ l) :
    (m.trimAll tables l).1.find? a.tuple = (a.reconcile tables).1 ∧
      (m.trimAll tables l).2.filter (·.tuple = a.tuple) = (a.reconcile tables).2 := by
  induction l generalizing m with
  | nil => cases ha
  | cons b rest ih =>
    rw [List.map_cons, List.nodup_cons] at hnodup
    obtain ⟨hone, hreports⟩ :=
      trimOne_effect tables (hstored b List.mem_cons_self) a.tuple
    have hrest := stored_trimOne tables hstored hnodup.1
    rw [trimAll_cons, List.filter_append, hreports]
    rcases List.mem_cons.1 ha with rfl | ha
    · -- it is settled now, and the rest of the walk is about others
      obtain ⟨hlater, hmore⟩ := trimAll_of_not_mem tables hrest hnodup.2 hnodup.1
      rw [if_pos rfl] at hone
      rw [hlater, hone, hmore, if_pos rfl, List.append_nil]
      exact ⟨rfl, rfl⟩
    · have hne : b.tuple ≠ a.tuple := by
        intro h
        exact hnodup.1 (h ▸ List.mem_map_of_mem ha)
      rw [if_neg hne]
      exact ih hrest hnodup.2 ha

/-- What is open under a tuple is what the list of open attempts has with that tuple. -/
theorem Sound.mem_values (hm : m.Sound) {a : Attempt} :
    a ∈ m.attempts.values ↔ m.find? a.tuple = some a := by
  constructor
  · intro ha
    obtain ⟨⟨t, b⟩, hb, rfl⟩ := List.mem_map.1 ha
    have hfind : m.find? t = some b := (Table.find?_eq_some_iff _).2 hb
    rw [hm.tuple t b hfind]
    exact hfind
  · intro ha
    exact List.mem_map.2 ⟨_, (Table.find?_eq_some_iff _).1 ha, rfl⟩

/-- The tuples of the open attempts are the keys of the table. -/
theorem Sound.map_tuple (hm : m.Sound) :
    m.attempts.values.map Attempt.tuple = m.attempts.entries.map Prod.fst := by
  rw [Table.values, List.map_map]
  refine List.map_congr_left fun e he ↦ ?_
  exact hm.tuple e.1 e.2 ((Table.find?_eq_some_iff _).2 he)

/-- Any list of the overdue attempts is of stored attempts, with each tuple once. -/
theorem Sound.of_perm_overdue (hm : m.Sound) {now secs : Nat} {l : List Attempt}
    (hl : l.Perm (m.overdue now secs)) :
    (∀ a, a ∈ l ↔ m.find? a.tuple = some a ∧ isOverdue now secs a) ∧
      (l.map Attempt.tuple).Nodup := by
  refine ⟨fun a ↦ ?_, ?_⟩
  · rw [hl.mem_iff, overdue, List.mem_filter, hm.mem_values]
  · have hsub : ((m.overdue now secs).map Attempt.tuple).Sublist
        (m.attempts.values.map Attempt.tuple) :=
      List.filter_sublist.map _
    rw [hm.map_tuple] at hsub
    exact (hl.map _).nodup_iff.2 (m.attempts.nodup.sublist hsub)

/-- **Settling the overdue attempts is pointwise**, whatever the order in which they are listed. -/
theorem trimAll_effect (hm : m.Sound) {now secs : Nat} {l : List Attempt}
    (hl : l.Perm (m.overdue now secs)) (t : FourTuple) :
    (m.trimAll tables l).1.find? t = (Attempt.trimmed tables now secs (m.find? t)).1 ∧
      (m.trimAll tables l).2.filter (·.tuple = t) =
        (Attempt.trimmed tables now secs (m.find? t)).2 := by
  obtain ⟨hmem, hnodup⟩ := hm.of_perm_overdue hl
  have hstored : ∀ a ∈ l, m.find? a.tuple = some a := fun a ha ↦ ((hmem a).1 ha).1
  -- so the walk is over stored attempts, and meets the tuple once or not at all
  by_cases ht : ∃ a, a ∈ l ∧ a.tuple = t
  · obtain ⟨a, ha, rfl⟩ := ht
    obtain ⟨hfind, hover⟩ := (hmem a).1 ha
    rw [hfind, Attempt.trimmed, if_pos hover]
    exact trimAll_of_mem tables hstored hnodup ha
  · have hnot : t ∉ l.map Attempt.tuple := by
      simpa using ht
    have hkept : Attempt.trimmed tables now secs (m.find? t) = (m.find? t, []) := by
      cases hfind : m.find? t with
      | none => rfl
      | some a =>
        have htuple := hm.tuple t a hfind
        rw [Attempt.trimmed, if_neg]
        intro hover
        refine ht ⟨a, (hmem a).2 ⟨?_, hover⟩, htuple⟩
        rw [htuple, hfind]
    rw [hkept]
    exact trimAll_of_not_mem tables hstored hnodup hnot

/-- **Trimming is pointwise.** -/
theorem trim_effect (hm : m.Sound) (now secs : Nat) (t : FourTuple) :
    (m.trim tables now secs).1.find? t = (Attempt.trimmed tables now secs (m.find? t)).1 ∧
      (m.trim tables now secs).2.filter (·.tuple = t) =
        (Attempt.trimmed tables now secs (m.find? t)).2 :=
  trimAll_effect tables hm List.Perm.rfl t

/-! ### Calls -/

/-- **A call does under each tuple what the attempt there decides.** -/
theorem step_effect (hm : m.Sound) (c : ConnectCall) (t : FourTuple) :
    (m.step c).1.find? t = (c.effect t (m.find? t)).1 ∧
      (m.step c).2.filter (·.tuple = t) = (c.effect t (m.find? t)).2 := by
  cases c with
  | kernelBegan e =>
    have h := applied_effect hm e.beginning t
    rw [← kernelBegan_eq] at h
    exact h
  | callReturned e =>
    have h := applied_effect hm e.returning t
    rw [← callReturned_eq] at h
    exact h
  | stateChanged e =>
    have h := applied_effect hm e.changing t
    rw [← stateChanged_eq] at h
    exact h
  | dataSent e =>
    have h := applied_effect hm e.sending t
    rw [← dataSent_eq] at h
    exact h
  | trim tables now secs => exact trim_effect tables hm now secs t

end ConnectMonitor

end SocketWatch
