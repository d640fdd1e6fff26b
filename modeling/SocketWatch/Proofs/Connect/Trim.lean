import SocketWatch.Proofs.Connect.Life
import Mathlib.Data.List.Perm.Basic
/-!
# Trimming in any order

Trimming lists the overdue attempts and settles one after the other. Each is looked up when its
turn comes, in the monitor that those before it left, and the socket table of a process is read
when it is first asked for and kept for the rest of the walk. None of this can be told from the
outside. `ConnectMonitor.trimAlong` is that walk, for any order in which the open attempts are met,
and it comes to what `trim` comes to (`trim_pointwise`): every attempt fares as if it were alone
with the table of its process.

What trimming is for is told by `overdue_settled`. An attempt that is in progress afterwards, though
it began long ago, is in the middle of its handshake according to the table of its process; or its
process is not known, and then there is no table to ask, and it is passed over (`unknown_skipped`).
-/

namespace SocketWatch

/-! ### Reading tables once -/

/-- The socket tables that were read, none inside where a table could not be read. -/
abbrev TablesRead := Table UInt32 (Option SocketTable)

namespace TablesRead

variable (tables : UInt32 → Option SocketTable)

/-- The table of a process, read unless it was read before. -/
def read (known : TablesRead) (pid : UInt32) : TablesRead × Option SocketTable :=
  match known.find? pid with
  | some table => (known, table)
  | none => (known.insert pid (tables pid), tables pid)

/-- The tables that were read are the ones that are there. -/
def Faithful (known : TablesRead) : Prop :=
  ∀ pid table, known.find? pid = some table → table = tables pid

variable {tables} {known : TablesRead}

theorem faithful_empty : Faithful tables ∅ := fun _ _ h ↦ by cases h

theorem Faithful.read_snd (h : Faithful tables known) (pid : UInt32) :
    (read tables known pid).2 = tables pid := by
  unfold read
  cases hfind : known.find? pid with
  | none => rfl
  | some table => exact h pid table hfind

theorem Faithful.read_fst (h : Faithful tables known) (pid : UInt32) :
    Faithful tables (read tables known pid).1 := by
  unfold read
  cases hfind : known.find? pid with
  | some table => exact h
  | none =>
    intro other table hother
    by_cases hne : pid = other
    · subst hne
      rw [Table.find?_insert_self] at hother
      exact (Option.some.inj hother).symm
    · rw [Table.find?_insert_of_ne _ hne] at hother
      exact h other table hother

end TablesRead

/-! ### The walk -/

namespace ConnectMonitor

variable {m : ConnectMonitor} (tables : UInt32 → Option SocketTable)

/-- Settle the attempt that is open under a tuple, if one is, against a table. -/
def settleUnder (m : ConnectMonitor) (table : Option SocketTable) (t : FourTuple) :
    ConnectMonitor × List Attempt :=
  match m.find? t with
  | none => (m, [])
  | some a => m.trimOne (fun _ ↦ table) a

/-- Settle what is open under tuples, one after the other, each against the table of a process. -/
def walk (known : TablesRead) (m : ConnectMonitor) :
    List (FourTuple × UInt32) → ConnectMonitor × List Attempt
  | [] => (m, [])
  | (t, pid) :: rest =>
    let (known, table) := TablesRead.read tables known pid
    let (m, reports) := m.settleUnder table t
    let (m, more) := walk known m rest
    (m, reports ++ more)

/-- Trim, meeting the open attempts in an order. Tuples and processes of the overdue ones are noted
down before the first is settled. -/
def trimAlong (m : ConnectMonitor) (order : List Attempt) (now secs : Nat) :
    ConnectMonitor × List Attempt :=
  m.walk tables ∅ ((order.filter (isOverdue now secs)).map fun a ↦ (a.tuple, a.pid))

/-- What is open under a tuple, and what was reported about it. -/
def under (t : FourTuple) (o : ConnectMonitor × List Attempt) : Option Attempt × List Attempt :=
  (o.1.find? t, o.2.filter (·.tuple = t))

variable {tables}

/-- Only the table of its own process matters to an attempt. -/
theorem trimOne_congr {tables' : UInt32 → Option SocketTable} {a : Attempt}
    (h : tables' a.pid = tables a.pid) : m.trimOne tables' a = m.trimOne tables a := by
  unfold trimOne
  rw [h]

/-- **The walk settles what was noted down**, because that still stands when its turn comes. The
induction is on what was noted down, with the tables read so far faithful. -/
theorem walk_eq_trimAll {l : List Attempt} (hstored : ∀ a ∈ l, m.find? a.tuple = some a)
    (hnodup : (l.map Attempt.tuple).Nodup) {known : TablesRead} (hknown : known.Faithful tables) :
    m.walk tables known (l.map fun a ↦ (a.tuple, a.pid)) = m.trimAll tables l := by
  induction l generalizing m known with
  | nil => rfl
  | cons a rest ih =>
    rw [List.map_cons, List.nodup_cons] at hnodup
    have hone : m.settleUnder (TablesRead.read tables known a.pid).2 a.tuple =
        m.trimOne tables a := by
      rw [settleUnder, hstored a List.mem_cons_self]
      exact trimOne_congr (hknown.read_snd a.pid)
    have hrest := ih (stored_trimOne tables hstored hnodup.1) hnodup.2 (hknown.read_fst a.pid)
    rw [trimAll_cons, ← hrest, ← hone]
    rfl

/-! ### What the walk does under a tuple -/

variable (tables) in
/-- **The walk is trimming**, but for the order. -/
theorem Sound.trimAlong_eq_trimAll (hm : m.Sound) {order : List Attempt}
    (horder : order.Perm m.attempts.values) (now secs : Nat) :
    trimAlong tables m order now secs = m.trimAll tables (order.filter (isOverdue now secs)) := by
  obtain ⟨hmem, hnodup⟩ := hm.of_perm_overdue (horder.filter (isOverdue now secs))
  exact walk_eq_trimAll (fun a ha ↦ ((hmem a).1 ha).1) hnodup TablesRead.faithful_empty

variable (tables) in
/-- **In any order, each attempt fares as if it were alone.** -/
theorem Sound.under_trimAlong (hm : m.Sound) {order : List Attempt}
    (horder : order.Perm m.attempts.values) (now secs : Nat) (t : FourTuple) :
    under t (trimAlong tables m order now secs) =
      Attempt.trimmed tables now secs (m.find? t) := by
  obtain ⟨hfind, hreports⟩ := trimAll_effect tables hm (horder.filter (isOverdue now secs)) t
  rw [hm.trimAlong_eq_trimAll tables horder, under, hfind, hreports]

end ConnectMonitor

namespace Attempt

variable {tables tables' : UInt32 → Option SocketTable} {now secs : Nat} {a : Attempt}

/-- Trimming asks for the table of the attempt's process, and for no other. -/
theorem trimmed_congr {slot : Option Attempt} (h : ∀ a ∈ slot, tables' a.pid = tables a.pid) :
    trimmed tables' now secs slot = trimmed tables now secs slot := by
  cases slot with
  | none => rfl
  | some a => rw [trimmed, trimmed, reconcile, reconcile, h a rfl]

theorem isOverdue_iff :
    ConnectMonitor.isOverdue now secs a = true ↔
      a.pid ≠ 0 ∧ Time.ofSeconds secs ≤ now - a.began.toNat := by
  simp [ConnectMonitor.isOverdue]

theorem trimmed_of_not_overdue (h : ¬ ConnectMonitor.isOverdue now secs a = true) :
    trimmed tables now secs (some a) = (some a, []) := by
  rw [trimmed, if_neg h]

/-- What a socket table has to say is one of three signals. -/
theorem mem_of_tableSignal? {table : Option SocketTable} {t : FourTuple} {signal : Signal}
    (h : ConnectMonitor.tableSignal? table t = some signal) :
    signal ∈ [Signal.expired, .established, .disestablished] := by
  unfold ConnectMonitor.tableSignal? at h
  split at h <;> cases h <;> decide

/-- Trimming sends an attempt one signal at most, which its table gives. -/
theorem trimmed_cases (tables : UInt32 → Option SocketTable) (now secs : Nat) (a : Attempt) :
    trimmed tables now secs (some a) = (some a, []) ∨
      ∃ signal, ConnectMonitor.tableSignal? (tables a.pid) a.tuple = some signal ∧
        trimmed tables now secs (some a) = a.respond signal := by
  by_cases hover : ConnectMonitor.isOverdue now secs a = true
  · rw [trimmed, if_pos hover, reconcile]
    cases htable : ConnectMonitor.tableSignal? (tables a.pid) a.tuple with
    | none => exact .inl rfl
    | some signal => exact .inr ⟨signal, rfl, rfl⟩
  · exact .inl (trimmed_of_not_overdue hover)

end Attempt

/-- Lists that agree key by key have the same members as often. -/
theorem perm_of_filter_key {α κ : Type} [DecidableEq α] [DecidableEq κ] (key : α → κ)
    {l l' : List α} (h : ∀ k, l.filter (key · = k) = l'.filter (key · = k)) : l.Perm l' := by
  refine List.perm_iff_count.2 fun a ↦ ?_
  have hkey : decide (key a = key a) = true := decide_eq_true rfl
  rw [← List.count_filter (p := (key · = key a)) hkey, h,
    List.count_filter (p := (key · = key a)) hkey]

namespace ConnectMonitor

/-- **Trimming is pointwise, and no order of the open attempts shows.** In every run of a fresh
monitor and for every order in which its attempts are met, the walk leaves under every tuple what
`trim` leaves there and makes the same reports as often. What it makes of a tuple is decided by
what is open under it and by the table of the process of that: where nothing is open nothing
happens, an attempt of an unknown process or one that did not begin long enough ago stays as it is,
and any other is sent one signal at most. -/
theorem trim_pointwise (calls : List ConnectCall) (tables : UInt32 → Option SocketTable)
    (now secs : Nat) {order : List Attempt} (horder : order.Perm (after calls).attempts.values) :
    let scanned := trimAlong tables (after calls) order now secs
    let trimmed := (after calls).trim tables now secs
    (∀ t, scanned.1.find? t = trimmed.1.find? t) ∧ scanned.2.Perm trimmed.2 ∧
      ∀ t,
        (∀ calls' tables' order', order'.Perm (after calls').attempts.values →
          (after calls').find? t = (after calls).find? t →
          (∀ a, (after calls).find? t = some a → tables' a.pid = tables a.pid) →
            under t (trimAlong tables' (after calls') order' now secs) = under t scanned) ∧
        ((after calls).find? t = none → under t scanned = (none, [])) ∧
        ∀ a, (after calls).find? t = some a →
          (a.pid = 0 ∨ now - a.began.toNat < Time.ofSeconds secs →
            under t scanned = (some a, [])) ∧
          (under t scanned = (some a, []) ∨
            ∃ signal ∈ [Signal.expired, .established, .disestablished],
              under t scanned = a.respond signal) := by
  intro scanned trimmed
  have hm : (after calls).Sound := sound_after calls
  have hscanned : ∀ t, under t scanned = Attempt.trimmed tables now secs ((after calls).find? t) :=
    hm.under_trimAlong tables horder now secs
  have htrimmed : ∀ t, under t trimmed = under t scanned := by
    intro t
    obtain ⟨hfind, hreports⟩ := trim_effect tables hm now secs t
    rw [hscanned, under, hfind, hreports]
  refine ⟨fun t ↦ (congrArg Prod.fst (htrimmed t)).symm,
    perm_of_filter_key Attempt.tuple fun t ↦ (congrArg Prod.snd (htrimmed t)).symm,
    fun t ↦ ⟨?_, ?_, ?_⟩⟩
  · intro calls' tables' order' horder' hslot htables
    rw [(sound_after calls').under_trimAlong tables' horder', hscanned, hslot]
    exact Attempt.trimmed_congr htables
  · intro hnone
    rw [hscanned, hnone]
    rfl
  · intro a ha
    rw [hscanned, ha]
    constructor
    · intro hearly
      refine Attempt.trimmed_of_not_overdue fun hover ↦ ?_
      obtain ⟨hpid, hold⟩ := Attempt.isOverdue_iff.1 hover
      rcases hearly with hpid' | hrecent
      · exact hpid hpid'
      · exact absurd hold (Nat.not_le.2 hrecent)
    · rcases Attempt.trimmed_cases tables now secs a with hkept | ⟨signal, hsignal, hsent⟩
      · exact .inl hkept
      · exact .inr ⟨signal, Attempt.mem_of_tableSignal? hsignal, hsent⟩

/-- Two attempts of one process, one established by its table and one gone from it. Met in the other
order they are reported in the other order, and as they were. -/
theorem trim_pointwise_reversed :
    let began (time : UInt64) (port : Int64) : ConnectCall :=
      .kernelBegan { Event.probed "tcp_connect" time [("retval", 0), ("sport", port)] with
        context := some ⟨some { pid := 9, tid := 9, comm := "curl" }, none⟩ }
    let tables : UInt32 → Option SocketTable := fun pid ↦
      if pid = 9 then some (.ofList [((FourTuple.sample.source, FourTuple.sample.destination),
        .established)])
      else none
    let m := after [began 10 40000, began 20 40001]
    let scanned := trimAlong tables m m.attempts.values.reverse 60000000020 60
    let trimmed := m.trim tables 60000000020 60
    m.attempts.values.reverse.Perm m.attempts.values ∧
      scanned.2.map Attempt.state = [.failure, .success] ∧
      trimmed.2.map Attempt.state = [.success, .failure] ∧
      scanned.2.Perm trimmed.2 ∧ ∀ t, scanned.1.find? t = trimmed.1.find? t := by
  intro began tables m scanned trimmed
  have horder : m.attempts.values.reverse.Perm m.attempts.values := List.reverse_perm _
  obtain ⟨hfind, hreports, -⟩ :=
    trim_pointwise [began 10 40000, began 20 40001] tables 60000000020 60 horder
  exact ⟨horder, by decide, by decide, hreports, hfind⟩

end ConnectMonitor

/-! ### What trimming leaves in progress -/

/-- What a socket table has to say of an attempt in progress decides it. -/
theorem AttemptState.next_ne_inProgress {s s' : AttemptState} {signal : Signal}
    (hsignal : signal ∈ [Signal.expired, .established, .disestablished])
    (h : s.next signal = .ok s') : s' ≠ .inProgress := by
  simp only [List.mem_cons, List.not_mem_nil, or_false] at hsignal
  rcases hsignal with rfl | rfl | rfl <;> cases s <;> cases h <;> decide

namespace Attempt

variable {a b : Attempt} {tables : UInt32 → Option SocketTable} {now secs : Nat}

theorem respond_ne_inProgress {signal : Signal}
    (hsignal : signal ∈ [Signal.expired, .established, .disestablished])
    (h : (b.respond signal).1 = some a) : a.state ≠ .inProgress := by
  unfold respond at h
  cases hr : b.receive signal with
  | error cause =>
    rw [hr] at h
    obtain rfl : b = a := Option.some.inj h
    exact ne_inProgress_of_receive hr
  | ok r =>
    rw [hr] at h
    replace h : (if r.isOver then none else some r.attempt) = some a := h
    obtain rfl : r.attempt = a := Option.some.inj (Option.ite_none_left_eq_some.1 h).2
    exact AttemptState.next_ne_inProgress hsignal (receive_state hr)

/-- **What is in progress after trimming was so before**, and it was passed over or its table shows
its handshake. -/
theorem inProgress_of_trimmed (h : (trimmed tables now secs (some b)).1 = some a)
    (hstate : a.state = .inProgress) :
    a = b ∧ (¬ ConnectMonitor.isOverdue now secs a = true ∨
      ConnectMonitor.tableSignal? (tables a.pid) a.tuple = none) := by
  by_cases hover : ConnectMonitor.isOverdue now secs b = true
  · rw [trimmed, if_pos hover, reconcile] at h
    cases htable : ConnectMonitor.tableSignal? (tables b.pid) b.tuple with
    | none =>
      rw [htable] at h
      obtain rfl : b = a := Option.some.inj h
      exact ⟨rfl, .inr htable⟩
    | some signal =>
      rw [htable] at h
      exact absurd hstate (respond_ne_inProgress (mem_of_tableSignal? htable) h)
  · rw [trimmed_of_not_overdue hover] at h
    obtain rfl : b = a := Option.some.inj h
    exact ⟨rfl, .inl hover⟩

end Attempt

namespace ConnectMonitor

/-- A table that has nothing to say shows the handshake. -/
theorem exists_of_tableSignal?_eq_none {table : Option SocketTable} {t : FourTuple}
    (h : tableSignal? table t = none) :
    ∃ shown, table = some shown ∧ (shown.find? (t.source, t.destination) = some .synSent ∨
      shown.find? (t.source, t.destination) = some .synReceived) := by
  cases table with
  | none => cases h
  | some shown =>
    refine ⟨shown, rfl, ?_⟩
    rw [tableSignal?, Option.bind_some] at h
    split at h
    · cases h
    · cases h
    · exact .inl ‹_›
    · exact .inr ‹_›
    · cases h

/-- **Trimming settles what is overdue**, in every run of a fresh monitor. An attempt that is in
progress afterwards, though it began as long ago as trimming waits, has its socket in the readable
table of its process, in the middle of the handshake; or its process is not known, and it is as it
was. -/
theorem overdue_settled (calls : List ConnectCall) (tables : UInt32 → Option SocketTable)
    (now secs : Nat) {t : FourTuple} {a : Attempt}
    (ha : ((after calls).trim tables now secs).1.find? t = some a)
    (hstate : a.state = .inProgress) (hold : a.began.toNat + secs * 1000000000 ≤ now) :
    (a.pid = 0 ∧ (after calls).find? t = some a) ∨
      ∃ table, tables a.pid = some table ∧
        (table.find? (t.source, t.destination) = some .synSent ∨
          table.find? (t.source, t.destination) = some .synReceived) := by
  have hm : (after calls).Sound := sound_after calls
  rw [(trim_effect tables hm now secs t).1] at ha
  cases hslot : (after calls).find? t with
  | none =>
    rw [hslot] at ha
    cases ha
  | some b =>
    rw [hslot] at ha
    obtain ⟨rfl, hpassed | htable⟩ := Attempt.inProgress_of_trimmed ha hstate
    · -- it is old enough, so it was passed over for want of a process
      have hspan : Time.ofSeconds secs ≤ now - a.began.toNat := by
        have hle := Time.ofSeconds_le secs
        omega
      refine .inl ⟨?_, rfl⟩
      by_contra hpid
      exact hpassed (Attempt.isOverdue_iff.2 ⟨hpid, hspan⟩)
    · rw [hm.tuple t a hslot] at htable
      exact .inr (exists_of_tableSignal?_eq_none htable)

/-- An attempt that is a minute old and that its table still shows in the middle of the handshake. -/
theorem overdue_settled_handshake :
    let began : ConnectCall := .kernelBegan
      { Event.probed "tcp_connect" 10 [("retval", 0)] with
        context := some ⟨some { pid := 9, tid := 9, comm := "curl" }, none⟩ }
    let table : SocketTable :=
      .ofList [((FourTuple.sample.source, FourTuple.sample.destination), .synSent)]
    let a : Attempt := { Attempt.start .sample 10 0 with pid := 9, comm := "curl" }
    ((after [began]).trim (fun _ ↦ some table) 60000000010 60).1.find? .sample = some a ∧
      a.state = .inProgress ∧ a.began.toNat + 60 * 1000000000 ≤ 60000000010 ∧
      ∃ shown, some table = some shown ∧
        (shown.find? (FourTuple.sample.source, FourTuple.sample.destination) = some .synSent ∨
          shown.find? (FourTuple.sample.source, FourTuple.sample.destination) =
            some .synReceived) := by
  intro began table a
  have ha : ((after [began]).trim (fun _ ↦ some table) 60000000010 60).1.find? .sample =
      some a := by decide
  have hold : a.began.toNat + 60 * 1000000000 ≤ 60000000010 := by decide
  refine ⟨ha, rfl, hold, ?_⟩
  rcases overdue_settled [began] (fun _ ↦ some table) 60000000010 60 ha rfl hold with
    ⟨hpid, -⟩ | hshown
  · cases hpid
  · exact hshown

/-- An attempt that was opened by an event without a thread is in progress for good, though a
minute has passed and there is no table that could show its socket. -/
theorem unknown_skipped :
    let began : ConnectCall := .kernelBegan (.probed "tcp_connect" 10 [("retval", 0)])
    let a : Attempt := Attempt.start .sample 10 0
    a.state = .inProgress ∧ a.began.toNat + 60 * 1000000000 ≤ 60000000010 ∧
      (after [began]).trim (fun _ ↦ none) 60000000010 60 = (after [began], []) ∧
      (after [began]).find? .sample = some a := by
  decide

end ConnectMonitor

end SocketWatch
