import SocketWatch.Proofs.Connect.Slot
import Mathlib.Data.List.Induction
/-!
# The life of a connection attempt

An attempt lives under its tuple from the call that opens it to the call that closes it. This
module proves that it is reported once in its life, when it is decided, and that it is not closed
before that.

The monitor keeps no record of what it reported. That it needs none is the content of the
invariant `Told`: the state of an open attempt says by itself what was reported of it, nothing
while it is in progress, and one report of that very state afterwards. Every call keeps this,
because under each tuple a call makes one of six moves (`Move`), and because no move leads from an
attempt in progress to none at all.

A tuple can be used again. A life is therefore an interval of the calls (`IsLife`), begun by a call
that finds nothing under the tuple and leaves something there.
-/

namespace SocketWatch

theorem AttemptState.isDecided_iff {s : AttemptState} :
    s.isDecided = true ↔ s = .success ∨ s = .failure := by
  cases s <;> decide

/-! ### The moves under one tuple -/

/-- What a call makes of what is open under a tuple, and what it reports of it. -/
inductive Move (t : FourTuple) : Option Attempt → Option Attempt × List Attempt → Prop where
  /-- Nothing is open, and nothing happens. -/
  | absent : Move t none (none, [])
  /-- An attempt begins. -/
  | opened {a : Attempt} : a.tuple = t → a.state = .inProgress → Move t none (some a, [])
  /-- An attempt begins and is decided at once. -/
  | refused {a : Attempt} : a.tuple = t → a.state.isDecided = true → Move t none (some a, [a])
  /-- An open attempt stays as far as it has come. -/
  | kept {a a' : Attempt} : a'.tuple = t → a'.state = a.state → Move t (some a) (some a', [])
  /-- An open attempt is decided, and reported as it is then. -/
  | decided {a a' : Attempt} : a'.tuple = t → a.state = .inProgress →
    a'.state.isDecided = true → Move t (some a) (some a', [a'])
  /-- A decided attempt is closed in silence. -/
  | closed {a : Attempt} : a.state.isDecided = true → Move t (some a) (none, [])

namespace Attempt

variable {t : FourTuple}

/-- A signal moves the attempt that it finds, whatever was written into it before. -/
theorem Response.move {a b : Attempt} {p : Option Attempt × List Attempt} (h : b.Response p)
    (htuple : b.tuple = t) (hstate : b.state = a.state) : Move t (some a) p := by
  cases h with
  | stays l hl => exact .kept htuple (hl.trans hstate)
  | decides l hold hnew => exact .decided htuple (hstate ▸ hold) hnew
  | closes hold => exact .closed (hstate ▸ hold)

/-- A signal to an attempt that has just begun leaves it open. -/
theorem Response.move_none {b : Attempt} {p : Option Attempt × List Attempt} (h : b.Response p)
    (htuple : b.tuple = t) (hstate : b.state = .inProgress) : Move t none p := by
  cases h with
  | stays l hl => exact .opened htuple (hl.trans hstate)
  | decides l _ hnew => exact .refused htuple hnew
  | closes hold => exact absurd hstate (AttemptState.ne_inProgress hold)

end Attempt

/-- What does nothing is a move. -/
theorem Move.refl {t : FourTuple} {slot : Option Attempt} (hslot : ∀ a ∈ slot, a.tuple = t) :
    Move t slot (slot, []) := by
  cases slot with
  | none => exact .absent
  | some a => exact .kept (hslot a rfl) rfl

theorem Impact.strike_move (i : Impact) {slot : Option Attempt}
    (hslot : ∀ a ∈ slot, a.tuple = i.tuple) : Move i.tuple slot (i.strike slot) := by
  cases htarget : i.target slot with
  | none =>
    have hnone : slot = none := i.eq_none_of_target htarget
    subst hnone
    rw [strike, htarget]
    exact .absent
  | some b =>
    have hb : b.tuple = i.tuple := i.target_tuple hslot htarget
    have hresponse := b.respond_cases i.signal
    rw [strike_of_some htarget]
    cases slot with
    | none => exact hresponse.move_none hb (i.opening_state b htarget)
    | some a =>
      have hwritten : i.writes a = b := by simpa [target] using htarget
      refine hresponse.move hb ?_
      rw [← hwritten, i.writes_state]

theorem Impact.effect_move {t : FourTuple} {slot : Option Attempt}
    (hslot : ∀ a ∈ slot, a.tuple = t) (r : Except MonitorError Impact) :
    Move t slot (Impact.effect t slot r) := by
  cases r with
  | error err => exact Move.refl hslot
  | ok i =>
    rw [Impact.effect]
    by_cases ht : i.tuple = t
    · subst ht
      rw [if_pos rfl]
      exact i.strike_move hslot
    · rw [if_neg ht]
      exact Move.refl hslot

theorem Attempt.trimmed_move {t : FourTuple} {slot : Option Attempt}
    (hslot : ∀ a ∈ slot, a.tuple = t) (tables : UInt32 → Option SocketTable) (now secs : Nat) :
    Move t slot (Attempt.trimmed tables now secs slot) := by
  cases slot with
  | none => exact .absent
  | some a =>
    rw [Attempt.trimmed, Attempt.reconcile]
    split
    · cases ConnectMonitor.tableSignal? (tables a.pid) a.tuple with
      | none => exact Move.refl hslot
      | some signal => exact (a.respond_cases signal).move (hslot a rfl) rfl
    · exact Move.refl hslot

/-- **Every call moves**, under every tuple. -/
theorem ConnectCall.effect_move {t : FourTuple} {slot : Option Attempt}
    (hslot : ∀ a ∈ slot, a.tuple = t) (c : ConnectCall) : Move t slot (c.effect t slot) := by
  cases c with
  | trim tables now secs => exact Attempt.trimmed_move hslot tables now secs
  | _ => exact Impact.effect_move hslot _

/-! ### What every call keeps -/

namespace ConnectMonitor

variable {m : ConnectMonitor} {t : FourTuple}

theorem Sound.step_move (hm : m.Sound) (c : ConnectCall) (t : FourTuple) :
    Move t (m.find? t) ((m.step c).1.find? t, (m.step c).2.filter (·.tuple = t)) := by
  obtain ⟨hstate, hreports⟩ := step_effect hm c t
  rw [hstate, hreports]
  exact c.effect_move (hm.tuple t)

theorem sound_empty : Sound {} where
  tuple _ _ h := by cases h
  isOpen _ _ h := by cases h

/-- A call stores attempts under their own tuples, and none that is over. -/
theorem Sound.step (hm : m.Sound) (c : ConnectCall) : (m.step c).1.Sound := by
  have hslot : ∀ t a, (m.step c).1.find? t = some a → a.tuple = t ∧ a.state ≠ .closed := by
    intro t a ha
    have hmove := hm.step_move c t
    generalize hold : m.find? t = slot at hmove
    rw [ha] at hmove
    generalize (m.step c).2.filter (·.tuple = t) = reports at hmove
    cases hmove with
    | opened htuple hstate => exact ⟨htuple, by rw [hstate]; decide⟩
    | refused htuple hstate => exact ⟨htuple, AttemptState.ne_closed hstate⟩
    | @kept b _ htuple hstate => exact ⟨htuple, hstate ▸ hm.isOpen t b hold⟩
    | decided htuple _ hstate => exact ⟨htuple, AttemptState.ne_closed hstate⟩
  exact ⟨fun t a ha ↦ (hslot t a ha).1, fun t a ha ↦ (hslot t a ha).2⟩

theorem sound_after (calls : List ConnectCall) : (after calls).Sound :=
  Stepwise.run_invariant (fun _ c hm ↦ hm.step c) sound_empty calls

/-- **What is reported is what is open then**, and it is decided. -/
theorem Sound.of_mem_reports (hm : m.Sound) {c : ConnectCall} {r : Attempt}
    (hr : r ∈ (m.step c).2) :
    r.state.isDecided = true ∧ (m.step c).1.find? r.tuple = some r := by
  have hmem : r ∈ (m.step c).2.filter (·.tuple = r.tuple) :=
    List.mem_filter.2 ⟨hr, decide_eq_true rfl⟩
  have hmove := hm.step_move c r.tuple
  generalize (m.step c).2.filter (·.tuple = r.tuple) = reports at hmem hmove
  generalize m.find? r.tuple = old at hmove
  generalize (m.step c).1.find? r.tuple = new at hmove ⊢
  cases hmove with
  | refused _ hstate =>
    rw [List.mem_singleton.1 hmem]
    exact ⟨hstate, rfl⟩
  | decided _ _ hstate =>
    rw [List.mem_singleton.1 hmem]
    exact ⟨hstate, rfl⟩
  | _ => cases hmem

end ConnectMonitor

/-! ### What was reported of an open attempt -/

/-- What was reported in the life of an attempt that is open. -/
inductive Told : Attempt → List Attempt → Prop where
  /-- Nothing, while it is in progress. -/
  | nothing {a : Attempt} : a.state = .inProgress → Told a []
  /-- Its outcome, once. -/
  | outcome {a r : Attempt} : a.state.isDecided = true → r.state = a.state → Told a [r]

namespace Told

variable {t : FourTuple} {a a' : Attempt} {reports more : List Attempt}

theorem first (h : Move t none (some a, reports)) : Told a reports := by
  cases h with
  | opened _ hstate => exact .nothing hstate
  | refused _ hstate => exact .outcome hstate rfl

/-- **A move tells an outcome at most once**: an attempt that is decided already moves in
silence. -/
theorem move (h : Told a reports) (hmove : Move t (some a) (some a', more)) :
    Told a' (reports ++ more) := by
  cases hmove with
  | kept _ hstate =>
    rw [List.append_nil]
    cases h with
    | nothing hold => exact .nothing (hstate.trans hold)
    | outcome hold hr => exact .outcome (hstate ▸ hold) (hr.trans hstate.symm)
  | decided _ hold hnew =>
    -- it was in progress, so nothing was told before
    cases h with
    | nothing => exact .outcome hnew rfl
    | outcome hdecided => exact absurd hold (AttemptState.ne_inProgress hdecided)

/-- **Only what was told is closed.** -/
theorem close (h : Told a reports) (hmove : Move t (some a) (none, more)) :
    reports.length = 1 ∧ more = [] := by
  cases hmove with
  | closed hdecided =>
    cases h with
    | nothing hstate => exact absurd hstate (AttemptState.ne_inProgress hdecided)
    | outcome => exact ⟨rfl, rfl⟩

theorem length_le (h : Told a reports) : reports.length ≤ 1 := by
  cases h with
  | nothing => exact Nat.zero_le 1
  | outcome => exact Nat.le_refl 1

theorem ne_nil_iff (h : Told a reports) : reports ≠ [] ↔ a.state ≠ .inProgress := by
  cases h with
  | nothing hstate => simp [hstate]
  | outcome hdecided =>
    exact iff_of_true (List.cons_ne_nil _ _) (AttemptState.ne_inProgress hdecided)

end Told

/-! ### Lives -/

namespace ConnectMonitor

/-- Calls that begin with the opening of an attempt under a tuple and all leave it open. -/
structure IsLife (t : FourTuple) (before life : List ConnectCall) : Prop where
  /-- Nothing was open before. -/
  opens : (after before).find? t = none
  /-- The first of the calls is made. -/
  begun : life ≠ []
  /-- From then on an attempt is open. -/
  lasts : ∀ calls, calls <+: life → calls ≠ [] → (after (before ++ calls)).find? t ≠ none

namespace IsLife

variable {t : FourTuple} {before life : List ConnectCall} {c : ConnectCall}

theorem singleton (hbefore : (after before).find? t = none)
    (hafter : (after (before ++ [c])).find? t ≠ none) : IsLife t before [c] where
  opens := hbefore
  begun := List.cons_ne_nil c []
  lasts calls hinit hcalls := by
    rcases List.prefix_concat_iff.1 (show calls <+: [] ++ [c] from hinit) with rfl | hnil
    · exact hafter
    · exact absurd (List.prefix_nil.1 hnil) hcalls

theorem concat (h : IsLife t before life)
    (hafter : (after (before ++ (life ++ [c]))).find? t ≠ none) :
    IsLife t before (life ++ [c]) where
  opens := h.opens
  begun := List.concat_ne_nil c life
  lasts calls hinit hcalls := by
    rcases List.prefix_concat_iff.1 hinit with rfl | hinit
    · exact hafter
    · exact h.lasts calls hinit hcalls

theorem of_concat (h : IsLife t before (life ++ [c])) (hlife : life ≠ []) : IsLife t before life where
  opens := h.opens
  begun := hlife
  lasts calls hinit hcalls := h.lasts calls (hinit.trans (List.prefix_append life [c])) hcalls

/-- **In its life an attempt is told once**, when it is decided. -/
theorem told (h : IsLife t before life) :
    ∃ a, (after (before ++ life)).find? t = some a ∧ Told a (reportsOf t before life) := by
  induction life using List.reverseRecOn with
  | nil => exact absurd rfl h.begun
  | append_singleton life c ih =>
    obtain ⟨a', ha'⟩ := Option.ne_none_iff_exists'.1 (h.lasts _ List.prefix_rfl h.begun)
    have hmove := (sound_after (before ++ life)).step_move c t
    refine ⟨a', ha', ?_⟩
    rw [← List.append_assoc, after_concat] at ha'
    rw [ha'] at hmove
    rw [reportsOf_concat]
    by_cases hlife : life = []
    · -- the call that opens it
      subst hlife
      rw [List.append_nil] at hmove ⊢
      rw [h.opens] at hmove
      exact Told.first hmove
    · -- a later one, which finds it open
      obtain ⟨a, ha, htold⟩ := ih (h.of_concat hlife)
      rw [ha] at hmove
      exact htold.move hmove

end IsLife

/-- What is open was opened. -/
theorem exists_isLife {calls : List ConnectCall} {t : FourTuple} {a : Attempt}
    (ha : (after calls).find? t = some a) :
    ∃ before life, calls = before ++ life ∧ IsLife t before life := by
  induction calls using List.reverseRecOn generalizing a with
  | nil => cases ha
  | append_singleton calls c ih =>
    have hafter : (after (calls ++ [c])).find? t ≠ none := by
      rw [ha]
      exact Option.some_ne_none a
    cases hbefore : (after calls).find? t with
    | none => exact ⟨calls, [c], rfl, .singleton hbefore hafter⟩
    | some b =>
      obtain ⟨before, life, rfl, hlife⟩ := ih hbefore
      rw [List.append_assoc] at hafter ⊢
      exact ⟨before, life ++ [c], rfl, hlife.concat hafter⟩

/-- **The life of a connection attempt**, in every run of a fresh monitor.

Every open attempt stands under its own tuple, is not closed, and is in a life. Every report is of
an attempt that is open under its tuple when it is made, and is a success or a failure. In a life
at most one report is made, one has been made exactly if the attempt is no longer in progress, and
a call that closes the attempt, in silence, finds exactly one made. -/
theorem attempt_lifecycle (calls : List ConnectCall) :
    (∀ t a, (after calls).find? t = some a →
      a.tuple = t ∧ a.state ≠ .closed ∧
        ∃ before life, calls = before ++ life ∧ IsLife t before life) ∧
    (∀ c, ∀ r ∈ ((after calls).step c).2,
      (r.state = .success ∨ r.state = .failure) ∧
        (after (calls ++ [c])).find? r.tuple = some r) ∧
    ∀ t before life, calls = before ++ life → IsLife t before life →
      ∃ a, (after calls).find? t = some a ∧
        (reportsOf t before life).length ≤ 1 ∧
        (reportsOf t before life ≠ [] ↔ a.state ≠ .inProgress) ∧
        ∀ c, (after (calls ++ [c])).find? t = none →
          (reportsOf t before life).length = 1 ∧ reportsOf t calls [c] = [] := by
  have hm : (after calls).Sound := sound_after calls
  refine ⟨fun t a ha ↦ ⟨hm.tuple t a ha, hm.isOpen t a ha, exists_isLife ha⟩, ?_, ?_⟩
  · intro c r hr
    obtain ⟨hdecided, hopen⟩ := hm.of_mem_reports hr
    rw [after_concat]
    exact ⟨AttemptState.isDecided_iff.1 hdecided, hopen⟩
  · rintro t before life rfl hlife
    obtain ⟨a, ha, htold⟩ := hlife.told
    refine ⟨a, ha, htold.length_le, htold.ne_nil_iff, fun c hc ↦ ?_⟩
    have hmove := hm.step_move c t
    rw [after_concat] at hc
    rw [ha, hc] at hmove
    have hreports : reportsOf t (before ++ life) [c] =
        ((after (before ++ life)).step c).2.filter (·.tuple = t) := by
      simpa [reportsOf] using reportsOf_concat t (before ++ life) [] c
    rw [hreports]
    exact htold.close hmove

/-- A connection that is established and left: the report is made when it is established, and the
attempt is closed in silence when the socket leaves that state. -/
theorem attempt_lifecycle_established :
    let began : ConnectCall := .kernelBegan (.probed "tcp_connect" 10 [("retval", 0)])
    let entered : ConnectCall :=
      .stateChanged (.probed "tcp_set_state" 20 [("old_state", 2), ("new_state", 1)])
    let left : ConnectCall :=
      .stateChanged (.probed "tcp_set_state" 30 [("old_state", 1), ("new_state", 4)])
    (∃ r ∈ ((after [began]).step entered).2,
      (r.state = .success ∨ r.state = .failure) ∧
        (after [began, entered]).find? r.tuple = some r) ∧
    (∃ a, (after [began, entered]).find? .sample = some a ∧
      a.tuple = .sample ∧ a.state ≠ .closed) ∧
    IsLife .sample [] [began, entered] ∧
    (after [began, entered, left]).find? .sample = none ∧
    (reportsOf .sample [] [began, entered]).length = 1 ∧
    reportsOf .sample [began, entered] [left] = [] := by
  intro began entered left
  have hbegan : IsLife .sample [] [began] := .singleton rfl (by decide)
  have hlife : IsLife .sample [] [began, entered] := hbegan.concat (by decide)
  have hleft : (after [began, entered, left]).find? .sample = none := by decide
  obtain ⟨r, hr⟩ := List.exists_mem_of_ne_nil ((after [began]).step entered).2 (by decide)
  obtain ⟨hopen, -, htold⟩ := attempt_lifecycle [began, entered]
  obtain ⟨a, ha, -, -, hclose⟩ := htold .sample [] [began, entered] rfl hlife
  obtain ⟨htuple, hstate, -⟩ := hopen .sample a ha
  obtain ⟨hone, hsilent⟩ := hclose left hleft
  exact ⟨⟨r, hr, (attempt_lifecycle [began]).2.1 entered r hr⟩, ⟨a, ha, htuple, hstate⟩, hlife,
    hleft, hone, hsilent⟩

end ConnectMonitor

end SocketWatch
