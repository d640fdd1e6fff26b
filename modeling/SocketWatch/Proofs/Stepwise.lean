/-!
# Runs of a stepping machine

A machine takes a call in a state and gives a new state and some output. Store, watcher and monitor
are all of this shape, and so is what each of them does to a single key. What a run preserves is
therefore proved once, from what a step preserves, and so are the two ways of comparing runs:

* `run_project` compares a machine with a smaller one that sees a part of its state and a part of
  its output;
* `run_filter` leaves out calls that do nothing.
-/

namespace SocketWatch.Stepwise

universe u v w u' w'

variable {σ : Type u} {χ : Type v} {ο : Type w} (step : σ → χ → σ × List ο)

/-- The state after calls that are made one after the other, and all output in order. -/
def run (s : σ) : List χ → σ × List ο
  | [] => (s, [])
  | c :: calls => ((run (step s c).1 calls).1, (step s c).2 ++ (run (step s c).1 calls).2)

@[simp] theorem run_nil (s : σ) : run step s [] = (s, []) := rfl

theorem run_cons (s : σ) (c : χ) (calls : List χ) :
    run step s (c :: calls) =
      ((run step (step s c).1 calls).1, (step s c).2 ++ (run step (step s c).1 calls).2) :=
  rfl

theorem run_append (s : σ) (first second : List χ) :
    run step s (first ++ second) =
      ((run step (run step s first).1 second).1,
        (run step s first).2 ++ (run step (run step s first).1 second).2) := by
  induction first generalizing s with
  | nil => rfl
  | cons c first ih =>
    rw [List.cons_append, run_cons, run_cons, ih, List.append_assoc]

theorem run_concat (s : σ) (calls : List χ) (c : χ) :
    run step s (calls ++ [c]) =
      ((step (run step s calls).1 c).1, (run step s calls).2 ++ (step (run step s calls).1 c).2) := by
  rw [run_append, run_cons, run_nil, List.append_nil]

/-- The states of a run do not depend on what the steps put out. -/
theorem run_fst_congr {ο' : Type w'} {step : σ → χ → σ × List ο} {step' : σ → χ → σ × List ο'}
    (h : ∀ s c, (step s c).1 = (step' s c).1) (s : σ) (calls : List χ) :
    (run step s calls).1 = (run step' s calls).1 := by
  induction calls generalizing s with
  | nil => rfl
  | cons c calls ih =>
    rw [run_cons, run_cons]
    show (run step (step s c).1 calls).1 = (run step' (step' s c).1 calls).1
    rw [h, ih]

variable {step}

/-- What a run puts out, one of its steps puts out. -/
theorem exists_of_mem_run {s : σ} {calls : List χ} {o : ο} (ho : o ∈ (run step s calls).2) :
    ∃ s', ∃ c ∈ calls, o ∈ (step s' c).2 := by
  induction calls generalizing s with
  | nil => cases ho
  | cons c calls ih =>
    rcases List.mem_append.1 ho with ho | ho
    · exact ⟨s, c, List.mem_cons_self, ho⟩
    · obtain ⟨s', c', hc', ho⟩ := ih ho
      exact ⟨s', c', List.mem_cons_of_mem c hc', ho⟩

variable {I : σ → Prop}

/-- **What every step keeps, every run keeps.** -/
theorem run_invariant (hstep : ∀ s c, I s → I (step s c).1) {s : σ} (hs : I s) (calls : List χ) :
    I (run step s calls).1 := by
  induction calls generalizing s with
  | nil => exact hs
  | cons c calls ih => exact ih (hstep s c hs)

/-- What holds of the output of every step holds of the output of every run. -/
theorem run_output {P : ο → Prop} (hstep : ∀ s c, I s → I (step s c).1)
    (hout : ∀ s c, I s → ∀ o ∈ (step s c).2, P o) {s : σ} (hs : I s) (calls : List χ) :
    ∀ o ∈ (run step s calls).2, P o := by
  induction calls generalizing s with
  | nil => intro o ho; cases ho
  | cons c calls ih =>
    intro o ho
    rw [run_cons] at ho
    rcases List.mem_append.1 ho with h | h
    · exact hout s c hs o h
    · exact ih (hstep s c hs) o h

/-- **A part of a machine that steps by itself runs by itself.** The part is a view of the state
and the output that passes a test. -/
theorem run_project {τ : Type u'} {step' : τ → χ → τ × List ο} (view : σ → τ) (p : ο → Bool)
    (hstep : ∀ s c, I s → I (step s c).1)
    (hview : ∀ s c, I s → view (step s c).1 = (step' (view s) c).1)
    (hout : ∀ s c, I s → (step s c).2.filter p = (step' (view s) c).2)
    {s : σ} (hs : I s) (calls : List χ) :
    view (run step s calls).1 = (run step' (view s) calls).1 ∧
      (run step s calls).2.filter p = (run step' (view s) calls).2 := by
  induction calls generalizing s with
  | nil => exact ⟨rfl, rfl⟩
  | cons c calls ih =>
    obtain ⟨hstate, houtput⟩ := ih (hstep s c hs)
    rw [hview s c hs] at hstate houtput
    refine ⟨hstate, ?_⟩
    rw [run_cons, run_cons, List.filter_append, hout s c hs, houtput]

/-- Calls that do nothing can be left out. -/
theorem run_filter {p : χ → Bool} (hskip : ∀ s c, p c = false → step s c = (s, []))
    (s : σ) (calls : List χ) : run step s (calls.filter p) = run step s calls := by
  induction calls generalizing s with
  | nil => rfl
  | cons c calls ih =>
    cases hp : p c with
    | true => rw [List.filter_cons_of_pos hp, run_cons, run_cons, ih]
    | false =>
      rw [List.filter_cons_of_neg (by simp [hp]), ih, run_cons, hskip s c hp]
      rfl

end SocketWatch.Stepwise
