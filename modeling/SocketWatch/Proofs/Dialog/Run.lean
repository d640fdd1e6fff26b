import SocketWatch.Network
import SocketWatch.Proofs.Stepwise
/-!
# Runs of the dialog watcher

The dialog watcher is asked two things: to take in an event, and to finish what is idle at a time.
A run is any sequence of such calls, put to a watcher one after the other. What a run does to the
store can be told without the dispatcher, because the store does not look at what the dispatcher
answers: the run of a watcher is the run of its store, and then the run of its dispatcher on the
dialogs that are handed over, each once (`NetworkWatcher.run_eq`).

Byte counts are integers and times are naturals here, so a run stands for one in which no sum
leaves its machine word; the sums are listed beside the steps as their figures.
-/

namespace SocketWatch

/-- What a dialog watcher is asked to do. -/
inductive NetworkCall where
  /-- Take in an event. -/
  | consume (e : Event)
  /-- Finish the dialogs that are idle at a time. -/
  | reap (now : Nat)

/-- An event of four bytes on one TCP socket, for runs that are written out. -/
def Event.sample (name : String) (timestamp : UInt64) : Event where
  name := name
  category := .net
  timestamp := timestamp
  result := 4
  data := [80, 73, 78, 71]
  context := some ⟨some { pid := 7, tid := 7 },
    some { num := 5, transport := .tcp, srcIp := some .unspecified, srcPort := 40000, dstPort := 80 }⟩

/-! ### Runs of the store -/

/-- What a call does to the store, and what it hands over. -/
def DialogStore.step (settings : NetworkSettings) (admitUdp : Bool) (s : DialogStore) :
    NetworkCall → DialogStore × List Dialog
  | .consume e => s.consume settings admitUdp e
  | .reap now => ((s.reap settings now).1, (s.reap settings now).2.2)

/-! ### Runs of the watcher -/

namespace NetworkWatcher

variable (w : NetworkWatcher)

/-- What a call does to a watcher, and the records it gives. -/
def step (s : NetworkState) : NetworkCall → NetworkState × List Record
  | .consume e => w.consume s e
  | .reap now => ((w.reap s now).1, (w.reap s now).2.2)

/-- A watcher that was asked nothing yet, after calls, and the records they gave. -/
def run (calls : List NetworkCall) : NetworkState × List Record := Stepwise.run w.step {} calls

/-- The step of the store inside a watcher. -/
def storeStep : DialogStore → NetworkCall → DialogStore × List Dialog :=
  DialogStore.step w.settings w.admitUdp

/-- The dialogs that calls to a fresh watcher hand to the dispatcher, in order, each as it left the
store: the tuple behind it is looked up when it is dispatched. -/
def handed (calls : List NetworkCall) : List Dialog := (Stepwise.run w.storeStep {} calls).2

/-- Finished dialogs are dispatched one after the other, each with the tuple behind it. -/
theorem dispatchAll_eq (l : Learned) (ds : List Dialog) :
    w.dispatchAll l ds = Stepwise.run w.dispatcher.dispatch l (ds.map w.resolveNat) := by
  induction ds generalizing l with
  | nil => rfl
  | cons d ds ih =>
    simp only [dispatchAll, ih]
    rfl

theorem step_eq (s : NetworkState) (c : NetworkCall) :
    w.step s c =
      (⟨(w.storeStep s.store c).1,
          (Stepwise.run w.dispatcher.dispatch s.learned
            ((w.storeStep s.store c).2.map w.resolveNat)).1⟩,
        (Stepwise.run w.dispatcher.dispatch s.learned
          ((w.storeStep s.store c).2.map w.resolveNat)).2) := by
  rw [← dispatchAll_eq]
  cases c <;> rfl

theorem stepwise_run_eq (s : NetworkState) (calls : List NetworkCall) :
    Stepwise.run w.step s calls =
      (⟨(Stepwise.run w.storeStep s.store calls).1,
          (Stepwise.run w.dispatcher.dispatch s.learned
            ((Stepwise.run w.storeStep s.store calls).2.map w.resolveNat)).1⟩,
        (Stepwise.run w.dispatcher.dispatch s.learned
          ((Stepwise.run w.storeStep s.store calls).2.map w.resolveNat)).2) := by
  induction calls generalizing s with
  | nil => rfl
  | cons c calls ih =>
    rw [Stepwise.run_cons, Stepwise.run_cons, ih, step_eq, List.map_append, Stepwise.run_append]

/-- **A watcher runs its store, and its dispatcher on what that hands over**: every dialog once, in
the order of handing over, with the tuple behind it looked up. -/
theorem run_eq (calls : List NetworkCall) :
    w.run calls =
      (⟨(Stepwise.run w.storeStep {} calls).1,
          (Stepwise.run w.dispatcher.dispatch {} ((w.handed calls).map w.resolveNat)).1⟩,
        (Stepwise.run w.dispatcher.dispatch {} ((w.handed calls).map w.resolveNat)).2) :=
  w.stepwise_run_eq {} calls

/-- The store of a fresh watcher after calls. -/
def storeAfter (calls : List NetworkCall) : DialogStore := (w.run calls).1.store

/-- The store runs by itself. -/
theorem storeAfter_eq (calls : List NetworkCall) :
    w.storeAfter calls = (Stepwise.run w.storeStep {} calls).1 := by
  rw [storeAfter, run_eq]

end NetworkWatcher

end SocketWatch
