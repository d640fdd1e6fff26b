import SocketWatch.Proofs.Dialog.Store
/-!
# Dialogs do not interfere

What happens under one key is decided by the events of that key and by the reaping, whatever the
other sockets do in between. It is a statement about two runs, the run as it is and the run without
the events of all other keys, and both are compared with a third one: the run of the slot of that
key (`slot_run`). For the slot an event of another key is no event (`step_of_not_concerns`), so
leaving it out changes nothing, and the two runs agree because they have the same slot.

A look-up or a removal under any other key than the event's own would not be seen by the slot's own
step, so it is `DialogStore.find?_step` and `handed_step` that would fail for it.
-/

namespace SocketWatch

/-- Whether a call can be about the dialogs of a key: an event of that key, or any reaping. -/
def NetworkCall.concerns (k : DialogKey) : NetworkCall → Bool
  | .consume e => DialogKey.ofEvent e = k
  | .reap _ => true

theorem Slot.step_of_not_concerns {settings : NetworkSettings} {admitUdp : Bool} {k : DialogKey}
    (slot : Slot) (c : NetworkCall) (hc : c.concerns k = false) :
    step settings admitUdp k slot c = (slot, []) := by
  cases c with
  | consume e => exact step_consume_of_ne (of_decide_eq_false hc)
  | reap now => cases hc

namespace NetworkWatcher

/-- **Dialogs do not interfere.** Under every key the same dialog is open, and the same dialogs
were handed to the dispatcher in the same order, when all events of other keys are left out. -/
theorem run_independent (w : NetworkWatcher) (k : DialogKey) (calls : List NetworkCall) :
    (w.storeAfter calls).entries.find? k =
        (w.storeAfter (calls.filter (·.concerns k))).entries.find? k ∧
      (w.handed calls).filter (·.key? = some k) =
        (w.handed (calls.filter (·.concerns k))).filter (·.key? = some k) := by
  have hskip : Stepwise.run (Slot.step w.settings w.admitUdp k) none
      (calls.filter (·.concerns k)) = Stepwise.run (Slot.step w.settings w.admitUdp k) none calls :=
    Stepwise.run_filter Slot.step_of_not_concerns none calls
  obtain ⟨hopen, hhanded⟩ := w.slot_run k calls
  obtain ⟨hopen', hhanded'⟩ := w.slot_run k (calls.filter (·.concerns k))
  rw [hskip] at hopen' hhanded'
  exact ⟨hopen.trans hopen'.symm, hhanded.trans hhanded'.symm⟩

end NetworkWatcher

end SocketWatch
