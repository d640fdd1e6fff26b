import SocketWatch.Proofs.Dialog.Store
/-!
# What holds of the store between calls

The invariant of the store in full: what stands under a key is a dialog of that key which has
begun, which has a request if it has a response, and which was not handed over yet; and the two
counters say how many keys of each kind there are. Neither is computed from the store by the steps,
so neither is obvious: the identity of a dialog is decided by its earliest phase, which may have
come last, and the counters are touched on some paths only.

A dialog that was handed over but stayed, or a key that was counted twice, would break it in a
later step. That no step does either is `DialogStore.Sound.step`; here it is read as a statement
about runs of a watcher.
-/

namespace SocketWatch

namespace DialogStore

variable {s : DialogStore}

/-- A counter counts its kind of key, however that kind is told. -/
theorem Sound.counter_eq (hs : s.Sound) {udp : Bool} {p : DialogKey → Bool}
    (hp : ∀ k, p k = decide (k.isUdp = udp)) : s.counter udp = s.entries.countKeys p := by
  rw [hs.counter udp, funext hp]

theorem Sound.tcpCount (hs : s.Sound) : s.tcpCount = s.entries.countKeys fun k ↦ !k.isUdp := by
  have h : s.counter false = s.entries.countKeys fun k ↦ !k.isUdp :=
    hs.counter_eq fun k ↦ by cases k.isUdp <;> rfl
  exact h

theorem Sound.udpCount (hs : s.Sound) : s.udpCount = s.entries.countKeys (·.isUdp) := by
  have h : s.counter true = s.entries.countKeys (·.isUdp) :=
    hs.counter_eq fun k ↦ by cases k.isUdp <;> rfl
  exact h

/-- Every key is of one of the two kinds. -/
theorem Sound.size (hs : s.Sound) : (s.size : Int) = s.tcpCount + s.udpCount := by
  rw [hs.tcpCount, hs.udpCount, DialogStore.size, ← Table.countKeys_add_countKeys_not (·.isUdp)]
  push_cast
  omega

end DialogStore

namespace NetworkWatcher

/-- **The invariant of the store**, after every run of every watcher: each open dialog has begun,
stands under its own key, has a request if it has a response, and was not handed over; and the
counters are the numbers of keys, so that neither is negative and together they are the size. -/
theorem store_invariant (w : NetworkWatcher) (calls : List NetworkCall) :
    let store := w.storeAfter calls
    (∀ k o, store.entries.find? k = some o →
      o.dialog.isEmpty = false ∧ o.dialog.key? = some k ∧
        (o.dialog.has .response = true → o.dialog.has .request = true) ∧ o.published = false) ∧
      store.tcpCount = store.entries.countKeys (fun k ↦ !k.isUdp) ∧
      store.udpCount = store.entries.countKeys (·.isUdp) ∧
      0 ≤ store.tcpCount ∧ 0 ≤ store.udpCount ∧
      (store.size : Int) = store.tcpCount + store.udpCount := by
  intro store
  have hs : store.Sound := w.sound_storeAfter calls
  refine ⟨fun k o hfind ↦ ?_, hs.tcpCount, hs.udpCount, ?_, ?_, hs.size⟩
  · have ho := hs.slot k o hfind
    exact ⟨ho.isEmpty, ho.key, ho.asked, ho.unpublished⟩
  · rw [hs.tcpCount]
    exact Int.natCast_nonneg _
  · rw [hs.udpCount]
    exact Int.natCast_nonneg _

/-- A request supersedes an answered exchange, and the new dialog is what the invariant says. -/
theorem store_invariant_superseded :
    let w : NetworkWatcher := .ofSettings {} .none
    let calls : List NetworkCall := [.consume (.sample "write" 1000),
      .consume (.sample "read" 2000), .consume (.sample "write" 3000)]
    let o : OpenDialog := .ofEvent .request (.sample "write" 3000) 80
    (w.storeAfter calls).entries.find? (.tcp 7 5) = some o ∧
      o.dialog.isEmpty = false ∧ o.dialog.key? = some (.tcp 7 5) ∧
      (o.dialog.has .response = true → o.dialog.has .request = true) ∧ o.published = false := by
  intro w calls o
  have hfind : (w.storeAfter calls).entries.find? (.tcp 7 5) = some o := by
    rw [storeAfter_eq]
    rfl
  exact ⟨hfind, (store_invariant w calls).1 _ _ hfind⟩

end NetworkWatcher

end SocketWatch
