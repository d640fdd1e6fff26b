import SocketWatch.Proofs.Dialog.Store
import SocketWatch.Proofs.Dispatch.Choice
/-!
# The order of a flush

A flush hands over all idle dialogs at once, in no particular order, and each of them may change the
cache that the next one meets. Most of these changes are not seen by anyone, because who answers for
a dialog depends on the cache only where the dialog is `Contested`: a scan would give it to a
specific protocol, and no specific protocol that is cached recognises it. For such a dialog it
matters which of the other protocols that recognise it are cached, the generic one included.

A list of dialogs is `Steady` where that is settled beforehand: the hits that the others of the list
would make do not bring such a protocol to the count at which it enters the cache, or, for the
generic one, leaves it. It is a condition on the state before the flush, and it says nothing of an
order. The step is `Steady.cons`: one dispatch of a steady list leaves the rest steady, and leaves
it with the same answers. So every dialog is reported as if it came first (`run_of_steady`), and any
order gives the same records (`flush_perm`).

Without the condition the order does matter (`flush_order_matters`).
-/

namespace SocketWatch

open Wire (Protocol)

namespace Learned

/-- The number of hits at which a position enters the cache of a port, or leaves it again. -/
def limit (l : Learned) (port : UInt16) (i : Nat) : Nat :=
  if i ∈ l.cachedAt port then retryThreshold else cacheThreshold

end Learned

namespace Dispatcher

variable {r : Dispatcher} {l : Learned} {d : Dialog}

/-- Whether a dialog is on a port and a position answers for it. -/
def hitsAt (r : Dispatcher) (l : Learned) (port : UInt16) (i : Nat) (d : Dialog) : Bool :=
  d.port = port && r.answering? l d = some i

/-- Whether it depends on the cache who answers for a dialog: a scan finds a specific protocol, but
no specific protocol that is cached recognises the dialog. -/
def Contested (r : Dispatcher) (l : Learned) (d : Dialog) : Prop :=
  r.settings.boundProtocol? d.port = none ∧ d.has .request = true ∧
    (∀ i, r.registry.scanOrder.find? (r.recognises d) = some i → r.isGeneric i = false) ∧
    ∀ j ∈ l.cachedAt d.port, r.recognises d j = true → r.isGeneric j = true

/-- Whether the hits of the others leave it as it is who answers for a contested dialog of a list:
they do not bring any protocol that recognises it, other than the one that a scan finds, to the
limit at which it would enter the cache of the port or leave it. -/
def Steady (r : Dispatcher) (l : Learned) (ds : List Dialog) : Prop :=
  ∀ d ∈ ds, r.Contested l d → ∀ j ∈ r.registry.scanOrder, r.recognises d j = true →
    r.registry.scanOrder.find? (r.recognises d) ≠ some j →
      l.hits.count j d.port + (ds.erase d).countP (r.hitsAt l d.port j) < l.limit d.port j

instance : Decidable (r.Contested l d) :=
  decidable_of_iff (r.settings.boundProtocol? d.port = none ∧ d.has .request = true ∧
    (r.registry.scanOrder.find? (r.recognises d)).all (r.isGeneric · = false) = true ∧
      ∀ j ∈ l.cachedAt d.port, r.recognises d j = true → r.isGeneric j = true)
    (by simp [Contested, Option.all_eq_true])

instance (ds : List Dialog) : Decidable (r.Steady l ds) :=
  inferInstanceAs (Decidable (∀ d ∈ ds, r.Contested l d → ∀ j ∈ r.registry.scanOrder, _))

/-! ### One dispatch -/

theorem hitsAt_iff {port : UInt16} {i : Nat} :
    r.hitsAt l port i d = true ↔ d.port = port ∧ r.answering? l d = some i := by
  simp [hitsAt]

/-- An item in the middle of a list does not change which item is the first to pass a test, unless
it passes the test itself. -/
theorem find?_middle {α : Type} {p : α → Bool} {front rest : List α} {a : α}
    (h : front.find? p = none → p a = true → rest.find? p = some a) :
    (front ++ [a] ++ rest).find? p = (front ++ rest).find? p := by
  rw [List.find?_append, List.find?_append, List.find?_append]
  cases hfront : front.find? p with
  | some b => rfl
  | none =>
    cases ha : p a with
    | true => simp [ha, h hfront ha]
    | false => simp [ha]

/-- So it is with the last item of a list without repetitions, when all that equals it is left
out. -/
theorem find?_filter_last {α : Type} [DecidableEq α] {p : α → Bool} {items rest : List α} {a : α}
    (hnodup : items.Nodup) (hlast : items.getLast? = some a)
    (h : (∀ b ∈ items, p b = true → b = a) → p a = true → rest.find? p = some a) :
    (items.filter (· ≠ a) ++ rest).find? p = (items ++ rest).find? p := by
  obtain ⟨front, rfl⟩ := List.getLast?_eq_some_iff.1 hlast
  have hnot : ∀ b ∈ front, b ≠ a := fun b hb hba ↦
    (List.nodup_append.1 hnodup).2.2 b hb a (List.mem_singleton_self a) hba
  have hfilter : (front ++ [a]).filter (· ≠ a) = front := by
    simpa [List.filter_append] using hnot
  rw [hfilter]
  refine (find?_middle fun hnone ha ↦ h (fun b hb hpb ↦ ?_) ha).symm
  rcases List.mem_append.1 hb with hb | hb
  · exact absurd hpb (List.find?_eq_none.1 hnone b hb)
  · exact List.mem_singleton.1 hb

theorem contested_of_scanOrder (hr : r.registry.GenericLast)
    (hport : r.settings.boundProtocol? d.port = none) (hreq : d.has .request = true) {i : Nat}
    (hi : i ∈ r.registry.scanOrder) (hrec : r.recognises d i = true)
    (hne : r.registry.scanOrder.find? (r.recognises d) ≠ some i)
    (hcached : ∀ j ∈ l.cachedAt d.port, r.recognises d j = true → r.isGeneric j = true) :
    r.Contested l d := by
  refine ⟨hport, hreq, fun k hk ↦ ?_, hcached⟩
  by_contra hgeneric
  obtain ⟨e, he, hp⟩ := isGeneric_iff.1 (by simpa using hgeneric)
  have hlast := hr.getLast?_scanOrder he hp
  have hik := eq_of_find?_of_getLast? r.registry.nodup_scanOrder hlast hk hi hrec
  exact hne (hik ▸ hk)

/-- **What a dispatch leaves alone.** It does not change who answers for another dialog, unless it
changes the caching of a protocol that could answer for it. -/
theorem answering?_dispatch (hr : r.registry.GenericLast) (hl : l.Sound r) {d' : Dialog}
    (h : r.Contested l d' → ∀ j ∈ r.registry.scanOrder, r.recognises d' j = true →
      r.registry.scanOrder.find? (r.recognises d') ≠ some j → r.hitsAt l d'.port j d = true →
        l.hits.count j d'.port + 1 < l.limit d'.port j) :
    r.answering? (r.dispatch l d).1 d' = r.answering? l d' := by
  have hchoice := (dispatch_spec hr l d).1
  generalize hanswer : r.answering? l d = answer at hchoice
  generalize (r.dispatch l d).1 = l' at hchoice ⊢
  unfold answering?
  split
  swap
  · rfl
  rename_i hasked
  obtain ⟨hport', hreq'⟩ : r.settings.boundProtocol? d'.port = none ∧ d'.has .request = true := by
    simpa using hasked
  cases hchoice with
  | unasked hcached => rw [hcached]
  | @cached i hport hreq hi =>
    rw [Learned.cachedAt_cachedHit]
    split
    swap
    · rfl
    -- the generic protocol was cached last and is dropped
    rename_i hdrop
    obtain ⟨hdrop, hsame⟩ := hdrop
    obtain ⟨hgeneric, hfull⟩ := (Bool.and_eq_true _ _).mp hdrop
    have hmem : i ∈ l.cachedAt d'.port := hsame ▸ List.mem_of_find?_eq_some hi
    refine find?_filter_last (hl.nodup _) (hl.last _ i hmem hgeneric) fun honly hrec ↦ ?_
    by_contra hne
    have hi' := hl.scanned _ i hmem
    have hcontested := contested_of_scanOrder hr hport' hreq' hi' hrec hne fun j hj hjrec ↦
      (honly j hj hjrec).symm ▸ hgeneric
    have hlt := h hcontested i hi' hrec hne (hitsAt_iff.2 ⟨hsame, hanswer⟩)
    rw [Learned.limit, if_pos hmem, ← hsame, of_decide_eq_true hfull] at hlt
    exact Nat.lt_irrefl _ hlt
  | @scanned i hport hreq hmiss hi =>
    rw [Learned.cachedAt_scanned]
    split
    swap
    · rfl
    -- a protocol is cached behind the others
    rename_i hadd
    obtain ⟨hfull, hsame, hnew⟩ := hadd
    refine find?_middle fun hnone hrec ↦ ?_
    by_contra hne
    have hi' := List.mem_of_find?_eq_some hi
    have hcontested := contested_of_scanOrder hr hport' hreq' hi' hrec hne fun j hj hjrec ↦
      absurd hjrec (List.find?_eq_none.1 hnone j hj)
    have hlt := h hcontested i hi' hrec hne (hitsAt_iff.2 ⟨hsame, hanswer⟩)
    rw [Learned.limit, if_neg hnew, ← hsame, hfull] at hlt
    exact Nat.lt_irrefl _ hlt

/-- What a dispatch counts: a hit that does not reach the limit leaves the limit where it is. -/
theorem count_dispatch (hr : r.registry.GenericLast) (hl : l.Sound r) (port : UInt16) (j n : Nat)
    (h : l.hits.count j port + ((if r.hitsAt l port j d then 1 else 0) + n) < l.limit port j) :
    (r.dispatch l d).1.hits.count j port + n < (r.dispatch l d).1.limit port j := by
  have hchoice := (dispatch_spec hr l d).1
  have hl' : (r.dispatch l d).1.Sound r := hl.of_resolution (dispatch_resolution hr l d)
  have hhit : r.hitsAt l port j d = true ↔ d.port = port ∧ r.answering? l d = some j := hitsAt_iff
  unfold Learned.limit at h ⊢
  have hthresholds := Learned.cacheThreshold_lt_retryThreshold
  have hcached := hl.cached_iff port j
  generalize hanswer : r.answering? l d = answer at hchoice hhit
  generalize (r.dispatch l d).1 = l' at hchoice hl' ⊢
  have hcached' := hl'.cached_iff port j
  cases hchoice with
  | unasked hsame hhits =>
    rw [hsame, hhits]
    grind
  | @cached i hport hreq hi =>
    have hcount := Learned.count_cachedHit l i j d.port port (r.isGeneric i)
    have hmem := List.mem_of_find?_eq_some hi
    grind [Learned.drops]
  | @scanned i hport hreq hmiss hi =>
    have hcount := Learned.count_scanned l i j d.port port
    grind

/-- A dialog that is contested after a dispatch was contested before: specific protocols are never
dropped. -/
theorem Contested.of_dispatch (hr : r.registry.GenericLast) {d' : Dialog}
    (h : r.Contested (r.dispatch l d).1 d') : r.Contested l d' := by
  obtain ⟨hport, hreq, hscan, hcached⟩ := h
  refine ⟨hport, hreq, hscan, fun j hj hrec ↦ ?_⟩
  by_contra hspecific
  refine hspecific (hcached j ?_ hrec)
  have hchoice := (dispatch_spec hr l d).1
  generalize r.answering? l d = answer at hchoice
  generalize (r.dispatch l d).1 = l' at hchoice ⊢
  cases hchoice with
  | unasked hsame => rwa [hsame]
  | @cached i =>
    rw [Learned.cachedAt_cachedHit]
    split
    · rename_i hdrop
      have hgeneric := (Bool.and_eq_true_iff.1 hdrop.1).1
      refine List.mem_filter.2 ⟨hj, decide_eq_true fun hji ↦ hspecific (hji ▸ hgeneric)⟩
    · exact hj
  | scanned =>
    rw [Learned.cachedAt_scanned]
    split
    · exact List.mem_append_left _ hj
    · exact hj

/-! ### All of them -/

/-- A list stays steady when its first dialog was dispatched, and who answers for the others stays
the same. -/
theorem Steady.cons (hr : r.registry.GenericLast) (hl : l.Sound r) {ds : List Dialog}
    (h : r.Steady l (d :: ds)) :
    r.Steady (r.dispatch l d).1 ds ∧
      ∀ d' ∈ ds, r.answering? (r.dispatch l d).1 d' = r.answering? l d' := by
  -- what stands beside one of the others is the first dialog and the rest of them
  have hcount : ∀ d' ∈ ds, ∀ p : Dialog → Bool,
      ((d :: ds).erase d').countP p = (if p d then 1 else 0) + (ds.erase d').countP p := by
    intro d' hd' p
    have hperm : ((d :: ds).erase d').Perm (d :: ds.erase d') :=
      (List.perm_cons_erase (List.mem_cons_of_mem d hd')).symm.trans
        (((List.perm_cons_erase hd').cons d).trans (.swap d' d _)) |>.cons_inv
    rw [hperm.countP_eq, List.countP_cons, Nat.add_comm]
  have hsame : ∀ d' ∈ ds, r.answering? (r.dispatch l d).1 d' = r.answering? l d' := by
    intro d' hd'
    refine answering?_dispatch hr hl fun hcontested j hj hrec hne hhit ↦ ?_
    have hlt := h d' (List.mem_cons_of_mem d hd') hcontested j hj hrec hne
    rw [hcount d' hd', if_pos hhit] at hlt
    omega
  refine ⟨fun d' hd' hcontested j hj hrec hne ↦ ?_, hsame⟩
  have hlt := h d' (List.mem_cons_of_mem d hd') (hcontested.of_dispatch hr) j hj hrec hne
  rw [hcount d' hd'] at hlt
  have hothers : (ds.erase d').countP (r.hitsAt (r.dispatch l d).1 d'.port j) =
      (ds.erase d').countP (r.hitsAt l d'.port j) :=
    List.countP_congr fun x hx ↦ by rw [hitsAt_iff, hitsAt_iff, hsame x (List.mem_of_mem_erase hx)]
  rw [hothers]
  exact count_dispatch hr hl d'.port j _ hlt

theorem Steady.perm {ds ds' : List Dialog} (h : r.Steady l ds) (hperm : ds'.Perm ds) :
    r.Steady l ds' := fun d hd hcontested j hj hrec hne ↦ by
  rw [(hperm.erase d).countP_eq]
  exact h d (hperm.mem_iff.1 hd) hcontested j hj hrec hne

/-- **Dialogs of a steady list are reported as if each was dispatched first.** -/
theorem run_of_steady (hr : r.registry.GenericLast) (hl : l.Sound r) {ds : List Dialog}
    (h : r.Steady l ds) :
    (Stepwise.run r.dispatch l ds).2 = ds.flatMap fun d ↦ (r.dispatch l d).2 := by
  induction ds generalizing l with
  | nil => rfl
  | cons d ds ih =>
    obtain ⟨hrest, hsame⟩ := h.cons hr hl
    have hl' : (r.dispatch l d).1.Sound r := hl.of_resolution (dispatch_resolution hr l d)
    have hrecords : ∀ d' ∈ ds, (r.dispatch (r.dispatch l d).1 d').2 = (r.dispatch l d').2 :=
      fun d' hd' ↦ by rw [(dispatch_spec hr _ d').2, (dispatch_spec hr _ d').2, hsame d' hd']
    rw [Stepwise.run_cons, ih hl' hrest, List.flatMap_cons, List.flatMap_congr hrecords]

/-- **The order of a steady list does not matter.** -/
theorem run_perm (hr : r.registry.GenericLast) (hl : l.Sound r) {ds ds' : List Dialog}
    (h : r.Steady l ds) (hperm : ds'.Perm ds) :
    (Stepwise.run r.dispatch l ds').2.Perm (Stepwise.run r.dispatch l ds).2 := by
  rw [run_of_steady hr hl h, run_of_steady hr hl (h.perm hperm)]
  exact hperm.flatMap_right _

end Dispatcher

namespace NetworkWatcher

variable (w : NetworkWatcher)

/-- What the dispatcher of a watcher has learned from a run. -/
theorem learned_run (calls : List NetworkCall) :
    (w.run calls).1.learned = w.dispatcher.learnedAfter ((w.handed calls).map w.resolveNat) := by
  rw [run_eq]
  rfl

/-- **The order of a flush does not matter**, in any deployment and after any calls, as long as no
decision about the cache falls into it that concerns one of its dialogs: dialogs that are steady are
reported with the same records in every order, and so are the dialogs that are idle at a time, in
whatever order the store yields them. -/
theorem flush_perm (settings : NetworkSettings) (natTable : NatTable) (calls : List NetworkCall) :
    let w := NetworkWatcher.ofSettings settings natTable
    let s := (w.run calls).1
    (∀ ds ds' : List Dialog, w.dispatcher.Steady s.learned (ds.map w.resolveNat) → ds'.Perm ds →
      (w.dispatchAll s.learned ds').2.Perm (w.dispatchAll s.learned ds).2) ∧
    ∀ now, w.dispatcher.Steady s.learned ((s.store.reap settings now).2.2.map w.resolveNat) →
      ∀ order : List (DialogKey × OpenDialog), order.Perm (s.store.idle settings now) →
        (w.dispatchAll s.learned (s.store.releaseAll order).2).2.Perm (w.reap s now).2.2 := by
  intro w s
  have hr : w.dispatcher.registry.GenericLast := Registry.genericLast_ofSettings settings
  have hl : s.learned.Sound w.dispatcher := by
    rw [show s.learned = _ from w.learned_run calls]
    exact Dispatcher.sound_learnedAfter hr _
  have hlists : ∀ ds ds' : List Dialog, w.dispatcher.Steady s.learned (ds.map w.resolveNat) →
      ds'.Perm ds → (w.dispatchAll s.learned ds').2.Perm (w.dispatchAll s.learned ds).2 := by
    intro ds ds' hsteady hperm
    rw [dispatchAll_eq, dispatchAll_eq]
    exact Dispatcher.run_perm hr hl hsteady (hperm.map _)
  refine ⟨hlists, fun now hsteady order hperm ↦ hlists _ _ hsteady ?_⟩
  have hsound : s.store.Sound := w.sound_storeAfter calls
  have hidle : ∀ e ∈ s.store.idle settings now, e.2.Sound e.1 := fun e he ↦
    hsound.of_mem (List.mem_filter.1 he).1
  show (s.store.releaseAll order).2.Perm (s.store.releaseAll (s.store.idle settings now)).2
  rw [DialogStore.releaseAll_eq hidle,
    DialogStore.releaseAll_eq fun e he ↦ hidle e (hperm.mem_iff.1 he)]
  exact hperm.map _

/-- Calls that dispatch some dialogs with the first request, and leave one dialog with each of two
requests open. -/
def crowd (count : Nat) (first second : Event) : List NetworkCall :=
  let handedOver : List NetworkCall := [.consume first, .consume { first with name := "connect" }]
  (List.replicate count handedOver).flatten ++ [.consume first, .consume second]

/-- Behind forty-eight dialogs that nobody knows the order does not matter yet, although who answers
for the web page depends on the cache. -/
theorem flush_perm_below_threshold :
    let settings : NetworkSettings := { protocols := ["http", "dns"] }
    let w := NetworkWatcher.ofSettings settings .none
    let calls := crowd 48 (.sends (Ascii.bytes "PING") 5 80) (.sends webRequest 6 80)
    let s := (w.run calls).1
    let now := 1000000000000
    let idle := s.store.idle settings now
    let handed := (s.store.reap settings now).2.2.map w.resolveNat
    (w.dispatcher.Steady s.learned handed ∧ handed.any (w.dispatcher.Contested s.learned ·)) ∧
      (w.dispatchAll s.learned (s.store.releaseAll idle.reverse).2).2.Perm (w.reap s now).2.2 := by
  have h := flush_perm { protocols := ["http", "dns"] } .none
    (crowd 48 (.sends (Ascii.bytes "PING") 5 80) (.sends webRequest 6 80))
  obtain ⟨-, hflush⟩ := h
  refine ⟨⟨?_, ?_⟩, hflush 1000000000000 ?_ _ (List.reverse_perm _)⟩
  all_goals decide +kernel

/-- **The order of a flush matters at a threshold.** Behind forty-nine dialogs that nobody knows, a
web page is reported as one that nobody knows if the fiftieth comes before it. Behind forty-nine DNS
queries, a request that both HTTP and DNS recognise is reported as DNS if the fiftieth comes before
it. -/
theorem flush_order_matters :
    let w := NetworkWatcher.ofSettings { protocols := ["http", "dns"] } .none
    let web : Event := .sends webRequest 6 80
    let unknown : Event := .sends (Ascii.bytes "PING") 5 80
    let question : List UInt8 := [1, 0, 0, 1, 0, 0, 0, 0, 0, 0, 3, 102, 111, 111, 0, 0, 1, 0, 1]
    let query : Event := .sends ([0, 19, 0, 1] ++ question) 5 80
    let both : Event := .sends (Ascii.bytes "GET " ++ question) 6 80
    let now := 1000000000000
    (let s := (w.run (crowd 49 unknown web)).1
      let idle := s.store.idle w.settings now
      idle.reverse.Perm idle ∧
        ¬ (w.dispatchAll s.learned (s.store.releaseAll idle.reverse).2).2.Perm
          (w.reap s now).2.2) ∧
    (let s := (w.run (crowd 49 query both)).1
      let idle := s.store.idle w.settings now
      idle.reverse.Perm idle ∧
        ¬ (w.dispatchAll s.learned (s.store.releaseAll idle.reverse).2).2.Perm
          (w.reap s now).2.2) := by
  refine ⟨⟨List.reverse_perm _, ?_⟩, List.reverse_perm _, ?_⟩
  · decide +kernel
  · decide +kernel

end NetworkWatcher

end SocketWatch
