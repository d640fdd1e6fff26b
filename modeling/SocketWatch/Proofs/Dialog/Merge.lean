import SocketWatch.Dialog.Store
/-!
# What merging does to a dialog

Merging an event touches one phase. Everything that is asked of a dialog as a whole is followed
through a merge here: which phases it has, whose dialog it is, and how many bytes it counts. The
identity is the only delicate one, because the event may begin an earlier phase than any the dialog
has: it is then this event that decides the identity, so it has to come from the same dialog
(`key?_merge`).
-/

namespace SocketWatch

namespace Dialog

variable (d : Dialog) (p : Phase) (e : Event) (limit : Nat)

/-! ### Phases -/

theorem has_merge (q : Phase) : (d.merge p e limit).has q = (decide (p = q) || d.has q) := by
  unfold has
  by_cases h : p = q
  · subst h
    simp [get_merge_self]
  · simp [get_merge_of_ne d h, h]

/-- A new dialog is what merging makes of no dialog. -/
theorem merge_empty : ({} : Dialog).merge p e limit = .ofEvent p e limit := by
  cases p <;> rfl

theorem has_ofEvent (q : Phase) : (Dialog.ofEvent p e limit).has q = decide (p = q) := by
  rw [← merge_empty, has_merge]
  cases q <;> exact Bool.or_false _

/-! ### Identity -/

theorem firstEvent?_ofEvent : (Dialog.ofEvent p e limit).firstEvent? = some e := by
  cases p <;> rfl

theorem key?_ofEvent : (Dialog.ofEvent p e limit).key? = some (.ofEvent e) := by
  rw [key?, firstEvent?_ofEvent]
  rfl

/-- The first event stays, unless the merged event begins an earlier phase. -/
theorem firstEvent?_merge :
    (d.merge p e limit).firstEvent? = d.firstEvent? ∨
      (d.merge p e limit).firstEvent? = some e := by
  obtain ⟨c, q, r, n⟩ := d
  cases p <;> cases c <;> cases q <;> cases r <;>
    first
    | exact .inl rfl
    | exact .inr rfl

/-- **Merging an event of the dialog keeps its identity.** -/
theorem key?_merge {k : DialogKey} (hd : d.key? = some k) (he : .ofEvent e = k) :
    (d.merge p e limit).key? = some k := by
  rcases d.firstEvent?_merge p e limit with h | h
  · rw [key?, h]
    exact hd
  · rw [key?, h, ← he]
    rfl

/-- A dialog has an identity exactly when it has begun. -/
theorem key?_isSome : d.key?.isSome = !d.isEmpty := by
  obtain ⟨c, q, r, n⟩ := d
  cases c <;> cases q <;> cases r <;> rfl

theorem isEmpty_of_key? {k : DialogKey} (hd : d.key? = some k) : d.isEmpty = false := by
  have h := d.key?_isSome
  rw [hd] at h
  simpa using h

/-! ### Bytes -/

/-- What the results of a phase add up to, 0 where it has not begun. -/
def bytes (q : Phase) : Int := (d.get q).elim 0 (·.result)

/-- **A merge adds the event's result to its own phase** and to no other. -/
theorem bytes_merge (q : Phase) :
    (d.merge p e limit).bytes q = d.bytes q + if p = q then e.result.toInt else 0 := by
  unfold bytes
  by_cases h : p = q
  · subst h
    rw [get_merge_self]
    cases d.get p with
    | none => simp [Burst.ofEvent, Burst.result]
    | some b => simp [Burst.result_merge]
  · simp [get_merge_of_ne d h, h]

theorem bytes_ofEvent (q : Phase) :
    (Dialog.ofEvent p e limit).bytes q = if p = q then e.result.toInt else 0 := by
  have hempty : ({} : Dialog).bytes q = 0 := by cases q <;> rfl
  rw [← merge_empty, bytes_merge, hempty, Int.zero_add]

end Dialog

end SocketWatch
