import SocketWatch.Proofs.Dialog.Merge
/-!
# Dialogs that events made

A dialog is a record of four fields, and nothing in its type says where they came from. Those that
the store hands over came from merging events, whatever the events were; such a dialog is **built**.
Of a built dialog it is known that a phase that has begun keeps at least one event, the one that
began it, and this is what the dispatcher relies on where it reads the requests of a dialog one by
one: there is always one to read.
-/

namespace SocketWatch

namespace Burst

variable (b : Burst) (e : Event)

/-- An event that is merged is kept as long as there is room. -/
theorem events_merge :
    (b.merge e).events = if b.events.length < maxEvents then b.events ++ [e] else b.events := by
  cases h : b.merged <;> simp [merge, events, Merged.add, start, h]

/-- Merging forgets no event. -/
theorem mem_events_merge {e' : Event} (h : e' ∈ b.events) : e' ∈ (b.merge e).events := by
  rw [events_merge]
  split
  · exact List.mem_append_left _ h
  · exact h

end Burst

namespace Dialog

/-- The dialogs that events made: merged one after the other, and the tuple behind them looked
up. -/
inductive Built : Dialog → Prop where
  /-- No event yet. -/
  | empty (natTarget : Option FourTuple) : Built { natTarget }
  /-- One more event. -/
  | merge {d : Dialog} (hd : d.Built) (p : Phase) (e : Event) (limit : Nat) :
    (d.merge p e limit).Built

/-- A phase of a dialog that an event began. -/
theorem built_ofEvent (p : Phase) (e : Event) (limit : Nat) : (Dialog.ofEvent p e limit).Built :=
  merge_empty p e limit ▸ (Built.empty none).merge p e limit

/-- **A phase that has begun keeps the event that began it.** -/
theorem Built.first_mem_events {d : Dialog} (hd : d.Built) {p : Phase} {b : Burst}
    (hb : d.get p = some b) : b.first ∈ b.events := by
  induction hd generalizing p b with
  | empty => cases p <;> cases hb
  | @merge d hd q e limit ih =>
    by_cases hp : q = p
    · subst hp
      rw [get_merge_self] at hb
      cases hold : d.get q with
      | none =>
        rw [hold] at hb
        rw [← Option.some.inj hb]
        exact List.mem_singleton_self e
      | some b' =>
        rw [hold] at hb
        rw [← Option.some.inj hb]
        exact b'.mem_events_merge e (ih hold)
    · rw [get_merge_of_ne d hp] at hb
      exact ih hb

end Dialog

end SocketWatch
