import OutboxRelay.Dispatch.Wake

/-!
# Laws of wake signals

What giving, taking and awaiting a signal does to each part of a wake signal.

**Results.**
* `WakeSignal.probeArmed_notify` and others: only the arming and the firing of a probe touch the
  flag of the probe.
* `WakeSignal.permits_notify_le`, `WakeSignal.permits_of_take?`: a signal starts at most one pass,
  and a pass uses up one signal.
-/

namespace OutboxRelay
namespace Dispatch
namespace WakeSignal

variable {wake wake' : WakeSignal}

/-! ## Listeners -/

/-- Who has taken a signal is away. -/
theorem listener_of_take? (taken : wake.take? = some wake') :
    wake'.listener = .away := by
  obtain ⟨stored, listener, probeArmed⟩ := wake
  cases listener <;> cases stored <;> cases taken <;> rfl

/-- Who goes away is away. -/
theorem listener_leave (wake : WakeSignal) :
    wake.leave.listener = .away := by
  obtain ⟨stored, listener, probeArmed⟩ := wake
  cases listener <;> rfl

theorem notify_of_away (away : wake.listener = .away) :
    wake.notify = { wake with stored := true } := by
  unfold notify
  rw [away]

theorem take?_notify (wake : WakeSignal) :
    wake.notify.take? ≠ none := by
  obtain ⟨stored, listener, probeArmed⟩ := wake
  cases listener <;> simp [notify, take?]

/-! ## The flag of the probe -/

theorem probeArmed_notify (wake : WakeSignal) :
    wake.notify.probeArmed = wake.probeArmed := by
  obtain ⟨stored, listener, probeArmed⟩ := wake
  cases listener <;> rfl

theorem probeArmed_of_take? (taken : wake.take? = some wake') :
    wake'.probeArmed = wake.probeArmed := by
  obtain ⟨stored, listener, probeArmed⟩ := wake
  cases listener <;> cases stored <;> cases taken <;> rfl

theorem probeArmed_leave (wake : WakeSignal) :
    wake.leave.probeArmed = wake.probeArmed := by
  obtain ⟨stored, listener, probeArmed⟩ := wake
  cases listener <;> rfl

/-! ## Permits -/

/-- How many passes a wake signal can start without a new signal. -/
def permits (wake : WakeSignal) : Nat :=
  wake.stored.toNat + (wake.listener == .woken).toNat

/-- A signal starts at most one pass. -/
theorem permits_notify_le (wake : WakeSignal) :
    wake.notify.permits ≤ wake.permits + 1 := by
  obtain ⟨stored, listener, probeArmed⟩ := wake
  cases listener <;> cases stored <;> cases probeArmed <;> decide

/-- A pass uses up one signal. -/
theorem permits_of_take? (taken : wake.take? = some wake') :
    wake'.permits + 1 = wake.permits := by
  obtain ⟨stored, listener, probeArmed⟩ := wake
  cases listener <;> cases stored <;> cases taken <;> rfl

theorem permits_wait (nothing : wake.take? = none) :
    wake.wait.permits = wake.permits := by
  obtain ⟨stored, listener, probeArmed⟩ := wake
  cases listener <;> cases stored <;> cases nothing <;> rfl

theorem permits_leave_le (wake : WakeSignal) :
    wake.leave.permits ≤ wake.permits := by
  obtain ⟨stored, listener, probeArmed⟩ := wake
  cases listener <;> cases stored <;> cases probeArmed <;> decide

end WakeSignal
end Dispatch
end OutboxRelay
