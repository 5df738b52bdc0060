import OutboxRelay.Dispatch.Wake

/-!
# The broker

The broker stands in front of the store.  It forwards every call, and after one that
may change the outbox it gives the dispatcher a signal, whatever came of the call.
-/

namespace OutboxRelay
namespace Broker

variable {I : Interface}
variable {α : Type}

/-- The parties of a broker: its store, and the wake signal of its dispatcher. -/
def interface (I : Interface) : Interface :=
  I.both Dispatch.Wake.interface

/-- Forwards a call that only reads. -/
def read (call : Program I α) : Program (interface I) α :=
  call.onFirst

/-- Forwards a call that may change the outbox, then gives a signal. -/
def mutate (call : Program I α) : Program (interface I) α := do
  let result ← call.onFirst
  Program.ask (I := interface I) (Sum.inr Dispatch.Wake.Call.notify)
  return result

end Broker
end OutboxRelay
