import OutboxRelay.Proofs.Admin.Request
import OutboxRelay.Proofs.Event.Normal
import OutboxRelay.Proofs.Replay.Readable
import OutboxRelay.Proofs.Store.Publish
import OutboxRelay.Simulation.Service

/-!
# Events that were appended

An event is appended as the value that its payload denotes, printed again.  If the answer
says that it was, one entry was added, and the entry can be read for as long as it is there,
whatever else is done to the database.

**Results.**
* `Led.numbered`: requests, passes and statements keep the numbers of transactions in order.
* `exists_of_attend_append`: an answer of 201 means that an event was published.
* `appended_of_answer`: what such an answer means for the body that was posted and for all
  who read the entry later.
-/

namespace OutboxRelay

/-- Whether an entry is resolved by bringing an event about. -/
def Entry.Means (entry : Entry) (event : Event) : Prop :=
  Event.decode entry.action entry.version entry.payload = .ok event ∧
    ∀ error, Program.Runs (fun (_ : Unit) _ _ _ => True) (Replay.apply entry) ()
      (.error error) () → ¬error.IsUnreadable

namespace Simulation
namespace Service

open Admin (AppendRequest AtDesk Incoming)
open Store (Database TransactionId)
open Store.Database (Later Numbered)

variable {α β : Type}

/-! ## Numbers of transactions -/

/-- If each call keeps the numbers of transactions in order, then so does a program. -/
theorem numbered_run {I : Interface} {serve : (made : I.Call) → StateM Service (I.Reply made)}
    (kept : ∀ made s, s.database.Numbered → (serve made s).2.database.Numbered) {s : Service}
    (numbered : s.database.Numbered) (work : Program I α) :
    (work.run (m := StateM Service) serve (fun entry s => ((), s.record entry))
      s).2.database.Numbered := by
  induction work generalizing s with
  | done result => exact numbered
  | note entry rest ih => exact ih (s := s.record entry) numbered
  | call made rest ih => exact ih _ (kept made s numbered)

theorem numbered_serveDesk (call : (Broker.interface (Admin.storeInterface TransactionId)).Call)
    (s : Service) (numbered : s.database.Numbered) :
    (serveDesk call s).2.database.Numbered := by
  match call with
  | .inl (.inl call) => exact numbered.run (Store.serve call)
  | .inl (.inr call) => exact numbered.run (Store.serveIntake call)
  | .inr call => cases call <;> exact numbered

theorem numbered_servePass
    (call : (Dispatch.interface TransactionId Downstream.interface).Call) (s : Service)
    (numbered : s.database.Numbered) :
    (servePass call s).2.database.Numbered := by
  match call with
  | .inl call => exact numbered.run (Store.serve call)
  | .inr call => exact numbered

/-- What becomes of a service by requests and passes, and by whatever is done at its database. -/
inductive Led (first : Service) : Service → Prop
  | start : Led first first
  | answers {s : Service} (led : Led first s) (incoming : Incoming) :
      Led first (s.answer incoming).2
  | passes {s : Service} (led : Led first s) (settings : Dispatch.Settings) :
      Led first (s.pass settings).2
  | queries {s : Service} (led : Led first s) {γ : Type} (program : Store.OnDatabase γ) :
      Led first (s.query program).2

/-- Whatever becomes of a service, it numbers transactions in order. -/
theorem Led.numbered {first s : Service} (numbered : first.database.Numbered)
    (led : Led first s) : s.database.Numbered := by
  induction led with
  | start => exact numbered
  | answers led incoming ih => exact numbered_run numbered_serveDesk ih _
  | passes led settings ih => exact numbered_run numbered_servePass ih _
  | queries led program ih => exact ih.run program

/-! ## At the desk -/

/-- Does what is done for an administrator. -/
def attend (s : Service) (work : AtDesk TransactionId α) : α × Service :=
  work.run (m := StateM Service) serveDesk (fun entry s => ((), s.record entry)) s

theorem answer_eq (s : Service) (incoming : Incoming) :
    s.answer incoming = s.attend (Admin.handle incoming) :=
  rfl

theorem attend_bind (s : Service) (work : AtDesk TransactionId α)
    (next : α → AtDesk TransactionId β) :
    s.attend (work >>= next) = (s.attend work).2.attend (next (s.attend work).1) :=
  congrFun (Program.run_bind (m := StateM Service) serveDesk
    (fun entry s => ((), s.record entry)) work next) s

/-- A call on the intake is served by the database, and a signal is given. -/
theorem attend_mutate (s : Service) (call : Outbox.Intake.Call) :
    s.attend (Broker.mutate (Admin.intakeCall call)) =
      ((s.database.run (Store.serveIntake call)).1,
        { s with
          database := (s.database.run (Store.serveIntake call)).2
          wake := s.wake.notify }) :=
  rfl

theorem attend_fail (s : Service) (error : StoreError) :
    (s.attend (Admin.fail error)).1 = Admin.ofFailure error := by
  cases error <;> rfl

/-- A failure is never told as something that was created. -/
theorem status_attend_fail (s : Service) (error : StoreError) :
    (s.attend (Admin.fail error)).1.status ≠ 201 := by
  rw [attend_fail]
  cases error <;> simp [Admin.ofFailure, Admin.internalError, Admin.json]

/-- An answer of 201 to a request means that its event was published. -/
theorem exists_of_attend_append {s s' : Service} {request : AppendRequest}
    {response : Http.Response}
    (attended : s.attend (Admin.append request) = (response, s'))
    (created : response.status = 201) :
    ∃ event id, Event.decode request.action request.version request.payload.encode = .ok event ∧
      s.database.run (Store.publish event.action request.version request.payload.encode).run =
        (.ok id, s'.database) ∧
      response = Admin.json 201 (Admin.appendedBody id) := by
  rw [Admin.append] at attended
  cases decoded : Event.decode request.action request.version request.payload.encode with
  | error error =>
      simp only [decoded] at attended
      have status_ne := s.status_attend_fail (Admin.refusal error)
      rw [attended] at status_ne
      exact absurd created status_ne
  | ok event =>
      simp only [decoded] at attended
      rw [attend_bind, attend_mutate] at attended
      cases served : s.database.run
          (Store.serveIntake (.publish event.action request.version request.payload.encode)) with
      | mk reply db =>
          rw [served] at attended
          cases reply with
          | error error =>
              have status_ne := status_attend_fail
                { s with database := db, wake := s.wake.notify } error
              rw [attended] at status_ne
              exact absurd created status_ne
          | ok id =>
              obtain ⟨rfl, rfl⟩ := Prod.mk.inj attended
              exact ⟨event, id, rfl, Store.Database.run_of_stored served, rfl⟩

/-! ## Requests -/

/-- The status of a request that is refused. -/
def refusals : List Http.Status :=
  [400, 404, 405, 413, 415, 422]

/-- A body that cannot be read is refused. -/
theorem status_of_requested {γ : Type} {record : Json.Record γ} {incoming : Incoming}
    {response : Http.Response} (refused : Admin.requested record incoming = .error response) :
    response.status ∈ refusals := by
  unfold Admin.requested at refused
  split at refused
  · cases refused
    decide
  split at refused
  · cases refused
    decide
  · obtain ⟨error, -, rfl⟩ := Json.exists_of_mapError refused
    unfold Admin.ofJsonError
    split <;> simp [Admin.plain, refusals]

theorem decode_of_requested {γ : Type} {record : Json.Record γ} {incoming : Incoming}
    {request : γ} (accepted : Admin.requested record incoming = .ok request) :
    record.decode incoming.body = .ok request := by
  unfold Admin.requested at accepted
  split at accepted
  · cases accepted
  split at accepted
  · cases accepted
  · exact Json.eq_ok_of_mapError accepted

theorem handle_append {incoming : Incoming} (post : incoming.method = .post)
    (path : Admin.barePath incoming.path = "/outbox/events") :
    Admin.handle (τ := TransactionId) incoming =
      Admin.withBody AppendRequest.record incoming Admin.append := by
  have route : Admin.Route.ofPath? "/outbox/events" = some .append := by decide
  simp [Admin.handle, path, route, post, Admin.Route.methods, Admin.onRoute, Admin.trimmed]

/-- A request to append an event that is answered by 201 was read and carried out. -/
theorem exists_of_answer {s s' : Service} {incoming : Incoming} {response : Http.Response}
    (post : incoming.method = .post) (path : Admin.barePath incoming.path = "/outbox/events")
    (answered : s.answer incoming = (response, s')) (created : response.status = 201) :
    ∃ request, AppendRequest.record.decode incoming.body = .ok request ∧
      s.attend (Admin.append request) = (response, s') := by
  rw [answer_eq, handle_append post path, Admin.withBody] at answered
  cases read : Admin.requested AppendRequest.record incoming with
  | ok request =>
      rw [read] at answered
      exact ⟨request, decode_of_requested read, answered⟩
  | error refusal =>
      rw [read] at answered
      obtain ⟨rfl, rfl⟩ := Prod.mk.inj answered
      have status_in := status_of_requested read
      rw [created] at status_in
      exact absurd status_in (by decide)

/-! ## Entries -/

/-- What is true of an event that was appended, by the body that was posted. -/
structure Appended (body : Bytes) (before after : Database) (request : AppendRequest)
    (entry : Entry) (event : Event) : Prop where
  read : AppendRequest.record.decode body = .ok request
  /-- One entry was added, and nothing is left to be committed. -/
  inserted : after.rows = before.rows ++ [entry] ∧ after.transactions = before.transactions
  stored : entry.action = request.action ∧ entry.version = request.version
  /-- The body has a text of its payload. -/
  posted : ∃ text, AppendRequest.PayloadText body text
  /-- If that text can be decoded itself, it has the same meaning. -/
  same : ∀ text found, AppendRequest.PayloadText body text →
    Event.decode request.action request.version text = .ok found → found = event
  means : entry.Means event
  /-- Whatever happens later, the entry is read with that meaning while it is there. -/
  later : (∀ row ∈ before.known, row.id ≠ entry.id) →
    ∀ (db db' : Database) (rows : List Entry), Later entry.id after db →
      db.run (Store.serve .entries) = (.ok rows, db') →
      ∀ row ∈ rows, row.id = entry.id → row.Means event

theorem means_of_decode {entry : Entry} {event : Event}
    (decoded : Event.decode entry.action entry.version entry.payload = .ok event) :
    entry.Means event :=
  ⟨decoded, fun _ run => Replay.not_isUnreadable_of_runs decoded run⟩

/-- Entries with the same content have the same meaning. -/
theorem means_of_content {entry row : Entry} {event : Event} (means : entry.Means event)
    (same : row.content = entry.content) : row.Means event := by
  simp only [Entry.content, Prod.mk.injEq] at same
  obtain ⟨-, action_eq, version_eq, payload_eq⟩ := same
  refine means_of_decode ?_
  rw [action_eq, version_eq, payload_eq]
  exact means.1

/-- An entry whose identifier is its own is read with its meaning, whatever happens. -/
theorem means_of_later {entry : Entry} {event : Event} (means : entry.Means event)
    {after db db' : Database} (only : ∀ row ∈ after.known, row.id = entry.id → row = entry)
    (later : Later entry.id after db) {rows : List Entry}
    (served : db.run (Store.serve .entries) = (.ok rows, db')) :
    ∀ row ∈ rows, row.id = entry.id → row.Means event := by
  intro row among same_id
  obtain ⟨rfl, -⟩ := Store.Database.of_entries served
  have known : row ∈ db.known :=
    Store.Database.mem_known.mpr (.inl (Store.Database.mem_entries.mp among))
  exact means_of_content means (later.content_eq
    (fun old old_known old_id => congrArg Entry.content (only old old_known old_id))
    row known same_id)

/--
An event whose appending is answered by 201 is in one new entry, can be read from there for
as long as the entry lasts, and means what was posted.
-/
theorem appended_of_answer {s s' : Service} {incoming : Incoming} {response : Http.Response}
    (numbered : s.database.Numbered) (post : incoming.method = .post)
    (path : Admin.barePath incoming.path = "/outbox/events")
    (answered : s.answer incoming = (response, s')) (created : response.status = 201) :
    ∃ request entry event, Appended incoming.body s.database s'.database request entry event ∧
      response = Admin.json 201 (Admin.appendedBody entry.id) := by
  obtain ⟨request, read, attended⟩ := exists_of_answer post path answered created
  obtain ⟨event, id, decoded, published, told⟩ := exists_of_attend_append attended created
  have inserted := Store.Database.of_publish numbered published
  obtain ⟨text, posted⟩ := AppendRequest.exists_payloadText read
  obtain ⟨tree, -, value_eq⟩ := AppendRequest.exists_value? read posted
  obtain ⟨action_eq, version_eq⟩ := Event.tag_of_decode_normal value_eq decoded
  have means : (s.database.newEntry id event.action request.version
      request.payload.encode).Means event := by
    refine means_of_decode ?_
    rw [action_eq] at decoded
    exact decoded
  refine ⟨request, _, event, ⟨read, ?_, ⟨action_eq.symm, rfl⟩, ⟨text, posted⟩, ?_, means, ?_⟩, told⟩
  · rw [inserted]
    exact ⟨rfl, rfl⟩
  · intro text found posted directly
    obtain ⟨tree, language, value_eq⟩ := AppendRequest.exists_value? read posted
    have again := Event.decode_normal language value_eq directly
    exact Except.ok.inj (again.symm.trans decoded)
  · intro fresh db db' rows later served
    refine means_of_later means (fun row known same_id => ?_) later served
    rcases Store.Database.known_of_publish numbered published known with before | new
    · exact absurd same_id (fresh row before)
    · exact new

/-- A request whose payload is not printed in the order in which it was posted. -/
def disordered : Incoming where
  method := .post
  path := "/outbox/events?now"
  fields := [⟨"content-type", "application/json"⟩]
  body := Utf8.encode <|
    "[\"DeleteTeam\", 1, \x7b\"zone\": 1e2, \"zone\": [], " ++
      "\"team\": \x7b\"t\\u0061g\": \"blue\", \"id\": \"t\"\x7d\x7d]"

/--
A payload with members in disorder, repeated, escaped and unknown is appended once more, behind a
pass that has replayed the first one.
-/
theorem appended_of_disordered :
    let s := (((start (Database.empty 0 1)).answer disordered).2.pass .default).2
    Led (start (Database.empty 0 1)) s ∧
      ∃ request entry event,
        Appended disordered.body s.database (s.answer disordered).2.database request entry event ∧
          (s.answer disordered).1 = Admin.json 201 (Admin.appendedBody entry.id) := by
  intro s
  have led : Led (start (Database.empty 0 1)) s := (Led.start.answers disordered).passes .default
  exact ⟨led, appended_of_answer (led.numbered (Store.Database.numbered_empty 0 1)) rfl (by decide)
    rfl (by decide +kernel)⟩

end Service
end Simulation
end OutboxRelay
