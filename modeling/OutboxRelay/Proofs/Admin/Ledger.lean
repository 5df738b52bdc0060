import OutboxRelay.Proofs.Admin.Append
import OutboxRelay.Proofs.Dispatch.Wake
import OutboxRelay.Proofs.Store.Chronicle

/-!
# What answers account for

Who keeps all answers of a service knows how many entries its outbox holds, and whether a
signal waits for the dispatcher: the answers that tell of a change are the changes.

**Input.**  A row of requests of any kind to a service whose database meets no fault.  Clocks
may stand still or go back from one request to the next, and the identifiers that are drawn are
new.  No dispatcher runs, but a stored signal may be taken in between.

**Method.**  Every refusal comes before the one call that could change anything.  So a request
is carried out by one operation of the store, which is told by the answer, or by none.

**Results.**
* `outcome_answer`: what comes of a request, by its answer.
* `Calm.accounts`: one answer accounts for what was done.
* `Served.accounted`: they are kept by any row of requests.
-/

namespace OutboxRelay

namespace Admin

/-- Whether a request posts a body to a route. -/
def Incoming.Posts (incoming : Incoming) (route : Route) : Prop :=
  incoming.method = .post ∧ barePath incoming.path = route.path

instance (incoming : Incoming) (route : Route) : Decidable (incoming.Posts route) :=
  inferInstanceAs (Decidable (incoming.method = .post ∧ barePath incoming.path = route.path))

/-- A request and its answer. -/
structure Exchange where
  incoming : Incoming
  response : Http.Response
  deriving DecidableEq, Repr

namespace Exchange

/-- Whether an answer tells of an entry that was added. -/
def Creates (x : Exchange) : Prop :=
  x.incoming.Posts .append ∧ x.response.status = 201

/-- Whether an answer tells of entries that were dropped. -/
def Compacts (x : Exchange) : Prop :=
  x.incoming.Posts .compact ∧ x.response.status = 200

instance (x : Exchange) : Decidable x.Creates :=
  inferInstanceAs (Decidable (x.incoming.Posts .append ∧ x.response.status = 201))

instance (x : Exchange) : Decidable x.Compacts :=
  inferInstanceAs (Decidable (x.incoming.Posts .compact ∧ x.response.status = 200))

/-- No request is posted to two routes. -/
theorem not_creates_of_posts {x : Exchange} (posts : x.incoming.Posts .compact) : ¬x.Creates := by
  rintro ⟨other, -⟩
  have same := posts.2.symm.trans other.2
  revert same
  decide

theorem not_compacts_of_posts {x : Exchange} (posts : x.incoming.Posts .append) :
    ¬x.Compacts := by
  rintro ⟨other, -⟩
  have same := posts.2.symm.trans other.2
  revert same
  decide

end Exchange

/-! ## Numbers in answers -/

/-- The number whose digits stand in a text, which holds no other digits. -/
def numberIn (octets : Bytes) : Nat :=
  (octets.filter Json.isDigit).foldl (fun n digit => n * 10 + Json.digitValue digit) 0

theorem numberIn_append_digit (octets : Bytes) {n : Nat} (h : n < 10) :
    numberIn (octets ++ [Json.digitOctet n]) = numberIn octets * 10 + n := by
  simp [numberIn, Json.isDigit_digitOctet h, Json.digitValue_digitOctet h]

theorem numberIn_decimalOctets (n : Nat) : numberIn (Json.decimalOctets n) = n := by
  induction n using Nat.strongRecOn with
  | ind n ih =>
      by_cases small : n < 10
      · rw [Json.decimalOctets_of_lt small]
        simpa [numberIn] using numberIn_append_digit [] small
      · have last := numberIn_append_digit (Json.decimalOctets (n / 10))
          (Nat.mod_lt n (by decide : 0 < 10))
        rw [Json.decimalOctets_of_le (Nat.le_of_not_lt small), last, ih (n / 10) (by omega)]
        omega

/-- The answer to a compaction tells how many entries were dropped. -/
theorem numberIn_deletedBody (deleted : Nat) :
    numberIn (json 200 (deletedBody deleted)).body = deleted := by
  have opening : (Utf8.encode "\x7b").filter Json.isDigit = [] := by decide
  have name : (Utf8.encode (Json.printText "deleted")).filter Json.isDigit = [] := by
    decide +kernel
  have colon : (Utf8.encode ":").filter Json.isDigit = [] := by decide
  have closing : (Utf8.encode "\x7d").filter Json.isDigit = [] := by decide
  have digits : toString (deleted : Int) = deleted.repr := rfl
  have same := numberIn_decimalOctets deleted
  simp only [json, deletedBody, Json.Value.encode, Json.Value.print, Json.Value.printMembers,
    Json.commaSeparated, String.intercalate_singleton, digits, Utf8.encode_append,
    Json.encode_repr, numberIn, List.filter_append, opening, name, colon, closing,
    List.nil_append, List.append_nil] at same ⊢
  exact same

end Admin

namespace Simulation
namespace Service

open Admin (AppendRequest AtDesk CompactRequest Exchange Incoming Route)
open Store (Database Moment Operation TransactionId shelve)

variable {s s' : Service} {incoming : Incoming} {response : Http.Response}

/-! ## Outcomes -/

/-- Whether neither the database nor the wake signal was touched. -/
structure Untouched (s s' : Service) : Prop where
  database_eq : s'.database = s.database
  wake_eq : s'.wake = s.wake

/-- What can come of a request. -/
inductive Outcome (s : Service) (incoming : Incoming) : Http.Response → Service → Prop
  | appended {request : AppendRequest} {event : Event} {id : EntryId} {s' : Service}
      (posts : incoming.Posts .append)
      (read : AppendRequest.record.decode incoming.body = .ok request)
      (decoded : Event.decode request.action request.version request.payload.encode = .ok event)
      (published : s.database.run (Store.serveIntake
        (.publish event.action request.version request.payload.encode)) = (.ok id, s'.database))
      (wake_eq : s'.wake = s.wake.notify) :
      Outcome s incoming (Admin.json 201 (Admin.appendedBody id)) s'
  | compacted {request : CompactRequest} {deleted : Nat} {s' : Service}
      (posts : incoming.Posts .compact)
      (read : CompactRequest.record.decode incoming.body = .ok request)
      (positive : 1 ≤ request.count)
      (removed : s.database.run (Store.serve (.removeOldest request.count)) =
        (.ok deleted, s'.database))
      (wake_eq : s'.wake = s.wake.notify) :
      Outcome s incoming (Admin.json 200 (Admin.deletedBody deleted)) s'
  | untouched {response : Http.Response} {s' : Service}
      (unable : response.status ≠ 500)
      (told_nothing : ¬Exchange.Creates ⟨incoming, response⟩ ∧
        ¬Exchange.Compacts ⟨incoming, response⟩)
      (same : Untouched s s') : Outcome s incoming response s'

/-- A call on the outbox is served by the database, and a signal is given. -/
theorem attend_mutate_outbox (s : Service) (call : Outbox.Call TransactionId) :
    s.attend (Broker.mutate (Admin.outboxCall call)) =
      ((s.database.run (Store.serve call)).1,
        { s with
          database := (s.database.run (Store.serve call)).2
          wake := s.wake.notify }) :=
  rfl

/-- A call that only reads gives no signal. -/
theorem attend_read (s : Service) (call : Outbox.Intake.Call) :
    s.attend (Broker.read (Admin.intakeCall call)) =
      ((s.database.run (Store.serveIntake call)).1,
        { s with database := (s.database.run (Store.serveIntake call)).2 }) :=
  rfl

/-- Without faults, the state of the outbox is told. -/
theorem attend_stats (works : s.database.Works) (room : s.database.HasRoom) :
    s.attend Admin.stats = (Admin.json 200 s.database.stats.toJson, s) := by
  rw [Admin.stats, attend_bind, attend_read, Store.Database.run_stats works room]
  rfl

/-- A refusal tells of no change, and is none of the service's faults. -/
theorem Outcome.refused (refused : response.status ∈ refusals) (same : Untouched s s') :
    Outcome s incoming response s' := by
  have status_ne (status : Http.Status) (other : status ∉ refusals) : response.status ≠ status :=
    fun same => other (same ▸ refused)
  refine .untouched (status_ne 500 (by decide)) ⟨fun creates => ?_, fun compacts => ?_⟩ same
  · exact status_ne 201 (by decide) creates.2
  · exact status_ne 200 (by decide) compacts.2

/-- A request that cannot be carried out is refused. -/
theorem outcome_fail (reason : String) :
    Outcome s incoming (s.attend (Admin.fail (.validation reason))).1
      (s.attend (Admin.fail (.validation reason))).2 := by
  refine .refused ?_ ⟨rfl, rfl⟩
  rw [attend_fail]
  exact List.mem_of_elem_eq_true rfl

theorem outcome_append (works : s.database.Works) (room : s.database.HasRoom)
    (numbered : s.database.Numbered) (posts : incoming.Posts .append) {request : AppendRequest}
    (read : AppendRequest.record.decode incoming.body = .ok request) :
    Outcome s incoming (s.attend (Admin.append request)).1 (s.attend (Admin.append request)).2 := by
  rw [Admin.append]
  cases decoded : Event.decode request.action request.version request.payload.encode with
  | error error => exact outcome_fail error.message
  | ok event =>
      have published := Store.Database.run_publish event.action request.version
        request.payload.encode works room numbered
      simp only []
      rw [attend_bind, attend_mutate, published]
      exact .appended posts read decoded published rfl

theorem outcome_compact (works : s.database.Works) (room : s.database.HasRoom)
    (posts : incoming.Posts .compact) {request : CompactRequest}
    (read : CompactRequest.record.decode incoming.body = .ok request) :
    Outcome s incoming (s.attend (Admin.compact request)).1
      (s.attend (Admin.compact request)).2 := by
  rw [Admin.compact]
  by_cases few : request.count < 1
  · rw [if_pos few]
    exact outcome_fail "count must be at least 1"
  · have removed := Store.Database.run_removeOldest works room (by omega : 0 ≤ request.count)
    rw [if_neg few, attend_bind, attend_mutate_outbox, removed]
    exact .compacted posts read (by omega) removed rfl

/-- A body that is refused changes nothing. -/
theorem outcome_withBody {γ : Type} {record : Json.Record γ}
    {handle : γ → AtDesk TransactionId Http.Response}
    (accepted : ∀ request, record.decode incoming.body = .ok request →
      Outcome s incoming (s.attend (handle request)).1 (s.attend (handle request)).2) :
    Outcome s incoming (s.attend (Admin.withBody record incoming handle)).1
      (s.attend (Admin.withBody record incoming handle)).2 := by
  rw [Admin.withBody]
  cases read : Admin.requested record incoming with
  | ok request => exact accepted request (decode_of_requested read)
  | error response => exact .refused (status_of_requested read) ⟨rfl, rfl⟩

/-- What is not posted tells of no change. -/
theorem Outcome.viewed (views : incoming.method ≠ .post) (able : response.status ≠ 500)
    (same : Untouched s s') : Outcome s incoming response s' :=
  .untouched able ⟨fun creates => views creates.1.1, fun compacts => views compacts.1.1⟩ same

/-- What a request on a route brings about. -/
theorem outcome_onRoute (works : s.database.Works) (room : s.database.HasRoom)
    (numbered : s.database.Numbered) {route : Route}
    (led : route.path = Admin.barePath incoming.path)
    (allowed : incoming.method ∈ route.methods) :
    Outcome s incoming
      (Admin.trimmed incoming.method (s.attend (Admin.onRoute route incoming)).1)
      (s.attend (Admin.onRoute route incoming)).2 := by
  have views (viewed : incoming.method ∈ [.get, .head]) : incoming.method ≠ .post := by
    rintro posted
    rw [posted] at viewed
    exact absurd viewed (by decide)
  have posts (posted : incoming.method ∈ [Http.Method.post]) : incoming.Posts route :=
    ⟨List.mem_singleton.mp posted, led.symm⟩
  have whole (posted : incoming.method ∈ [Http.Method.post]) (response : Http.Response) :
      Admin.trimmed incoming.method response = response := by
    simp [Admin.trimmed, List.mem_singleton.mp posted]
  have status_eq (response : Http.Response) :
      (Admin.trimmed incoming.method response).status = response.status := by
    unfold Admin.trimmed
    split <;> rfl
  cases route with
  | health =>
      refine .viewed (views allowed) ?_ ⟨rfl, rfl⟩
      rw [status_eq]
      exact (by decide : (200 : Nat) ≠ 500)
  | stats =>
      rw [Admin.onRoute, attend_stats works room]
      refine .viewed (views allowed) ?_ ⟨rfl, rfl⟩
      rw [status_eq]
      exact (by decide : (200 : Nat) ≠ 500)
  | append =>
      rw [whole allowed]
      exact outcome_withBody fun request read =>
        outcome_append works room numbered (posts allowed) read
  | compact =>
      rw [whole allowed]
      exact outcome_withBody fun request read => outcome_compact works room (posts allowed) read

/-- What comes of a request, by its answer. -/
theorem outcome_answer (works : s.database.Works) (room : s.database.HasRoom)
    (numbered : s.database.Numbered) (incoming : Incoming) :
    Outcome s incoming (s.answer incoming).1 (s.answer incoming).2 := by
  rw [answer_eq, Admin.handle]
  cases found : Route.ofPath? (Admin.barePath incoming.path) with
  | none => exact .refused (by decide : (404 : Nat) ∈ refusals) ⟨rfl, rfl⟩
  | some route =>
      have led : route.path = Admin.barePath incoming.path := by
        simpa using List.find?_some found
      by_cases allowed : route.methods.contains incoming.method = true
      · simp only [allowed, if_true, attend_bind]
        exact outcome_onRoute works room numbered led (List.contains_iff_mem.mp allowed)
      · simp only [allowed]
        exact .refused (by decide : (405 : Nat) ∈ refusals) ⟨rfl, rfl⟩

/-! ## Accounts -/

/-- A service at a moment. -/
def atMoment (s : Service) (moment : Moment) : Service :=
  { s with database := s.database.atMoment moment }

/-- What the answer to a request accounts for. -/
structure Accounts (s : Service) (moment : Moment) (x : Exchange) (s' : Service) : Prop where
  /-- An answer of 201 to an event that was posted: one entry was added at its place. -/
  created : x.Creates → ∃ request event,
    AppendRequest.record.decode x.incoming.body = .ok request ∧
    Event.decode request.action request.version request.payload.encode = .ok event ∧
    x.response = Admin.json 201 (Admin.appendedBody moment.id) ∧
    s'.database.entries = shelve s.database.entries
      (moment.entry event.action request.version request.payload.encode) ∧
    s'.wake = s.wake.notify
  /-- An answer of 200 to a compaction: the oldest entries were dropped, as many as it tells. -/
  compacted : x.Compacts → ∃ request,
    CompactRequest.record.decode x.incoming.body = .ok request ∧
    1 ≤ request.count ∧
    x.response = Admin.json 200 (Admin.deletedBody
      (min request.count.toNat s.database.entries.length)) ∧
    s'.database.entries = s.database.entries.drop request.count.toNat ∧
    s'.wake = s.wake.notify
  /-- Any other answer: nothing was done to the outbox, and no signal was given. -/
  untouched : ¬x.Creates → ¬x.Compacts → Untouched (s.atMoment moment) s'
  /-- A request that only looks does neither, whatever its answer. -/
  viewed : x.incoming.method = .get ∨ x.incoming.method = .head →
    Untouched (s.atMoment moment) s'
  /-- The service is never unable to answer. -/
  able : x.response.status ≠ 500

/-- A service without faults that no dispatcher listens to. -/
structure Calm (s : Service) : Prop where
  orderly : s.database.Orderly
  room : s.database.HasRoom
  away : s.wake.listener = .away

namespace Calm

variable {moment : Moment}

/-- A signal that no one waits for is stored. -/
theorem of_notify (calm : s.Calm) (orderly : s'.database.Orderly) (room : s'.database.HasRoom)
    (wake_eq : s'.wake = s.wake.notify) : s'.Calm := by
  refine ⟨orderly, room, ?_⟩
  rw [wake_eq, Dispatch.WakeSignal.notify_of_away calm.away]
  exact calm.away

theorem of_untouched (calm : s.Calm) (same : Untouched (s.atMoment moment) s') : s'.Calm := by
  obtain ⟨database_eq, wake_eq⟩ := same
  refine ⟨?_, ?_, wake_eq ▸ calm.away⟩
  · rw [database_eq]
    exact calm.orderly.atMoment moment
  · rw [database_eq]
    exact calm.room

/-- What a database told, its chronicle tells; if it left the drafts alone, there is room. -/
theorem of_perform (calm : s.Calm) {operation : Operation}
    (mirrors : s.database.Mirrors moment operation)
    {reply : Except StoreError operation.Answer} {db : Database}
    (ran : s.database.perform moment operation = (reply, db)) :
    s.database.chronicle.serve moment operation = (reply, db.chronicle) ∧ db.Orderly ∧
      (db.chronicle.drafts = s.database.chronicle.drafts → db.HasRoom) := by
  have capacity_eq := s.database.capacity_perform moment operation
  obtain ⟨served, orderly⟩ := mirrors
  rw [ran] at served orderly capacity_eq
  refine ⟨served, orderly, fun drafts_eq => ?_⟩
  have length_eq := congrArg List.length drafts_eq
  simp only [Database.chronicle, List.length_map] at length_eq
  rw [Database.HasRoom, length_eq, capacity_eq]
  exact calm.room

/-- An answer accounts for what comes of a request. -/
theorem accounts_of_outcome (calm : s.Calm) (fresh : moment.id ∉ s.database.known.map Entry.id)
    (outcome : Outcome (s.atMoment moment) incoming response s') :
    Accounts s moment ⟨incoming, response⟩ s' ∧ s'.Calm := by
  have unknown : moment.id ∉ s.database.chronicle.ids :=
    fun among => fresh (s.database.perm_ids.mem_iff.mp among)
  have posting {route : Route} (posts : incoming.Posts route) :
      ¬(incoming.method = .get ∨ incoming.method = .head) := by
    rw [posts.1]
    decide
  cases outcome with
  | @appended request event id _ posts read decoded published wake_eq =>
      obtain ⟨served, orderly, room⟩ := calm.of_perform
        (calm.orderly.mirrors_publish calm.room unknown) published
      obtain ⟨id_eq, chronicle_eq⟩ := Prod.mk.inj served
      obtain rfl : moment.id = id := Except.ok.inj id_eq
      have entries_eq := (congrArg Store.Chronicle.entries chronicle_eq).symm
      have drafts_eq := (congrArg Store.Chronicle.drafts chronicle_eq).symm
      constructor
      · exact ⟨fun _ => ⟨request, event, read, decoded, rfl, entries_eq, wake_eq⟩,
          fun compacts => absurd compacts (Exchange.not_compacts_of_posts posts),
          fun others => absurd ⟨posts, rfl⟩ others,
          fun views => absurd views (posting posts), (by decide : (201 : Nat) ≠ 500)⟩
      · exact calm.of_notify orderly (room drafts_eq) wake_eq
  | @compacted request deleted _ posts read positive removed wake_eq =>
      obtain ⟨served, orderly, room⟩ := calm.of_perform
        (calm.orderly.mirrors_removeOldest calm.room request.count) removed
      simp only [Store.Chronicle.serve, if_neg (by omega : ¬request.count < 0)] at served
      obtain ⟨deleted_eq, chronicle_eq⟩ := Prod.mk.inj served
      have told_eq := Except.ok.inj deleted_eq
      have entries_eq := (congrArg Store.Chronicle.entries chronicle_eq).symm
      have drafts_eq := (congrArg Store.Chronicle.drafts chronicle_eq).symm
      constructor
      · refine ⟨fun creates => absurd creates (Exchange.not_creates_of_posts posts),
          fun _ => ⟨request, read, positive, ?_, entries_eq, wake_eq⟩,
          fun _ others => absurd ⟨posts, rfl⟩ others,
          fun views => absurd views (posting posts), (by decide : (200 : Nat) ≠ 500)⟩
        exact congrArg (fun number => Admin.json 200 (Admin.deletedBody number)) told_eq.symm
      · exact calm.of_notify orderly (room drafts_eq) wake_eq
  | untouched able told_nothing same =>
      constructor
      · exact ⟨fun creates => absurd creates told_nothing.1,
          fun compacts => absurd compacts told_nothing.2, fun _ _ => same, fun _ => same, able⟩
      · exact calm.of_untouched same

/-- The answer to a new request accounts for what was done. -/
theorem accounts (calm : s.Calm) (fresh : moment.id ∉ s.database.known.map Entry.id)
    (incoming : Incoming) :
    Accounts s moment ⟨incoming, ((s.atMoment moment).answer incoming).1⟩
        ((s.atMoment moment).answer incoming).2 ∧
      ((s.atMoment moment).answer incoming).2.Calm :=
  calm.accounts_of_outcome fresh (outcome_answer (s := s.atMoment moment)
    (calm.orderly.atMoment moment).works calm.room calm.orderly.numbered incoming)

end Calm

/-! ## Books -/

/-- What happens at a service: a request is answered, or a stored signal is looked for. -/
inductive Visit
  | exchange (x : Exchange)
  | polled (found : Bool)
  deriving DecidableEq, Repr

namespace Visit

/-- How many entries were added, by the answers. -/
def added : List Visit → Nat
  | [] => 0
  | .polled _ :: told => added told
  | .exchange x :: told => if x.Creates then added told + 1 else added told

/-- How many entries were dropped, by the numbers in the answers. -/
def dropped : List Visit → Nat
  | [] => 0
  | .polled _ :: told => dropped told
  | .exchange x :: told =>
      if x.Compacts then dropped told + Admin.numberIn x.response.body else dropped told

/-- Whether an answer has told of a change since a signal was last looked for. -/
def due : List Visit → Bool
  | [] => false
  | .polled _ :: _ => false
  | .exchange x :: told => decide x.Creates || decide x.Compacts || due told

end Visit

open Visit

/-- All that has happened at a service, the last visit first, and what it came to. -/
structure Book where
  told : List Visit
  service : Service

namespace Book

/-- A request is answered at a moment. -/
def asked (book : Book) (moment : Moment) (incoming : Incoming) : Book :=
  let (response, s) := (book.service.atMoment moment).answer incoming
  ⟨.exchange ⟨incoming, response⟩ :: book.told, s⟩

/-- A stored signal is looked for, and taken. -/
def polled (book : Book) : Book :=
  let (found, s) := book.service.pollWake
  ⟨.polled found :: book.told, s⟩

end Book

/-- What can happen at a service one after the other. -/
inductive Served (first : Service) : Book → Prop
  | start : Served first ⟨[], first⟩
  | asked {book : Book} (served : Served first book) {moment : Moment}
      (fresh : moment.id ∉ book.service.database.known.map Entry.id) (incoming : Incoming) :
      Served first (book.asked moment incoming)
  | polled {book : Book} (served : Served first book) : Served first book.polled

/-- Whether the answers of a service agree with its state. -/
structure Balanced (first : Service) (book : Book) : Prop where
  calm : book.service.Calm
  balance : book.service.database.entries.length + dropped book.told =
    first.database.entries.length + added book.told
  signal : book.service.wake.stored = due book.told

namespace Balanced

variable {first : Service} {told : List Visit}

/-- An answer keeps the balance. -/
theorem exchange (balanced : Balanced first ⟨told, s⟩) {moment : Moment} {x : Exchange}
    (accounts : Accounts s moment x s') (calm : s'.Calm) :
    Balanced first ⟨.exchange x :: told, s'⟩ := by
  have stores : s.wake.notify.stored = true := by
    rw [Dispatch.WakeSignal.notify_of_away balanced.calm.away]
  have balance := balanced.balance
  by_cases creates : x.Creates
  · obtain ⟨request, event, -, -, told_eq, entries_eq, wake_eq⟩ := accounts.created creates
    have compacts : ¬x.Compacts := Exchange.not_compacts_of_posts creates.1
    refine ⟨calm, ?_, ?_⟩
    · have length_eq := congrArg List.length entries_eq
      rw [(Database.perm_shelve _ _).length_eq, List.length_cons] at length_eq
      simp only [dropped, added, creates, compacts, if_true, if_false] at balance ⊢
      omega
    · simp [due, wake_eq, stores, creates]
  · by_cases compacts : x.Compacts
    · obtain ⟨request, -, -, told_eq, entries_eq, wake_eq⟩ := accounts.compacted compacts
      refine ⟨calm, ?_, ?_⟩
      · have number_eq : Admin.numberIn x.response.body =
            min request.count.toNat s.database.entries.length := by
          rw [told_eq, Admin.numberIn_deletedBody]
        have length_eq := congrArg List.length entries_eq
        rw [List.length_drop] at length_eq
        simp only [dropped, added, creates, compacts, if_true, if_false] at balance ⊢
        omega
      · simp [due, wake_eq, stores, compacts]
    · obtain ⟨database_eq, wake_eq⟩ := accounts.untouched creates compacts
      refine ⟨calm, ?_, ?_⟩
      · have entries_eq : s'.database.entries = s.database.entries := database_eq ▸ rfl
        simpa only [dropped, added, creates, compacts, if_false, entries_eq] using balance
      · have stored_eq : s'.wake.stored = s.wake.stored := by rw [wake_eq]; rfl
        simpa [due, creates, compacts, stored_eq] using balanced.signal

/-- So does taking the signal. -/
theorem polled {book : Book} (balanced : Balanced first book) : Balanced first book.polled :=
  ⟨⟨balanced.calm.orderly, balanced.calm.room, balanced.calm.away⟩, balanced.balance, rfl⟩

end Balanced

variable {first : Service} {book : Book}

/-- Whatever happens at a service, its answers agree with its state. -/
theorem Served.balanced (calm : first.Calm) (quiet : first.wake.stored = false)
    (served : Served first book) : Balanced first book := by
  induction served with
  | start => exact ⟨calm, rfl, quiet⟩
  | asked served fresh incoming ih =>
      obtain ⟨accounts, still⟩ := ih.calm.accounts fresh incoming
      exact ih.exchange accounts still
  | polled served ih => exact ih.polled

/-- Who asks how the outbox stands is told so. -/
theorem answer_stats (works : s.database.Works) (room : s.database.HasRoom)
    (gets : incoming.method = .get) (path : Admin.barePath incoming.path = Route.path .stats) :
    (s.answer incoming).1 = Admin.json 200 s.database.stats.toJson := by
  have led : Route.ofPath? (Route.path .stats) = some .stats := by decide
  have allowed : Route.methods .stats |>.contains Http.Method.get := by decide
  rw [answer_eq, Admin.handle, path, led, gets]
  simp only [allowed, if_true, attend_bind, Admin.onRoute, attend_stats works room]
  rfl

/-- Whether the answers of a service tell of all that is done, and of nothing else. -/
structure Accounted (first : Service) (book : Book) : Prop where
  /-- Whatever is asked next, its answer accounts for what is done. -/
  answers {moment : Moment} (fresh : moment.id ∉ book.service.database.known.map Entry.id)
    (incoming : Incoming) :
    Accounts book.service moment
      ⟨incoming, ((book.service.atMoment moment).answer incoming).1⟩
      ((book.service.atMoment moment).answer incoming).2
  /-- Who asks how the outbox stands is told so. -/
  stats (moment : Moment) {incoming : Incoming} (gets : incoming.method = .get)
    (path : Admin.barePath incoming.path = Route.path .stats) :
    ((book.service.atMoment moment).answer incoming).1 =
      Admin.json 200 book.service.database.stats.toJson
  /-- What is pending was added and not dropped, by the answers. -/
  pending : book.service.database.stats.pending + dropped book.told =
    first.database.stats.pending + added book.told
  /-- A signal is stored just when a change was told since one was last looked for. -/
  signal : book.service.wake.stored = due book.told

/--
A service whose database meets no fault keeps its accounts, whatever is asked of it, as long as
no dispatcher listens.
-/
theorem Served.accounted (calm : first.Calm) (quiet : first.wake.stored = false)
    (served : Served first book) : Accounted first book := by
  have balanced := served.balanced calm quiet
  have still := balanced.calm
  refine ⟨fun fresh incoming => (still.accounts fresh incoming).1, ?_, ?_, balanced.signal⟩
  · exact fun moment incoming gets path => answer_stats (s := book.service.atMoment moment)
      (still.orderly.atMoment moment).works still.room gets path
  · have balance := balanced.balance
    rwa [Database.length_entries, Database.length_entries] at balance

/-! ## An example -/

/-- A request to drop entries. -/
def compaction (body : String) : Incoming where
  method := .post
  path := "/outbox/compact"
  fields := [⟨"content-type", "application/json"⟩]
  body := Utf8.encode body

/-- An event is posted, and too few entries are to be dropped. -/
def openedBook : Book :=
  (Book.asked ⟨[], start (Database.empty 0 1)⟩ ⟨5, ⟨0, 1⟩⟩ disordered).asked ⟨5, ⟨0, 2⟩⟩
    (compaction "\x7b\"count\": 0\x7d")

/-- The signal is taken, and more entries are to be dropped than there are. -/
def closedBook : Book :=
  openedBook.polled.asked ⟨3, ⟨0, 2⟩⟩ (compaction "\x7b\"count\": 7\x7d")

theorem served_closedBook : Served (start (Database.empty 0 1)) closedBook :=
  .asked (.polled (.asked (.asked .start (by decide) _) (by decide +kernel) _))
    (by decide +kernel) _

theorem accounted_of_closedBook :
    Accounted (start (Database.empty 0 1)) closedBook ∧
      added closedBook.told = 1 ∧ dropped closedBook.told = 1 ∧ due closedBook.told = true ∧
      due openedBook.told = true ∧ due openedBook.polled.told = false :=
  ⟨served_closedBook.accounted
    ⟨Database.orderly_empty 0 1, Nat.zero_lt_one, rfl⟩ rfl, by decide +kernel⟩

end Service
end Simulation
end OutboxRelay
