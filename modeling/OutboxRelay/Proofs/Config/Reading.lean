import OutboxRelay.Proofs.Config.Requirement
import OutboxRelay.Proofs.Json.Reading

/-!
# Configurations that are read

A configuration is read just when all requirements are met, and each of its parts is what the
text for a key denotes, or a default.

An error shows the text that it is about as it was given.  There is one exception: a limit of
attempts is compared with its bound only when it has been read, and the error shows the integer
then.

**Results.**
* `settles_ofLookup`: what is read from texts, and which error there is else.
* `shown_of_ofLookup`: what an error shows of the text that it is about.
* `not_shownAsGiven`: a limit that is not shown as it was given.
-/

namespace OutboxRelay
namespace Config

open Number (IntegerRange Spelling Spells)

/-! ## Texts of each kind -/

theorem parses_url : Demand.url.Parses url fun text value => Url.parse text = .ok value where
  parse_eq_ok_iff text value := by
    unfold url
    cases Url.parse text <;> simp [Except.mapError]
  isMetBy_some text := by simp [Demand.IsMetBy]
  isMetBy_none := by simp [Demand.IsMetBy]
  ne_presence := nofun

theorem parses_address :
    Demand.address.Parses address fun text value =>
      Net.SocketAddress.parse? text = some value where
  parse_eq_ok_iff text value := by
    unfold address
    cases Net.SocketAddress.parse? text <;> simp
  isMetBy_some text := by simp [Demand.IsMetBy]
  isMetBy_none := by simp [Demand.IsMetBy]
  ne_presence := nofun

theorem parses_integer {range : IntegerRange} {signed : Bool} {least greatest : Int}
    (read_iff : ∀ text n, range.parse text = .ok n ↔ Spells signed least greatest text n) :
    (Demand.integer signed least greatest).Parses (integer range)
      (Spells signed least greatest) where
  parse_eq_ok_iff text n := by
    rw [← read_iff]
    unfold integer
    cases range.parse text <;> simp [Except.mapError]
  isMetBy_some text := by simp [Demand.IsMetBy]
  isMetBy_none := by simp [Demand.IsMetBy]
  ne_presence := nofun

/-- Whether a text denotes a natural number of sixty-four bits. -/
def DenotesNatural (text : String) (n : Nat) : Prop :=
  Spells false 0 (2 ^ 64 - 1) text n

theorem parses_natural :
    (Demand.integer false 0 (2 ^ 64 - 1)).Parses natural DenotesNatural where
  parse_eq_ok_iff text n := by
    have read : (Demand.integer false 0 (2 ^ 64 - 1)).Parses (integer (.unsigned 64))
        (Spells false 0 (2 ^ 64 - 1)) :=
      parses_integer fun _ _ => IntegerRange.parse_unsigned_eq_ok_iff 64
    rw [DenotesNatural, ← read.parse_eq_ok_iff, natural]
    constructor
    · intro mapped
      obtain ⟨i, i_read, rfl⟩ := Json.exists_of_map mapped
      have least := ((read.parse_eq_ok_iff text i).mp i_read).least_le
      rw [i_read, Int.toNat_of_nonneg least]
    · intro i_read
      rw [i_read]
      rfl
  isMetBy_some text := by
    constructor
    · intro met
      obtain ⟨i, spells⟩ := met text rfl
      exact ⟨i.toNat, by rwa [DenotesNatural, Int.toNat_of_nonneg spells.least_le]⟩
    · rintro ⟨n, spells⟩
      exact fun _ same => ⟨n, Option.some.inj same ▸ spells⟩
  isMetBy_none := by simp [Demand.IsMetBy]
  ne_presence := nofun

/-! ## The limit of attempts -/

section Limit

variable {lookup : Lookup} {text : String} {n : Int}

/-- Whether a text denotes a limit of attempts. -/
def DenotesLimit (text : String) (limit : Option Int) : Prop :=
  ∃ n, Spells true 1 (2 ^ 31 - 1) text n ∧ some n = limit

theorem integer_eq_ok_iff :
    integer (.signed 32) text = .ok n ↔ Spells true (-2 ^ 31) (2 ^ 31 - 1) text n :=
  (parses_integer fun _ _ => IntegerRange.parse_signed_eq_ok_iff 32).parse_eq_ok_iff text n

/-- A limit that allows for an attempt is among the integers that are read. -/
theorem integer_of_spells (spells : Spells true 1 (2 ^ 31 - 1) text n) :
    integer (.signed 32) text = .ok n := by
  have least := spells.least_le
  exact integer_eq_ok_iff.mpr (spells.within (by omega) spells.le_greatest)

theorem isMet_limitRequirement_iff (given : lookup limitKey = some text) :
    limitRequirement.IsMet lookup ↔ ∃ n, Spells true 1 (2 ^ 31 - 1) text n := by
  simp [limitRequirement, Requirement.IsMet, Demand.IsMetBy, given]

/-- A text that denotes no limit leaves nothing to be read. -/
theorem judges_of_no_limit {error : ConfigError}
    (nothing : ∀ n, ¬Spells true 1 (2 ^ 31 - 1) text n) (given : lookup limitKey = some text)
    (complains : Complains lookup limitRequirement error) :
    Judges lookup [limitRequirement] (.error error) (DenotesLimit text) := by
  refine .of_unmet ?_ ?_ complains
  · rintro limit ⟨n, spells, -⟩
    exact nothing n spells
  · rw [isMet_limitRequirement_iff given]
    rintro ⟨n, spells⟩
    exact nothing n spells

/-- A limit that is given is read, and then has to allow for an attempt. -/
theorem judges_given_limit (given : lookup limitKey = some text) :
    Judges lookup [limitRequirement]
      ((parsed limitKey text (integer (.signed 32))).map some >>= attemptLimit)
      (DenotesLimit text) := by
  -- One requirement is judged in two places: the bound is looked at behind the reading, where
  -- the integer is left and its text is not.
  unfold parsed
  cases read : integer (.signed 32) text with
  | error reason =>
      have strange (n : Int) : ¬Spells true (-2 ^ 31) 0 text n := fun spells =>
        have greatest := spells.le_greatest
        nomatch read.symm.trans (integer_eq_ok_iff.mpr (spells.within spells.least_le (by omega)))
      have nothing (n : Int) : ¬Spells true 1 (2 ^ 31 - 1) text n := fun spells =>
        nomatch read.symm.trans (integer_of_spells spells)
      have other : limitRequirement.demand ≠ .presence := nofun
      exact judges_of_no_limit nothing given (.unread other given (fun _ => strange) reason)
  | ok n =>
      have spells := integer_eq_ok_iff.mp read
      have only {m : Int} (spells : Spells true 1 (2 ^ 31 - 1) text m) : n = m :=
        Except.ok.inj (read.symm.trans (integer_of_spells spells))
      change Judges lookup [limitRequirement] (attemptLimit (some n)) (DenotesLimit text)
      rw [attemptLimit]
      split
      case isTrue few =>
        have nothing (m : Int) : ¬Spells true 1 (2 ^ 31 - 1) text m := fun spells =>
          Int.not_lt.mpr spells.least_le (only spells ▸ few)
        have shown := spells.within spells.least_le (by omega : n ≤ 0)
        exact judges_of_no_limit nothing given (.tooFew given shown _)
      case isFalse enough =>
        have limit := spells.within (Int.not_lt.mp enough) spells.le_greatest
        have met := (isMet_limitRequirement_iff given).mpr ⟨n, limit⟩
        refine .of_met met fun value => ?_
        constructor
        · rintro ⟨m, spells, rfl⟩
          rw [only spells]
        · rintro rfl
          exact ⟨n, limit, rfl⟩

theorem judges_limit (lookup : Lookup) :
    Judges lookup [limitRequirement]
      (optional lookup limitKey (integer (.signed 32)) >>= attemptLimit)
      (StandsFor lookup limitKey DenotesLimit none) := by
  unfold optional
  cases given : lookup limitKey with
  | none =>
      have met : limitRequirement.IsMet lookup := by
        simp [limitRequirement, Requirement.IsMet, Demand.IsMetBy, given]
      refine .of_met met fun limit => ?_
      rw [standsFor_none given, eq_comm]
  | some text =>
      refine (judges_given_limit given).congr fun limit => ?_
      rw [standsFor_some given]

end Limit

/-! ## The configuration -/

/-- What a configuration that is read has to do with the texts. -/
structure Describes (lookup : Lookup) (config : Config) : Prop where
  databaseUrl : lookup "DATABASE_URL" = some config.databaseUrl
  downstreamUrl : ∃ text, lookup "VULNDB_URL" = some text ∧
    Url.parse text = .ok config.downstreamUrl
  listenAddress : StandsFor lookup "LISTEN_ADDR"
    (fun text value => Net.SocketAddress.parse? text = some value)
    (.v4 (.ofOctets [0, 0, 0, 0]) 3000) config.listenAddress
  downstreamTimeout : StandsFor lookup "VULNDB_TIMEOUT_SECS" DenotesNatural 30
    config.downstreamTimeout
  lockId : StandsFor lookup "OUTBOX_LOCK_ID" (Spells true (-2 ^ 63) (2 ^ 63 - 1)) 1000
    config.dispatch.lockId
  startupDelay : StandsFor lookup "OUTBOX_STARTUP_DELAY_MS" DenotesNatural 5000
    config.dispatch.startupDelay
  retryDelay : StandsFor lookup "OUTBOX_RETRY_DELAY_MS" DenotesNatural 10000
    config.dispatch.retryDelay
  maxAttempts : StandsFor lookup limitKey DenotesLimit none config.dispatch.maxAttempts

theorem judges_ofLookup (lookup : Lookup) :
    Judges lookup requirements (ofLookup lookup) (Describes lookup) := by
  let absent := Dispatch.Settings.default
  have whole :=
    (judges_required lookup "DATABASE_URL").bind fun databaseUrl _ =>
    (judges_required lookup "VULNDB_URL").bind fun text given =>
    (judges_parsed parses_url given (by decide)).bind fun downstreamUrl _ =>
    (judges_withDefault lookup "LISTEN_ADDR" parses_address defaultAddress (by decide)).bind
      fun listenAddress _ =>
    (judges_withDefault lookup "VULNDB_TIMEOUT_SECS" parses_natural defaultTimeout
      (by decide)).bind fun timeout _ =>
    (judges_withDefault lookup "OUTBOX_LOCK_ID"
      (parses_integer fun _ _ => IntegerRange.parse_signed_eq_ok_iff 64) absent.lockId
      (by decide)).bind fun lockId _ =>
    (judges_withDefault lookup "OUTBOX_STARTUP_DELAY_MS" parses_natural absent.startupDelay
      (by decide)).bind fun startupDelay _ =>
    (judges_withDefault lookup "OUTBOX_RETRY_DELAY_MS" parses_natural absent.retryDelay
      (by decide)).bind fun retryDelay _ =>
    (judges_limit lookup).bind fun maxAttempts _ =>
    Judges.done lookup (Config.mk databaseUrl listenAddress downstreamUrl timeout
      ⟨lockId, startupDelay, retryDelay, maxAttempts⟩)
  -- The limit is judged together with its bound, which are two steps of the reading.
  simp only [bind_assoc] at whole
  refine whole.congr fun config => ?_
  constructor
  · rintro ⟨_, databaseUrl, text, given, _, url_read, _, listenAddress, _, timeout, _, lockId, _,
      startupDelay, _, retryDelay, _, maxAttempts, rfl⟩
    exact ⟨databaseUrl, ⟨text, given, url_read⟩, listenAddress, timeout, lockId, startupDelay,
      retryDelay, maxAttempts⟩
  · intro described
    obtain ⟨text, given, url_read⟩ := described.downstreamUrl
    exact ⟨_, described.databaseUrl, text, given, _, url_read, _, described.listenAddress, _,
      described.downstreamTimeout, _, described.lockId, _, described.startupDelay, _,
      described.retryDelay, _, described.maxAttempts, rfl⟩

/-- Whether an error names a requirement: by its key, and by what is wrong with its text. -/
inductive Names : ConfigError → Requirement → Prop
  | missing (key : String) : Names (.missing key) ⟨key, .presence⟩
  | invalid (key value reason : String) {demand : Demand} (other : demand ≠ .presence) :
      Names (.invalid key value reason) ⟨key, demand⟩

theorem Complains.names {lookup : Lookup} {requirement : Requirement} {error : ConfigError}
    (complains : Complains lookup requirement error) : Names error requirement := by
  cases complains with
  | missing key => exact .missing key
  | unread other given strange reason => exact .invalid _ _ reason other
  | tooFew given spells reason => exact .invalid limitKey _ reason nofun

/-- Texts that agree on the keys of all requirements are read alike. -/
theorem ofLookup_congr {lookup lookup' : Lookup}
    (same : ∀ each ∈ requirements, lookup' each.key = lookup each.key) :
    ofLookup lookup' = ofLookup lookup := by
  simp only [requirements, limitRequirement, List.forall_mem_cons] at same
  obtain ⟨database, url, -, address, timeout, lockId, startup, retry, limit, -⟩ := same
  simp only [ofLookup, required, withDefault, optional, database, url, address, timeout, lockId,
    startup, retry, limit]

/-- How texts and the configuration that is read from them belong together. -/
structure Settles (lookup : Lookup) : Prop where
  /-- There is a configuration just when all requirements are met. -/
  accepted_iff : (∃ config, ofLookup lookup = .ok config) ↔
    ∀ each ∈ requirements, each.IsMet lookup
  /-- Each part of it is what its text denotes, or the default. -/
  ok_iff (config : Config) : ofLookup lookup = .ok config ↔ Describes lookup config
  /-- Else the error names the first requirement that is not met. -/
  refused {error : ConfigError} (read : ofLookup lookup = .error error) :
    ∃ requirement, IsFirstUnmet lookup requirements requirement ∧ Names error requirement
  /-- Texts for other keys do not count. -/
  alike {lookup' : Lookup} (same : ∀ each ∈ requirements, lookup' each.key = lookup each.key) :
    ofLookup lookup' = ofLookup lookup

/-- Texts settle the configuration, or the first requirement that they do not meet. -/
theorem settles_ofLookup (lookup : Lookup) : Settles lookup := by
  have judges := judges_ofLookup lookup
  refine ⟨judges.exists_ok_iff, judges.ok_iff, fun read => ?_, ofLookup_congr⟩
  obtain ⟨requirement, first, complains⟩ := judges.refused read
  exact ⟨requirement, first, complains.names⟩

/-! ## What errors show -/

/-- Whether a text is a limit that does not allow for one attempt, and is not spelled plainly. -/
def IsRespelled (key text : String) : Prop :=
  key = limitKey ∧ ∃ spelling : Spelling, spelling.text = text ∧ -2 ^ 31 ≤ spelling.value ∧
    spelling.value < 1 ∧ ¬spelling.IsPlain

/-- What an error shows of a text that is given for a key. -/
structure Shows (key text value : String) : Prop where
  /-- It shows the text, unless that is respelled. -/
  asGiven_iff : value = text ↔ ¬IsRespelled key text
  /-- Of a text that is respelled it shows the integer. -/
  printed (respelled : IsRespelled key text) {spelling : Spelling} (own : spelling.text = text) :
    value = toString spelling.value

theorem Complains.exists_shows {lookup : Lookup} {requirement : Requirement}
    {key value reason : String}
    (complains : Complains lookup requirement (.invalid key value reason)) :
    ∃ text, lookup key = some text ∧ Shows key text value := by
  cases complains with
  | unread other given strange =>
      have plain : ¬IsRespelled key value := by
        rintro ⟨own_key, s, text_eq, least, few, -⟩
        exact strange own_key s.value
          ⟨s, text_eq, rfl, fun _ => rfl, least, Int.lt_add_one_iff.mp few⟩
      exact ⟨value, given, iff_of_true rfl plain, fun respelled => absurd respelled plain⟩
  | tooFew given spells =>
      obtain ⟨s, rfl, rfl, -, least, greatest⟩ := spells
      refine ⟨s.text, given, ?_, ?_⟩
      · rw [s.toString_value_iff]
        constructor
        · rintro plain ⟨-, t, same, -, -, respelled⟩
          exact respelled (plain.of_text_eq same.symm)
        · intro plain
          by_contra respelled
          exact plain ⟨rfl, s, rfl, least, Int.lt_add_one_iff.mpr greatest, respelled⟩
      · intro _ t same
        rw [Spelling.value_eq_of_text_eq same]

/-- An error shows a text as it was given, unless it is a limit that is respelled. -/
theorem shown_of_ofLookup {lookup : Lookup} {key value reason : String}
    (read : ofLookup lookup = .error (.invalid key value reason)) :
    ∃ text, lookup key = some text ∧ Shows key text value := by
  obtain ⟨requirement, -, complains⟩ := (judges_ofLookup lookup).refused read
  exact complains.exists_shows

/-- Texts with a limit of attempts. -/
def limited (limit : String) : Lookup :=
  fun key => [("DATABASE_URL", "postgres://localhost/outbox"), ("VULNDB_URL", "http://[::1]/"),
    (limitKey, limit)].lookup key

theorem ofLookup_limited_zero :
    ofLookup (limited "+0") = .error (.invalid limitKey "0" "must be at least 1") := by
  decide +kernel

theorem ofLookup_limited_negative :
    ofLookup (limited "-007") = .error (.invalid limitKey "-7" "must be at least 1") := by
  decide +kernel

/-- A limit of no attempts with a plus sign is not shown as it was given. -/
theorem not_shownAsGiven :
    ofLookup (limited "+0") = .error (.invalid limitKey "0" "must be at least 1") ∧
      limited "+0" limitKey = some "+0" ∧
      ¬∀ (lookup : Lookup) (key value reason : String),
        ofLookup lookup = .error (.invalid key value reason) → lookup key = some value := by
  have given : limited "+0" limitKey = some "+0" := by decide
  refine ⟨ofLookup_limited_zero, given, fun asGiven => ?_⟩
  have shown := asGiven _ _ _ _ ofLookup_limited_zero
  rw [given] at shown
  exact absurd shown (by decide)

/-- A negative limit that zeros lead is shown without them. -/
theorem shown_of_limited_negative :
    ofLookup (limited "-007") = .error (.invalid limitKey "-7" "must be at least 1") ∧
      limited "-007" limitKey = some "-007" ∧
      ∃ text, limited "-007" limitKey = some text ∧ Shows limitKey text "-7" :=
  ⟨ofLookup_limited_negative, by decide, shown_of_ofLookup ofLookup_limited_negative⟩

end Config
end OutboxRelay
