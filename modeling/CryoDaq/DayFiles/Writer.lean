import CryoDaq.DayFiles.Readings
import CryoDaq.Sqlite.Rules

/-!
# The writer of the daily files

A writer is a task.  It keeps a connection to the file of one day, serves one call after another,
and notes what it was asked and what it answered.

**A day.**  `writeDayBatch` writes the readings of one day in one transaction, together with the
catalog when the connection has not installed it yet.  It tries again while the file is locked, and
gives up when the lock lasts.

**A batch.**  `writeBatch` groups by the day on the clock face of each reading and goes on after a
day that failed; `writeLiveBatch` groups by UTC days and stops there.

**A catalog.**  `installCatalog` runs inside the transaction of its caller or in its own.
-/

namespace CryoDaq
namespace DayFiles

open ObjectGraph Storage Channels Async Sqlite
open Acquisition (ChannelStatus)

variable {p : Platform}

structure WriterCatalog (p : Platform) where
  catalog : ChannelCatalog p
  snapshot : ∃ source : ChannelCatalog p, snapshotCatalog source = .ok catalog

/-- A `DescriptorBoundReading`; `intact` is whether its owner issued it and nobody changed it. -/
structure BoundSample (p : Platform) where
  sample : Sample
  descriptor : ChannelDescriptorV1 p
  intact : Bool

inductive Request (p : Platform)
  | writeBatch (batch : List Sample)
  | writeLiveBatch (batch : List (BoundSample p))
  | installCatalog (day : ℤ) (catalog : ChannelCatalog p)

inductive Answered
  | persisted
  | notPersisted
  | raised (e : Raised)

inductive Note (p : Platform)
  | asked (call : ℕ × ℕ) (request : Request p)
  | answered (call : ℕ × ℕ) (answer : Answered)

/-- The fields of a `SQLiteWriter`: how many calls it was asked, the day and the number of its
connection, how many connections it has opened, and the rest under the names of the source. -/
structure Fields where
  calls : ℕ := 0
  connection : Option (ℤ × ℕ) := none
  connections : ℕ := 0
  descriptorCatalogInstalled : Bool := false
  descriptorConnectionGuard : Option ℕ := none
  diskFull : Bool := false
  lockedFailureCount : ℕ := 0
  lockedFailureFirst : Float := 0
  checkpointCounter : ℕ := 0

/-- The machine: local time, the catalogs of its writers, and for how many attempts the run of a
writer on one day is followed. -/
structure Site (p : Platform) where
  localTimestamp : ℤ → Float
  catalog : ℕ → Option (WriterCatalog p)
  attempts : ℕ

abbrev Db (p : Platform) (α : Type) := Sql ℤ DayFile (Note p) Fields Raised α

/-- `sqlite3.OperationalError` -/
def Raised.isOperational : Raised → Bool
  | .diskFull => true
  | .locked _ => true
  | .operational => true
  | _ => false

def fields (t : ℕ) : Db p Fields := Coro.read >>= fun s => pure (s.world.memory t)

def assign (t : ℕ) (f : Fields → Fields) : Db p Unit :=
  Coro.update fun s => s.assigned t (f (s.world.memory t))

/-- A commit by a connection of the writer: after an error nobody knows whether it took place. -/
def commitConnection (c : Connection) (d : ℤ) : Db p Unit := do
  match ← Coro.attempt (Sqlite.commit c d) with
  | .ok () => return ()
  | .error _ => Coro.raise (.runtime "SQLite commit outcome is unknown")

/-- `_load_envelopes` and `PRAGMA foreign_key_check` -/
def verifyStorage (p : Platform) (message : String) (f : DayFile) : Except Raised Unit := do
  let _ ← loadEnvelopes (p := p) f.descriptors
  ensure (ForeignKeys f.descriptors f.readings) (.storage message none)

/-! ## Installing a catalog -/

def installDescriptors (c : Connection) (d : ℤ) : List (ChannelDescriptorV1 p) → Db p Unit
  | [] => pure ()
  | descriptor :: rest => do
      let envelope ← Coro.ofExcept ((fromDescriptor descriptor).mapError .envelope)
      let row := rowOfEnvelope envelope
      let prior ← query c d fun f => priorRow row f.descriptors
      if prior then installDescriptors c d rest
      else do
        execute c d fun f => do
          let descriptors ← insertRow row f.descriptors
          return { f with descriptors }
        installDescriptors c d rest

/-- The part of `install_catalog` that a transaction covers, but for its beginning and its end. -/
def installBody (c : Connection) (d : ℤ) (configured : ChannelCatalog p) : Db p Unit := do
  query c d fun f => checkInstall configured f.descriptors
  installDescriptors c d configured.descriptors
  query c d fun f => ensure (ForeignKeys f.descriptors f.readings)
    (.storage "descriptor catalog foreign-key check failed" none)
  query c d fun f => (loadEnvelopes (p := p) f.descriptors).map fun _ => ()

def installCatalog (c : Connection) (d : ℤ) (catalog : ChannelCatalog p)
    (withinTransaction : Bool) : Db p Unit := do
  touch c d .nothing
  let configured ← Coro.ofExcept ((snapshotCatalog catalog).mapError .envelope)
  let s ← Coro.read
  if withinTransaction ≠ s.inTransaction c d then
    Coro.raise (.storage "catalog transaction ownership mismatch" none)
  else if withinTransaction then installBody c d configured
  else do
    let result ← Coro.attempt do
      Sqlite.begin c d
      installBody c d configured
      commitConnection c d
    match result with
    | .error e => do
        rollback c d
        Coro.raise e
    | .ok () => query c d fun f => (loadEnvelopes (p := p) f.descriptors).map fun _ => ()

/-- `str in text` -/
def mentions (text word : String) : Bool := (text.splitOn word).length ≠ 1

/-- The reason that is given for a database that cannot be opened. -/
def safeReason : Raised → Raised
  | .storage message _ =>
      let text := lower message
      let category := (["corrupt", "trigger", "table"].find? (mentions text)).getD "invalid"
      .storage ("channel descriptor storage " ++ category) none
  | _ => .runtime "daily database authority is unavailable"

def logged (m : Db p Unit) : Db p Unit := do
  match ← Coro.attempt m with
  | .error e => if e.isOperational then pure () else Coro.raise e
  | .ok () => pure ()

/-- The end of a connection: what it raises is only logged. -/
def closeConnection (t n : ℕ) (day : ℤ) : Db p Unit := do
  logged do
    touch (t, n) day .idle
    commitConnection (t, n) day
  let _ ← Coro.attempt (rollback (t, n) day)
  assign t fun self =>
    { self with
      connection := none
      descriptorCatalogInstalled := false
      descriptorConnectionGuard := none }

def openConnection (t : ℕ) (day : ℤ) : Db p ℕ := do
  let self ← fields t
  let n := self.connections
  assign t fun self => { self with connections := self.connections + 1 }
  let result ← Coro.attempt do
    Sqlite.begin (t, n) day
    commitConnection (t, n) day
    query (t, n) day (verifyStorage p "descriptor storage foreign-key check failed")
  match result with
  | .error e => do
      let _ ← Coro.attempt (rollback (t, n) day)
      Coro.raise (safeReason e)
  | .ok () => do
      assign t fun self =>
        { self with
          connection := some (day, n)
          descriptorCatalogInstalled := false
          descriptorConnectionGuard := none }
      return n

def ensureConnection (t : ℕ) (day : ℤ) : Db p ℕ := do
  let self ← fields t
  match self.connection with
  | some (current, n) =>
      if current = day then return n
      else do
        closeConnection t n current
        openConnection t day
  | none => openConnection t day

/-- `_descriptor_guard_state`; the schema of a file never changes. -/
def descriptorGuardState (c : Connection) (d : ℤ) : Db p ℕ := do
  touch c d .nothing
  let s ← Coro.read
  return s.dataVersion c d

def verifyDescriptorWriteBoundary (t n : ℕ) (d : ℤ) (catalog : Option (WriterCatalog p)) :
    Db p Unit :=
  match catalog with
  | none => pure ()
  | some _ => do
      let current ← descriptorGuardState (t, n) d
      let self ← fields t
      if self.descriptorConnectionGuard = some current then return ()
      else do
        query (t, n) d (verifyStorage p "descriptor storage foreign-key check failed")
        let guard ← descriptorGuardState (t, n) d
        assign t fun self => { self with descriptorConnectionGuard := some guard }

/-- The catalog goes into the file with the first readings of a connection. -/
def installFirst (c : Connection) (d : ℤ) (installed : Bool) :
    Option (WriterCatalog p) → Db p Unit
  | some catalog => if installed then pure () else installCatalog c d catalog.catalog true
  | none => pure ()

def commitDay (t n : ℕ) (d : ℤ) : Option (WriterCatalog p) → Db p Unit
  | some _ => do
      let guard ← descriptorGuardState (t, n) d
      commitConnection (t, n) d
      assign t fun self =>
        { self with
          descriptorCatalogInstalled := true
          descriptorConnectionGuard := some guard }
  | none => commitConnection (t, n) d

/-- The transaction of `_write_day_batch`. -/
def dayTransaction (t n : ℕ) (d : ℤ) (catalog : Option (WriterCatalog p)) (installed : Bool)
    (rows : List ReadingRow) : Db p Unit := do
  Sqlite.begin (t, n) d
  verifyDescriptorWriteBoundary t n d catalog
  installFirst (t, n) d installed catalog
  execute (t, n) d (insertReadings rows)
  commitDay t n d catalog
  assign t fun self => { self with lockedFailureCount := 0 }

def lockedFailureThreshold : ℕ := 3

/-- `_LOCKED_FAILURE_SPAN_S` -/
def lockedFailureSpan : Float := 15.0

/-- The fields after a failure because of a lock. -/
def Fields.locked (self : Fields) (now : Float) : Fields :=
  { self with
    lockedFailureFirst := if self.lockedFailureCount = 0 then now else self.lockedFailureFirst
    lockedFailureCount := self.lockedFailureCount + 1 }

def Fields.sustained (self : Fields) (now : Float) : Bool :=
  lockedFailureThreshold ≤ self.lockedFailureCount &&
    lockedFailureSpan ≤ now - self.lockedFailureFirst

/-- The loop of `_write_day_batch`. -/
def dayAttempts (t n : ℕ) (d : ℤ) (catalog : Option (WriterCatalog p)) (installed : Bool)
    (rows : List ReadingRow) : ℕ → Db p Bool
  | 0 => hang (t, n) d (.runtime "")
  | attempts + 1 => do
      match ← Coro.attempt (dayTransaction t n d catalog installed rows) with
      | .ok () => return true
      | .error e => do
          rollback (t, n) d
          match e with
          | .diskFull => do
              assign t fun self => { self with diskFull := true }
              return false
          | .locked now => do
              assign t fun self => self.locked now
              let self ← fields t
              if self.sustained now then return false
              else dayAttempts t n d catalog installed rows attempts
          | e => Coro.raise e

/-- `PRAGMA wal_checkpoint(PASSIVE)`, once in sixty batches. -/
def passiveCheckpoint (t n : ℕ) (d : ℤ) : Db p Unit := do
  assign t fun self => { self with checkpointCounter := self.checkpointCounter + 1 }
  let self ← fields t
  if 60 ≤ self.checkpointCounter then do
    logged (touch (t, n) d .nothing)
    assign t fun self => { self with checkpointCounter := 0 }
  else pure ()

variable (site : Site p)

def Site.bindings (t : ℕ) : Option (ChannelCatalog p) := (site.catalog t).map fun c => c.catalog

def writeDayBatch (t n : ℕ) (d : ℤ) (call : ℕ × ℕ) (batch : List Sample) : Db p Bool := do
  let rows ← Coro.ofExcept (dayRows site.localTimestamp (site.bindings t) call batch)
  if rows.isEmpty then return true
  else do
    let self ← fields t
    let persisted ← dayAttempts t n d (site.catalog t) self.descriptorCatalogInstalled rows
      site.attempts
    if persisted then passiveCheckpoint t n d
    return persisted

/-- `by_day`, sorted. -/
def byDay (day : Sample → ℤ) (batch : List Sample) : List (ℤ × List Sample) :=
  (Dict.grouped day batch).entries.insertionSort fun a b => a.1 ≤ b.1

/-- `timestamp.date()` -/
def faceDay (r : Sample) : ℤ := calendarDay r.timestamp.face

def utcDay (r : Sample) : ℤ := calendarDay r.timestamp.instant

/-- The loop of `_write_batch`. -/
def writeDays (t : ℕ) (call : ℕ × ℕ) : List (ℤ × List Sample) → Db p Bool
  | [] => return true
  | (day, batch) :: rest => do
      let n ← ensureConnection t day
      let written ← writeDayBatch site t n day call batch
      let persisted ← writeDays t call rest
      return written && persisted

def writeBatch (t : ℕ) (call : ℕ × ℕ) (batch : List Sample) : Db p Bool :=
  if batch.isEmpty then return true else writeDays site t call (byDay faceDay batch)

/-- `owner.owns(item)` -/
def ownsSample (catalog : ChannelCatalog p) (item : BoundSample p) : Bool :=
  item.intact &&
    match catalog.byChannelId.get? item.descriptor.channelId with
    | some d => decide (d.canonicalJson.data = item.descriptor.canonicalJson.data)
    | none => false

/-- A reading as it is stored: under the channel of its descriptor. -/
def BoundSample.stable (item : BoundSample p) : Sample :=
  { item.sample with channel := item.descriptor.channelId }

def checkLiveBatch (catalog : Option (WriterCatalog p)) (batch : List (BoundSample p)) :
    Except Raised Unit :=
  match catalog with
  | none => .error (.runtime "descriptor-authoritative commit requires a live catalog owner")
  | some c => do
      ensure (batch ≠ []) (.value "descriptor-authoritative commit requires a non-empty batch")
      ensure (batch.all (ownsSample c.catalog))
        (.runtime "descriptor-authoritative admission contains foreign or changed bindings")
      batch.forM fun item =>
        match item.sample.value with
        | none => .error (.type "must be real number, not NoneType")
        | some v => do
            ensure (v.isFinite ∨ item.sample.status ≠ .ok)
              (.value "descriptor-authoritative batch contains non-finite OK reading")
            ensure (isSentinel v = false ∨ item.sample.status ≠ .ok)
              (.value "descriptor-authoritative batch contains sentinel OK reading")

/-- The loop of `_write_live_batch`. -/
def writeLiveDays (t : ℕ) (call : ℕ × ℕ) : List (ℤ × List Sample) → Db p Bool
  | [] => return true
  | (day, batch) :: rest => do
      let n ← ensureConnection t day
      let written ← writeDayBatch site t n day call batch
      if written then writeLiveDays t call rest else return false

def writeLiveBatch (t : ℕ) (call : ℕ × ℕ) (batch : List (BoundSample p)) : Db p Bool := do
  Coro.ofExcept (checkLiveBatch (site.catalog t) batch)
  writeLiveDays site t call (byDay utcDay (batch.map BoundSample.stable))

def perform (t : ℕ) (call : ℕ × ℕ) : Request p → Db p Bool
  | .writeBatch batch => writeBatch site t call batch
  | .writeLiveBatch batch => writeLiveBatch site t call batch
  | .installCatalog day catalog => do
      let self ← fields t
      assign t fun self => { self with connections := self.connections + 1 }
      installCatalog (t, self.connections) day catalog false
      return true

def answerOf : Except Raised Bool → Answered
  | .ok true => .persisted
  | .ok false => .notPersisted
  | .error e => .raised e

def Fields.asked (self : Fields) : Fields := { self with calls := self.calls + 1 }

def serve (t : ℕ) : List (Request p) → Db p Unit
  | [] => pure ()
  | request :: rest => do
      let self ← fields t
      let call := (t, self.calls)
      assign t Fields.asked
      Coro.update fun s => s.noted (.asked call request)
      let result ← Coro.attempt (perform site t call request)
      Coro.update fun s => s.noted (.answered call (answerOf result))
      serve t rest

end DayFiles
end CryoDaq
