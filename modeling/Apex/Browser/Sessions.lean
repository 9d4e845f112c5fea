import Apex.Lib.Checked
import Apex.Lib.RowLocks
import Apex.Lib.Text

/-!
The store of browser sessions.

The sessions are rows of one database table, and every statement decides by the
database clock, the state and the generation of the row. Several replicas use the
table at once: a transaction locks the row first and runs its statement then, so
the statement sees the row as the last commit left it; a load takes no lock and
sees committed rows. The clock may move on between the lock, the statement and the
commit, and between two readings of it within a statement.

The store keeps a log of what was carried out. Sessions are numbered in it as
they are created, so that a session can be told from a later one with the same
digest.
-/

namespace Apex.Browser

open Checked RowLocks

/-! ### Rows -/

/-- The SHA-256 digest under which a session is stored. -/
abbrev LookupDigest : Type := { bytes : List UInt8 // bytes.length = 32 }

/-- The encrypted tokens of a session. -/
structure TokenEnvelope where
  version : UInt32
  keyId : String
  nonce : List UInt8
  ciphertext : List UInt8
  deriving DecidableEq

structure SessionIdentity where
  digest : LookupDigest
  issuer : String
  clientId : String
  subject : String
  absoluteExpiresAt : Int
  deriving DecidableEq

structure NewSession where
  identity : SessionIdentity
  csrfBinding : LookupDigest
  envelope : TokenEnvelope
  accessExpiresAt : Int
  refreshExpiresAt : Int
  idleTimeoutSecs : Nat
  deriving DecidableEq

structure RefreshCommit where
  generation : Nat
  envelope : TokenEnvelope
  accessExpiresAt : Int
  refreshExpiresAt : Int
  deriving DecidableEq

/-- The state of a row with the columns that depend on it: a refreshing row has a
deadline and no other row has one, and a revoked row has no tokens. -/
inductive SessionState where
  | active (envelope : TokenEnvelope)
  | refreshing (deadline : Int) (envelope : TokenEnvelope)
  | revoked
  deriving DecidableEq

structure SessionRow where
  identity : SessionIdentity
  csrfBinding : LookupDigest
  idleExpiresAt : Int
  accessExpiresAt : Int
  refreshExpiresAt : Int
  generation : Nat
  state : SessionState
  /-- The number of the session. -/
  session : Nat
  deriving DecidableEq

/-! ### Requests -/

inductive BrowserError where
  | invalidRequest
  | rateLimited
  | unavailable
  deriving DecidableEq, Repr

def maxIssuerBytes : Nat := 2048

def maxClientBytes : Nat := 256

def maxSubjectBytes : Nat := 512

def validateMetadata (value : String) (maxBytes : Nat) : Bool :=
  !value.isEmpty && value.utf8ByteSize ≤ maxBytes &&
    Text.trimMatches Text.isWhitespace value.toList == value.toList &&
    !value.toList.any Text.isControl

/-- The identity can be bound to an envelope. -/
def SessionIdentity.tokenBinding (identity : SessionIdentity) : Except BrowserError Unit :=
  ensure (validateMetadata identity.issuer maxIssuerBytes &&
      validateMetadata identity.clientId maxClientBytes &&
      validateMetadata identity.subject maxSubjectBytes && 0 < identity.absoluteExpiresAt)
    BrowserError.unavailable

def idleSecs (value : Nat) : Except BrowserError Unit :=
  ensure (60 ≤ value && value ≤ 3600) BrowserError.invalidRequest

def maxGeneration : Nat := 9223372036854775807

def generation (value : Nat) : Except BrowserError Unit :=
  ensure (value ≤ maxGeneration) BrowserError.invalidRequest

/-- The version of an envelope as a column of the table. -/
def version (envelope : TokenEnvelope) : Except BrowserError Unit :=
  ensure (envelope.version.toNat < 2 ^ 31) BrowserError.unavailable

/-- A transaction on the row of one digest. -/
inductive Op where
  | createSession (input : NewSession)
  | touch (expected : Nat) (idleTimeoutSecs : Nat)
  | claimRefresh (expected : Nat)
  | finishRefresh (input : RefreshCommit)
  | revoke
  | pruneExpired
  deriving DecidableEq

/-- The checks before a transaction is begun. -/
def Op.check : Op → Except BrowserError Unit
  | .createSession input => do
      input.identity.tokenBinding
      idleSecs input.idleTimeoutSecs
      version input.envelope
  | .touch expected idleTimeoutSecs => do
      generation expected
      idleSecs idleTimeoutSecs
  | .claimRefresh expected => generation expected
  | .finishRefresh input => do
      generation input.generation
      version input.envelope
  | .revoke | .pruneExpired => .ok ()

/-! ### Statements -/

/-- `LIVE`. Every occurrence of the clock in it is a reading of its own. -/
def live (read : Nat → Int) (row : SessionRow) : Bool :=
  match row.state with
  | .revoked => false
  | .active _ =>
      read 0 < row.identity.absoluteExpiresAt && read 1 < row.idleExpiresAt &&
        read 2 < row.refreshExpiresAt
  | .refreshing deadline _ =>
      read 0 < row.identity.absoluteExpiresAt && read 1 < row.idleExpiresAt &&
        read 2 < row.refreshExpiresAt && read 3 < deadline

/-- What a statement does to the row of its digest. -/
inductive Change where
  | unchanged
  | inserted (row : SessionRow)
  | updated (row : SessionRow)
  | deleted
  deriving DecidableEq

def insertSession (read : Nat → Int) (count : Nat) (input : NewSession) :
    Option SessionRow → Option Change
  | some _ => none
  | none =>
      if count < 10000 && read 1 < input.identity.absoluteExpiresAt &&
          input.identity.absoluteExpiresAt - read 2 ≤ 86400 &&
          read 3 < input.accessExpiresAt && read 4 < input.refreshExpiresAt then
        some (.inserted {
          identity := input.identity
          csrfBinding := input.csrfBinding
          idleExpiresAt := min input.identity.absoluteExpiresAt (read 0 + input.idleTimeoutSecs)
          accessExpiresAt := input.accessExpiresAt
          refreshExpiresAt := input.refreshExpiresAt
          generation := 0
          state := .active input.envelope
          session := 0 })
      else none

def updateIdle (read : Nat → Int) (expected idle : Nat) (row : SessionRow) : Change :=
  match row.state with
  | .active _ =>
      if row.generation = expected && live read row then
        .updated { row with
          idleExpiresAt := min row.identity.absoluteExpiresAt (read 4 + idle) }
      else .unchanged
  | _ => .unchanged

def updateClaim (read : Nat → Int) (expected : Nat) (row : SessionRow) : Change :=
  match row.state with
  | .active envelope =>
      if row.generation = expected && row.generation < maxGeneration && live read row &&
          row.accessExpiresAt ≤ read 5 + 30 then
        .updated { row with
          state := .refreshing (min (min (min row.identity.absoluteExpiresAt row.idleExpiresAt)
            row.refreshExpiresAt) (read 4 + 15)) envelope
          generation := row.generation + 1 }
      else .unchanged
  | _ => .unchanged

def updateFinish (read : Nat → Int) (input : RefreshCommit) (row : SessionRow) : Change :=
  match row.state with
  | .refreshing _ _ =>
      if row.generation = input.generation && live read row && read 4 < input.accessExpiresAt &&
          read 5 < input.refreshExpiresAt then
        .updated { row with
          state := .active input.envelope
          accessExpiresAt := input.accessExpiresAt
          refreshExpiresAt := input.refreshExpiresAt }
      else .unchanged
  | _ => .unchanged

/-- The statement of a transaction, run on the row that it has locked. `read` gives
the readings of the clock, `count` the rows of the table. -/
def statement (read : Nat → Int) (count : Nat) : Op → Option SessionRow → Option Change
  | .createSession input, row => insertSession read count input row
  | .touch expected idle, row => some (row.elim .unchanged (updateIdle read expected idle))
  | .claimRefresh expected, row => some (row.elim .unchanged (updateClaim read expected))
  | .finishRefresh input, row => some (row.elim .unchanged (updateFinish read input))
  | .revoke, row => some (row.elim .unchanged fun row => .updated { row with state := .revoked })
  | .pruneExpired, row =>
      some (row.elim .unchanged fun row => if live read row then .unchanged else .deleted)

/-! ### The store -/

/-- Something that was carried out on a session. -/
inductive Event where
  | created (session : Nat)
  | loaded (session : Nat)
  | touched (session : Nat)
  | claimed (session generation : Nat)
  | finished (session generation : Nat)
  | revoked (session : Nat)
  | pruned (session : Nat)
  deriving DecidableEq, Repr

structure SessionStore where
  clock : Int
  table : LockedTable LookupDigest SessionRow Op Change
  /-- The number of the next session. -/
  next : Nat
  /-- The latest event first. -/
  log : List Event

namespace SessionStore

def empty (clock : Int) : SessionStore :=
  ⟨clock, .empty, 0, []⟩

/-- The readings of a statement that is run now. -/
def readings (store : SessionStore) (elapsed : Nat → Nat) (occurrence : Nat) : Int :=
  store.clock + elapsed occurrence

/-- Creations exclude each other by an advisory lock; the other transactions need
a row to lock. -/
def mayBegin (store : SessionStore) (digest : LookupDigest) : Op → Bool
  | .createSession input => input.identity.digest = digest &&
      store.table.held.toPairs.all fun (_, hold) =>
        match hold.request with
        | .createSession _ => false
        | _ => true
  | _ => (store.table.rows.lookup digest).isSome

def begin (store : SessionStore) (digest : LookupDigest) (op : Op) : SessionStore :=
  match op.check with
  | .error _ => store
  | .ok _ =>
      if store.mayBegin digest op then { store with table := store.table.acquire digest op }
      else store

def execute (store : SessionStore) (digest : LookupDigest) (elapsed : Nat → Nat) : SessionStore :=
  { store with
    table := store.table.execute digest
      (statement (store.readings elapsed) store.table.rows.keys.length) }

/-- What a transaction that changed a row reports. -/
def eventOf (row : SessionRow) : Op → Option Event
  | .createSession _ | .pruneExpired => none
  | .touch _ _ => some (.touched row.session)
  | .claimRefresh _ => some (.claimed row.session row.generation)
  | .finishRefresh input => some (.finished row.session input.generation)
  | .revoke => some (.revoked row.session)

def commit (store : SessionStore) (digest : LookupDigest) : SessionStore :=
  match store.table.pending digest with
  | none => store
  | some (_, .unchanged) => { store with table := store.table.release digest }
  | some (_, .inserted row) =>
      { store with
        table := store.table.publish digest (some { row with session := store.next })
        next := store.next + 1
        log := .created store.next :: store.log }
  | some (op, .updated row) =>
      { store with
        table := store.table.publish digest (some row)
        log := (eventOf row op).toList ++ store.log }
  | some (_, .deleted) =>
      { store with
        table := store.table.publish digest none
        log := ((store.table.rows.lookup digest).map fun row =>
          Event.pruned row.session).toList ++ store.log }

/-- The row of a session that is live. -/
def load (store : SessionStore) (digest : LookupDigest) (elapsed : Nat → Nat) :
    Option SessionRow :=
  (store.table.rows.lookup digest).filter (live (store.readings elapsed))

end SessionStore

/-- A step of some replica, or of the clock. -/
inductive Action where
  | tick (elapsed : Nat)
  | begin (digest : LookupDigest) (op : Op)
  | execute (digest : LookupDigest) (elapsed : Nat → Nat)
  | commit (digest : LookupDigest)
  | rollback (digest : LookupDigest)
  | load (digest : LookupDigest) (elapsed : Nat → Nat)

def SessionStore.step (store : SessionStore) : Action → SessionStore
  | .tick elapsed => { store with clock := store.clock + elapsed }
  | .begin digest op => store.begin digest op
  | .execute digest elapsed => store.execute digest elapsed
  | .commit digest => store.commit digest
  | .rollback digest => { store with table := store.table.release digest }
  | .load digest elapsed =>
      { store with
        log := ((store.load digest elapsed).map fun row => Event.loaded row.session).toList ++
          store.log }

end Apex.Browser
