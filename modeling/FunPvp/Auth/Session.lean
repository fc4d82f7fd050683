/-
# The login session

`AuthSession` takes four handshake packets in any order, all in `STATUS_CONNECTED`: a challenge
and a proof, for a logon and for a reconnect. Two booleans see to it that there is one challenge
and one proof. The challenge asks the database for the account, and what the proof is checked
against is set when the answer arrives.

`HandleReconnectProof` asks whether that has happened. `HandleLogonProof` does not: if the
account was refused, if the answer is still on its way, or if the challenge was one for a
reconnect, then `b` is 0 and the secret is 1, whoever asks (`unchallenged_proof_accepted`).
`authed_after_challenge` says that this is the only way past the challenge.
-/
import FunPvp.Auth.Srp6
import FunPvp.Lib.Run

namespace FunPvp.Auth

open FunPvp.Lib

/-! ## 1. Packets and answers -/

/-- `AuthResult`, the codes that are sent. -/
inductive AuthResult
  | WOW_SUCCESS | WOW_FAIL_BANNED | WOW_FAIL_UNKNOWN_ACCOUNT | WOW_FAIL_DB_BUSY
  | WOW_FAIL_VERSION_INVALID | WOW_FAIL_SUSPENDED | WOW_FAIL_LOCKED_ENFORCED
  | WOW_FAIL_UNLOCKABLE_LOCK
deriving DecidableEq

def AuthResult.code : AuthResult → UInt8
  | .WOW_SUCCESS => 0x00
  | .WOW_FAIL_BANNED => 0x03
  | .WOW_FAIL_UNKNOWN_ACCOUNT => 0x04
  | .WOW_FAIL_DB_BUSY => 0x08
  | .WOW_FAIL_VERSION_INVALID => 0x09
  | .WOW_FAIL_SUSPENDED => 0x0C
  | .WOW_FAIL_LOCKED_ENFORCED => 0x10
  | .WOW_FAIL_UNLOCKABLE_LOCK => 0x19

/-- `eAuthCmd`, the commands with a handler. -/
inductive AuthCmd
  | AUTH_LOGON_CHALLENGE | AUTH_LOGON_PROOF | AUTH_RECONNECT_CHALLENGE | AUTH_RECONNECT_PROOF
  | REALM_LIST
deriving DecidableEq

def AuthCmd.code : AuthCmd → UInt8
  | .AUTH_LOGON_CHALLENGE => 0x00
  | .AUTH_LOGON_PROOF => 0x01
  | .AUTH_RECONNECT_CHALLENGE => 0x02
  | .AUTH_RECONNECT_PROOF => 0x03
  | .REALM_LIST => 0x10

inductive AuthStatus
  | STATUS_CONNECTED | STATUS_AUTHED
deriving DecidableEq

/-- The status of the command's entry in `InitHandlers`. -/
def AuthCmd.status : AuthCmd → AuthStatus
  | .REALM_LIST => .STATUS_AUTHED
  | _ => .STATUS_CONNECTED

/-- What the handlers read of `AUTH_LOGON_CHALLENGE_C`; `I` begins at the login. -/
structure AuthLogonChallenge where
  size : UInt16
  build : UInt16
  I_len : UInt8
  I : List UInt8

/-- "`challenge->size - (sizeof(..) - 4 - 1) != challenge->I_len`" does not hold. The difference
is one of `size_t`. -/
def AuthLogonChallenge.sizeFits (challenge : AuthLogonChallenge) : Bool :=
  decide (challenge.size.toUInt64 - 30 = challenge.I_len.toUInt64)

/-- What the handler reads of `AUTH_LOGON_PROOF_C`. -/
structure AuthLogonProof where
  A : List UInt8
  M1 : List UInt8
  securityFlags : UInt8

structure AuthReconnectProof where
  R1 : List UInt8
  R2 : List UInt8

inductive ClientPacket
  | logonChallenge (challenge : AuthLogonChallenge)
  | logonProof (proof : AuthLogonProof)
  | reconnectChallenge (challenge : AuthLogonChallenge)
  | reconnectProof (proof : AuthReconnectProof)
  | realmList

def ClientPacket.cmd : ClientPacket → AuthCmd
  | .logonChallenge _ => .AUTH_LOGON_CHALLENGE
  | .logonProof _ => .AUTH_LOGON_PROOF
  | .reconnectChallenge _ => .AUTH_RECONNECT_CHALLENGE
  | .reconnectProof _ => .AUTH_RECONNECT_PROOF
  | .realmList => .REALM_LIST

/-- The columns that both account queries begin with. -/
structure AccountFields where
  id : ℕ
  username : List UInt8
  locked : Bool
  lock_country : String
  last_ip : String
  failed_logins : ℕ
  banned : Bool
  permanent : Bool
  gmlevel : ℕ

/-- A row of `LOGIN_SEL_LOGONCHALLENGE`. -/
structure LogonRow extends AccountFields where
  token_key : String
  sha_pass_hash : String
  v : String
  s : String

/-- A row of `LOGIN_SEL_RECONNECTCHALLENGE`. -/
structure ReconnectRow extends AccountFields where
  sessionKey : String

structure AccountInfo where
  Id : ℕ := 0
  Login : List UInt8 := []
  IsLockedToIP : Bool := false
  LockCountry : String := ""
  LastIP : String := ""
  FailedLogins : ℕ := 0
  IsBanned : Bool := false
  IsPermanentlyBanned : Bool := false
  SecurityLevel : ℕ := 0
deriving DecidableEq

/-- The functions outside the session: SRP6, and the upper-casing of account names. -/
structure AuthEnv where
  crypto : Crypto
  utf8ToUpperOnlyLatin : List UInt8 → List UInt8

def AuthEnv.loadResult (env : AuthEnv) (fields : AccountFields) : AccountInfo where
  Id := fields.id
  Login := env.utf8ToUpperOnlyLatin fields.username
  IsLockedToIP := fields.locked
  LockCountry := fields.lock_country
  LastIP := fields.last_ip
  FailedLogins := fields.failed_logins
  IsBanned := fields.banned
  IsPermanentlyBanned := fields.permanent
  SecurityLevel := fields.gmlevel

/-- The IP-lock, country-lock and ban checks of `LogonChallengeCallback`: the code that refuses
the account, or nothing. -/
def AccountInfo.refusal (info : AccountInfo) (ipAddress ipCountry : String) : Option AuthResult :=
  if info.IsLockedToIP ∧ info.LastIP ≠ ipAddress then some .WOW_FAIL_LOCKED_ENFORCED
  else if info.IsLockedToIP = false ∧ info.LockCountry ≠ "" ∧ info.LockCountry ≠ "00" ∧
      ipCountry ≠ "" ∧ ipCountry ≠ info.LockCountry then some .WOW_FAIL_UNLOCKABLE_LOCK
  else if info.IsBanned then
    some (if info.IsPermanentlyBanned then .WOW_FAIL_BANNED else .WOW_FAIL_SUSPENDED)
  else none

def postBcAcceptedClientBuilds : List ℕ :=
  [15595, 14545, 13623, 13930, 12340, 11723, 11403, 11159, 10505, 9947, 8606]

def preBcAcceptedClientBuilds : List ℕ := [6141, 6005, 5875]

/-- `ExpansionFlags`. -/
def POST_BC_EXP_FLAG : ℕ := 2

def PRE_BC_EXP_FLAG : ℕ := 1

def NO_VALID_EXP_FLAG : ℕ := 0

def expversionOf (build : ℕ) : ℕ :=
  if build ∈ postBcAcceptedClientBuilds then POST_BC_EXP_FLAG
  else if build ∈ preBcAcceptedClientBuilds then PRE_BC_EXP_FLAG
  else NO_VALID_EXP_FLAG

def isAcceptedClientBuild (build : ℕ) : Bool :=
  decide (build ∈ postBcAcceptedClientBuilds) || decide (build ∈ preBcAcceptedClientBuilds)

/-! ## 2. The session -/

/-- What `_queryCallback` is bound to. -/
inductive AuthQuery
  | checkIp
  | logonChallenge (login : List UInt8)
  | reconnectChallenge (login : List UInt8)
  | realmList
deriving DecidableEq

/-- `AuthSession`. `reading` is set by the first `AsyncRead`; `sent` is what `SendPacket` has
queued. -/
structure AuthSession where
  ipAddress : String
  isOpen : Bool := true
  reading : Bool := false
  s : ℕ := 0
  v : ℕ := 0
  b : ℕ := 0
  B : ℕ := 0
  K : ℕ := 0
  _reconnectProof : ℕ := 0
  _sentChallenge : Bool := false
  _sentProof : Bool := false
  _status : AuthStatus := .STATUS_CONNECTED
  _accountInfo : AccountInfo := {}
  _tokenKey : String := ""
  _ipCountry : String := ""
  _build : ℕ := 0
  _expversion : ℕ := NO_VALID_EXP_FLAG
  _queryCallback : Option AuthQuery := some .checkIp
  sent : List (List UInt8) := []

/-- What a handler returns, the session, and how many bytes behind its packet it has read and
completed by itself. -/
structure Handled where
  result : Bool
  session : AuthSession
  behind : ℕ := 0

/-- What `HandleLogonProof` reads from outside: the bytes behind the packet, and
`TOTP::GenerateToken` at this moment. -/
structure TokenEnv where
  behind : List UInt8
  generateToken : String → ℕ

/-- The random numbers of `LogonChallengeCallback`: for a new salt, for `b` and for `unk3`. -/
structure LogonRand where
  s : Rand (32 * 8)
  b : Rand (19 * 8)
  unk3 : Rand (16 * 8)

/-- `atoi`, converted to `uint32`. -/
def atoi (str : List UInt8) : ℕ :=
  let str := str.dropWhile fun c => c = 32 || (9 ≤ c && c ≤ 13)
  let digits := fun l : List UInt8 => (l.takeWhile fun c => 48 ≤ c && c ≤ 57).foldl
    (fun n c => 10 * n + (c.toNat - 48)) 0
  match str with
  | 45 :: l => (2 ^ 32 - digits l % 2 ^ 32) % 2 ^ 32
  | 43 :: l => digits l % 2 ^ 32
  | l => digits l % 2 ^ 32

namespace AuthSession

def sendPacket (a : AuthSession) (pkt : List UInt8) : AuthSession :=
  if a.isOpen then { a with sent := a.sent ++ [pkt] } else a

def closeSocket (a : AuthSession) : AuthSession := { a with isOpen := false }

def handleChallenge (a : AuthSession) (busy : List UInt8) (query : List UInt8 → AuthQuery)
    (challenge : AuthLogonChallenge) : Handled :=
  if a._sentChallenge then ⟨false, a, 0⟩
  else
    let a := { a with _sentChallenge := true }
    if challenge.sizeFits = false then ⟨false, a, 0⟩
    else
      let login := challenge.I.take challenge.I_len.toNat
      if a._queryCallback.isSome then ⟨true, a.sendPacket busy, 0⟩
      else ⟨true, { a with
        _build := challenge.build.toNat
        _expversion := expversionOf challenge.build.toNat
        _queryCallback := some (query login) }, 0⟩

def handleLogonChallenge (a : AuthSession) (challenge : AuthLogonChallenge) : Handled :=
  a.handleChallenge [AuthCmd.AUTH_LOGON_CHALLENGE.code, 0x00, AuthResult.WOW_FAIL_DB_BUSY.code]
    .logonChallenge challenge

def handleReconnectChallenge (a : AuthSession) (challenge : AuthLogonChallenge) : Handled :=
  a.handleChallenge [AuthCmd.AUTH_RECONNECT_CHALLENGE.code, AuthResult.WOW_FAIL_DB_BUSY.code]
    .reconnectChallenge challenge

def wrongProof : List UInt8 :=
  [AuthCmd.AUTH_LOGON_PROOF.code, AuthResult.WOW_FAIL_UNKNOWN_ACCOUNT.code, 3, 0]

/-- The reply to a right one, `sAuthLogonProof_S` or `sAuthLogonProof_S_Old`. -/
def logonProofReply (expversion : ℕ) (M2 : List UInt8) : List UInt8 :=
  if expversion &&& POST_BC_EXP_FLAG ≠ 0 then
    [AuthCmd.AUTH_LOGON_PROOF.code, 0] ++ M2 ++ [0x00, 0x00, 0x80, 0x00] ++ [0, 0, 0, 0] ++ [0, 0]
  else [AuthCmd.AUTH_LOGON_PROOF.code, 0] ++ M2 ++ [0, 0, 0, 0]

def handleLogonProof (env : AuthEnv) (token : TokenEnv) (a : AuthSession)
    (logonProof : AuthLogonProof) : Handled :=
  if a._sentProof then ⟨false, a, 0⟩
  else
    let a := { a with _sentProof := true }
    if a._expversion = NO_VALID_EXP_FLAG then ⟨false, a, 0⟩
    else
      let A := setBinary logonProof.A
      if A = 0 then ⟨false, a, 0⟩
      else
        let a := { a with K := env.crypto.sessionKey (env.crypto.secret A a.v a.b a.B) }
        let M := env.crypto.proofM a._accountInfo.Login a.s A a.B a.K
        if (asByteArray 20 M).take 20 = logonProof.M1 then
          let M2 := env.crypto.digest (asBytes A ++ asBytes M ++ asBytes a.K)
          let accept := fun (a : AuthSession) =>
            { a.sendPacket (logonProofReply a._expversion M2) with _status := .STATUS_AUTHED }
          if logonProof.securityFlags &&& 0x04 ≠ 0 ∨ a._tokenKey ≠ "" then
            let size := (token.behind.getD 0 0).toNat
            let incomingToken := atoi ((token.behind.drop 1).take size)
            let validToken := token.generateToken a._tokenKey
            let a := { a with _tokenKey := "" }
            if validToken ≠ incomingToken then ⟨true, a.sendPacket wrongProof, 1 + size⟩
            else ⟨true, accept a, 1 + size⟩
          else ⟨true, accept a, 0⟩
        else ⟨true, a.sendPacket wrongProof, 0⟩

def handleReconnectProof (env : AuthEnv) (a : AuthSession) (reconnectProof : AuthReconnectProof) :
    Handled :=
  if a._sentProof then ⟨false, a, 0⟩
  else
    let a := { a with _sentProof := true }
    if a._accountInfo.Login = [] ∨ getNumBytes a._reconnectProof = 0 ∨ getNumBytes a.K = 0 then
      ⟨false, a, 0⟩
    else if env.crypto.expectedR2 a._accountInfo.Login reconnectProof.R1 a._reconnectProof a.K
        = reconnectProof.R2 then
      ⟨true, { a.sendPacket [AuthCmd.AUTH_RECONNECT_PROOF.code, 0, 0, 0] with
        _status := .STATUS_AUTHED }, 0⟩
    else ⟨false, a, 0⟩

def handleRealmList (a : AuthSession) : Handled :=
  if a._queryCallback.isSome then ⟨false, a, 0⟩
  else ⟨true, { a with _queryCallback := some .realmList }, 0⟩

def handle (env : AuthEnv) (token : TokenEnv) (a : AuthSession) : ClientPacket → Handled
  | .logonChallenge challenge => a.handleLogonChallenge challenge
  | .logonProof proof => a.handleLogonProof env token proof
  | .reconnectChallenge challenge => a.handleReconnectChallenge challenge
  | .reconnectProof proof => a.handleReconnectProof env proof
  | .realmList => a.handleRealmList

/-- What `ReadHandler` does with a complete packet: the status check, the handler, and
`CloseSocket` when either says no. -/
def receive (env : AuthEnv) (token : TokenEnv) (a : AuthSession) (p : ClientPacket) :
    AuthSession :=
  if a._status ≠ p.cmd.status then a.closeSocket
  else
    let r := a.handle env token p
    if r.result then r.session else r.session.closeSocket

/-- `CheckIpCallback`; a row is the ban flag and the country. -/
def checkIpCallback (a : AuthSession) (rows : List (Bool × String)) : AuthSession :=
  let a := { a with
    _ipCountry := rows.foldl (fun country (row : Bool × String) =>
      if row.2 ≠ "" then row.2 else country) a._ipCountry }
  if rows.any fun row => row.1 then
    a.sendPacket [AuthCmd.AUTH_LOGON_CHALLENGE.code, 0x00, AuthResult.WOW_FAIL_BANNED.code]
  else { a with reading := true }

/-- `s` and `v`: from the row if both have their full length, else new ones. -/
def verifierOf (env : AuthEnv) (a : AuthSession) (row : LogonRow) (rand : LogonRand) : ℕ × ℕ :=
  if row.v.length ≠ 32 * 2 ∨ row.s.length ≠ 32 * 2 then
    (rand.s.value, env.crypto.verifier row.sha_pass_hash rand.s.value)
  else (setHexStr a.s row.s, setHexStr a.v row.v)

def challengeReply (build s B unk3 : ℕ) (tokenKey : String) : List UInt8 :=
  [AuthCmd.AUTH_LOGON_CHALLENGE.code, 0x00,
    (if isAcceptedClientBuild build then AuthResult.WOW_SUCCESS
      else AuthResult.WOW_FAIL_VERSION_INVALID).code] ++
  (asByteArray 32 B).take 32 ++ [1] ++ (asByteArray 1 srpG).take 1 ++ [32] ++
  (asByteArray 32 srpN).take 32 ++ (asByteArray 32 s).take 32 ++ (asByteArray 16 unk3).take 16 ++
  (if tokenKey ≠ "" then [4, 1] else [0])

def logonChallengeCallback (env : AuthEnv) (a : AuthSession) (rand : LogonRand) :
    Option LogonRow → AuthSession
  | none => a.sendPacket
      [AuthCmd.AUTH_LOGON_CHALLENGE.code, 0x00, AuthResult.WOW_FAIL_UNKNOWN_ACCOUNT.code]
  | some row =>
    let a := { a with _accountInfo := env.loadResult row.toAccountFields }
    match a._accountInfo.refusal a.ipAddress a._ipCountry with
    | some code => a.sendPacket [AuthCmd.AUTH_LOGON_CHALLENGE.code, 0x00, code.code]
    | none =>
      let sv := a.verifierOf env row rand
      let B := env.crypto.serverPublic sv.2 rand.b.value
      let a := { a with
        s := sv.1, v := sv.2, b := rand.b.value, B := B, _tokenKey := row.token_key }
      a.sendPacket (challengeReply a._build a.s a.B rand.unk3.value a._tokenKey)

def reconnectChallengeCallback (env : AuthEnv) (a : AuthSession) (rand : Rand (16 * 8)) :
    Option ReconnectRow → AuthSession
  | none => a.sendPacket
      [AuthCmd.AUTH_RECONNECT_CHALLENGE.code, AuthResult.WOW_FAIL_UNKNOWN_ACCOUNT.code]
  | some row =>
    let a := { a with
      _accountInfo := env.loadResult row.toAccountFields
      K := setHexStr a.K row.sessionKey
      _reconnectProof := rand.value }
    a.sendPacket ([AuthCmd.AUTH_RECONNECT_CHALLENGE.code, AuthResult.WOW_SUCCESS.code] ++
      (asByteArray 16 a._reconnectProof).take 16 ++ List.replicate 16 0)

end AuthSession

/-! ## 3. Runs -/

inductive AuthEvent
  /-- `ReadHandler` meets a complete packet. -/
  | packet (p : ClientPacket) (token : TokenEnv)
  /-- `Update` finds the answer to the query that is pending. -/
  | ipResult (rows : List (Bool × String))
  | logonResult (row : Option LogonRow) (rand : LogonRand)
  | reconnectResult (row : Option ReconnectRow) (rand : Rand (16 * 8))
  | realmListResult

namespace AuthSession

/-- One event. A closed session is not updated, and nothing is read before the first
`AsyncRead`. -/
def step (env : AuthEnv) (a : AuthSession) (e : AuthEvent) : AuthSession :=
  if a.isOpen = false then a
  else
    match e, a._queryCallback with
    | .packet p token, _ => if a.reading then a.receive env token p else a
    | .ipResult rows, some .checkIp => { a with _queryCallback := none }.checkIpCallback rows
    | .logonResult row rand, some (.logonChallenge _) =>
      { a with _queryCallback := none }.logonChallengeCallback env rand row
    | .reconnectResult row rand, some (.reconnectChallenge _) =>
      { a with _queryCallback := none }.reconnectChallengeCallback env rand row
    | .realmListResult, some .realmList => { a with _queryCallback := none }
    | _, _ => a

def init (ipAddress : String) : AuthSession := { ipAddress := ipAddress }

end AuthSession

/-- A challenge whose callback has run to its end. -/
inductive Challenge
  | logon (row : LogonRow) (rand : LogonRand)
  | reconnect (row : ReconnectRow) (rand : Rand (16 * 8))

/-- A proof that the server has accepted. -/
inductive Proof
  | logon (proof : AuthLogonProof)
  | reconnect (proof : AuthReconnectProof)

namespace Challenge

variable (env : AuthEnv)

def account : Challenge → AccountInfo
  | .logon row _ => env.loadResult row.toAccountFields
  | .reconnect row _ => env.loadResult row.toAccountFields

def verifier (row : LogonRow) (rand : LogonRand) : ℕ × ℕ :=
  (AuthSession.init "").verifierOf env row rand

/-- **The proof was checked against exactly the values of the challenge**, and is of its kind. -/
def Answered : Challenge → Proof → Prop
  | .logon row rand, .logon proof =>
    let sv := verifier env row rand
    proof.M1 = env.crypto.expectedM1 (env.loadResult row.toAccountFields).Login sv.1 sv.2
      rand.b.value (env.crypto.serverPublic sv.2 rand.b.value) (setBinary proof.A)
  | .reconnect row rand, .reconnect proof =>
    proof.R2 = env.crypto.expectedR2 (env.loadResult row.toAccountFields).Login proof.R1 rand.value
      (setHexStr 0 row.sessionKey)
  | _, _ => False

def IsLogon : Challenge → Prop
  | .logon _ _ => True
  | .reconnect _ _ => False

end Challenge

/-- A session with its history: the challenge that was completed, and the proof that was
accepted. -/
structure Login where
  session : AuthSession
  challenge : Option Challenge
  accepted : Option Proof

namespace Login

/-- A challenge is completed when the answer is there and no check refuses the account. -/
def completes (env : AuthEnv) (a : AuthSession) (e : AuthEvent) : Option Challenge :=
  if a.isOpen = false then none
  else
    match e, a._queryCallback with
    | .logonResult (some row) rand, some (.logonChallenge _) =>
      if (env.loadResult row.toAccountFields).refusal a.ipAddress a._ipCountry = none then
        some (.logon row rand)
      else none
    | .reconnectResult (some row) rand, some (.reconnectChallenge _) => some (.reconnect row rand)
    | _, _ => none

def proofOf : AuthEvent → Option Proof
  | .packet (.logonProof proof) _ => some (.logon proof)
  | .packet (.reconnectProof proof) _ => some (.reconnect proof)
  | _ => none

def step (env : AuthEnv) (w : Login) (e : AuthEvent) : Login where
  session := w.session.step env e
  challenge := (completes env w.session e).or w.challenge
  accepted :=
    if w.session._status = .STATUS_CONNECTED ∧
        (w.session.step env e)._status = .STATUS_AUTHED then proofOf e
    else w.accepted

def init (ipAddress : String) : Login := ⟨AuthSession.init ipAddress, none, none⟩

/-- **Authentication**: an authenticated session has completed a challenge, for the account it is
authenticated as, and has accepted a proof of the same kind, checked against the values of that
challenge. `checked` says of which challenges the account has passed the IP-lock, country-lock
and ban checks. -/
def Authentic (env : AuthEnv) (checked : Challenge → Prop) (w : Login) : Prop :=
  w.session._status = .STATUS_AUTHED → ∃ c p, w.challenge = some c ∧ w.accepted = some p ∧
    c.Answered env p ∧ w.session._accountInfo = c.account env ∧
    (checked c → (c.account env).refusal w.session.ipAddress w.session._ipCountry = none)

/-- **The condition**: a logon proof that gets as far as the SRP6 calculation finds a `b`. -/
def ProofAfterChallenge (w : Login) (e : AuthEvent) : Prop :=
  ∀ proof token, e = .packet (.logonProof proof) token → w.session.isOpen = true →
    w.session.reading = true → w.session._status = .STATUS_CONNECTED →
    w.session._sentProof = false → w.session._expversion ≠ NO_VALID_EXP_FLAG →
    setBinary proof.A ≠ 0 → w.session.b ≠ 0

/-- The account of a reconnect challenge would pass the checks of a logon challenge. -/
def ReconnectChecked (env : AuthEnv) (w : Login) (e : AuthEvent) : Prop :=
  ∀ row rand, e = .reconnectResult (some row) rand →
    (env.loadResult row.toAccountFields).refusal w.session.ipAddress w.session._ipCountry = none

end Login

/-! ## 4. What a packet does -/

def AuthQuery.IsChallenge : AuthQuery → Prop
  | .logonChallenge _ | .reconnectChallenge _ => True
  | _ => False

namespace AuthSession

theorem sendPacket_eq (a : AuthSession) (pkt : List UInt8) :
    a.sendPacket pkt = { a with sent := if a.isOpen then a.sent ++ [pkt] else a.sent } := by
  unfold sendPacket
  split <;> rfl

/-- What a challenge sets, and what its checks look at. -/
def values (a : AuthSession) : (ℕ × ℕ × ℕ × ℕ × ℕ) × AccountInfo × String × String :=
  ((a.s, a.v, a.b, a.B, a._reconnectProof), a._accountInfo, a.ipAddress, a._ipCountry)

/-- **What no packet does**: touch the values of a challenge, ask for an account a second time,
or change `K` without counting as the proof. -/
structure Kept (a a' : AuthSession) : Prop where
  values : a'.values = a.values
  reading : a'.reading = a.reading
  key : a'._sentProof = false → a._sentProof = false ∧ a'.K = a.K
  sent : a._sentChallenge = true → a'._sentChallenge = true
  query : ∀ q, a'._queryCallback = some q → a._queryCallback = some q ∨
    (q ≠ .checkIp ∧ (q.IsChallenge → a._sentChallenge = false ∧ a'._sentChallenge = true))

theorem Kept.refl (a : AuthSession) : a.Kept a :=
  ⟨rfl, rfl, fun h => ⟨h, rfl⟩, fun h => h, fun _ h => Or.inl h⟩

theorem Kept.closeSocket {a a' : AuthSession} (h : a.Kept a') : a.Kept a'.closeSocket :=
  ⟨h.values, h.reading, h.key, h.sent, h.query⟩

theorem kept_handleChallenge (a : AuthSession) (busy : List UInt8)
    (query : List UInt8 → AuthQuery) (hquery : ∀ login, query login ≠ .checkIp)
    (challenge : AuthLogonChallenge) : a.Kept (a.handleChallenge busy query challenge).session := by
  unfold handleChallenge
  split
  · exact Kept.refl a
  · next hsent =>
    have hunsent : a._sentChallenge = false := Bool.eq_false_iff.mpr hsent
    dsimp only
    split
    · exact ⟨rfl, rfl, fun h => ⟨h, rfl⟩, fun _ => rfl, fun _ h => Or.inl h⟩
    · split
      · rw [sendPacket_eq]
        exact ⟨rfl, rfl, fun h => ⟨h, rfl⟩, fun _ => rfl, fun _ h => Or.inl h⟩
      · refine ⟨rfl, rfl, fun h => ⟨h, rfl⟩, fun _ => rfl, fun q hq => ?_⟩
        obtain rfl := Option.some.inj hq
        exact Or.inr ⟨hquery _, fun _ => ⟨hunsent, rfl⟩⟩

theorem kept_handleLogonProof (env : AuthEnv) (token : TokenEnv) (a : AuthSession)
    (proof : AuthLogonProof) : a.Kept (a.handleLogonProof env token proof).session := by
  have hkept : ∀ a' : AuthSession, a'.values = a.values → a'.reading = a.reading →
      a'._sentProof = true → a'._sentChallenge = a._sentChallenge →
      a'._queryCallback = a._queryCallback → a.Kept a' := by
    intro a' hvalues hreading hproof hsent hquery
    exact ⟨hvalues, hreading, fun h => absurd (hproof.symm.trans h) (by decide),
      fun h => hsent.trans h, fun _ hq => Or.inl (hquery.symm.trans hq)⟩
  unfold handleLogonProof
  split
  · exact Kept.refl a
  · dsimp only
    split
    · exact hkept _ rfl rfl rfl rfl rfl
    · split
      · exact hkept _ rfl rfl rfl rfl rfl
      · split
        · split
          · split
            · rw [sendPacket_eq]; exact hkept _ rfl rfl rfl rfl rfl
            · rw [sendPacket_eq]; exact hkept _ rfl rfl rfl rfl rfl
          · rw [sendPacket_eq]; exact hkept _ rfl rfl rfl rfl rfl
        · rw [sendPacket_eq]; exact hkept _ rfl rfl rfl rfl rfl

theorem kept_handleReconnectProof (env : AuthEnv) (a : AuthSession)
    (proof : AuthReconnectProof) : a.Kept (a.handleReconnectProof env proof).session := by
  unfold handleReconnectProof
  split
  · exact Kept.refl a
  · dsimp only
    split
    · exact ⟨rfl, rfl, fun h => absurd h (by simp), fun h => h, fun _ h => Or.inl h⟩
    · split
      · rw [sendPacket_eq]
        exact ⟨rfl, rfl, fun h => absurd h (by simp), fun h => h, fun _ h => Or.inl h⟩
      · exact ⟨rfl, rfl, fun h => absurd h (by simp), fun h => h, fun _ h => Or.inl h⟩

theorem kept_handleRealmList (a : AuthSession) : a.Kept a.handleRealmList.session := by
  unfold handleRealmList
  split
  · exact Kept.refl a
  · refine ⟨rfl, rfl, fun h => ⟨h, rfl⟩, fun h => h, fun q hq => ?_⟩
    obtain rfl := Option.some.inj hq
    exact Or.inr ⟨by decide, fun h => absurd h id⟩

theorem kept_receive (env : AuthEnv) (token : TokenEnv) (a : AuthSession) (p : ClientPacket) :
    a.Kept (a.receive env token p) := by
  have hhandle : a.Kept (a.handle env token p).session := by
    cases p with
    | logonChallenge c => exact a.kept_handleChallenge _ _ (fun _ => by simp) c
    | logonProof p => exact a.kept_handleLogonProof env token p
    | reconnectChallenge c => exact a.kept_handleChallenge _ _ (fun _ => by simp) c
    | reconnectProof p => exact a.kept_handleReconnectProof env p
    | realmList => exact a.kept_handleRealmList
  unfold receive
  split
  · exact (Kept.refl a).closeSocket
  · dsimp only
    split
    · exact hhandle
    · exact hhandle.closeSocket

/-! ## 5. What an accepted proof has shown -/

variable {env : AuthEnv} {token : TokenEnv} {a : AuthSession}

theorem handleLogonProof_authed {proof : AuthLogonProof} (ha : a._status = .STATUS_CONNECTED)
    (h : (a.handleLogonProof env token proof).session._status = .STATUS_AUTHED) :
    a._sentProof = false ∧ a._expversion ≠ NO_VALID_EXP_FLAG ∧ setBinary proof.A ≠ 0 ∧
      proof.M1 = env.crypto.expectedM1 a._accountInfo.Login a.s a.v a.b a.B
        (setBinary proof.A) := by
  have hne : a._status ≠ .STATUS_AUTHED := by rw [ha]; decide
  unfold handleLogonProof at h
  split at h
  · exact absurd h hne
  · next hproof =>
    dsimp only at h
    split at h
    · exact absurd h hne
    · next hversion =>
      split at h
      · exact absurd h hne
      · next hA =>
        split at h
        · next hM => exact ⟨Bool.eq_false_iff.mpr hproof, hversion, hA, hM.symm⟩
        · rw [sendPacket_eq] at h
          exact absurd h hne

theorem handleLogonProof_accepts {proof : AuthLogonProof} (hproof : a._sentProof = false)
    (hversion : a._expversion ≠ NO_VALID_EXP_FLAG) (hA : setBinary proof.A ≠ 0)
    (htoken : a._tokenKey = "") (hflags : proof.securityFlags &&& 0x04 = 0)
    (hM : proof.M1 = env.crypto.expectedM1 a._accountInfo.Login a.s a.v a.b a.B
      (setBinary proof.A)) :
    (a.handleLogonProof env token proof).session._status = .STATUS_AUTHED := by
  unfold handleLogonProof
  simp [hproof, hversion, hA, htoken, hflags, hM, Crypto.expectedM1]

theorem handleReconnectProof_authed
    {proof : AuthReconnectProof} (ha : a._status = .STATUS_CONNECTED)
    (h : (a.handleReconnectProof env proof).session._status = .STATUS_AUTHED) :
    a._sentProof = false ∧ a._reconnectProof ≠ 0 ∧
      proof.R2 = env.crypto.expectedR2 a._accountInfo.Login proof.R1 a._reconnectProof a.K := by
  have hne : a._status ≠ .STATUS_AUTHED := by rw [ha]; decide
  unfold handleReconnectProof at h
  split at h
  · exact absurd h hne
  · next hproof =>
    dsimp only at h
    split at h
    · exact absurd h hne
    · next hset =>
      split at h
      · next hR =>
        refine ⟨Bool.eq_false_iff.mpr hproof, fun hzero => hset ?_, hR.symm⟩
        exact Or.inr (Or.inl (getNumBytes_eq_zero.mpr hzero))
      · exact absurd h hne

theorem handleChallenge_status (a : AuthSession) (busy : List UInt8)
    (query : List UInt8 → AuthQuery) (challenge : AuthLogonChallenge) :
    (a.handleChallenge busy query challenge).session._status = a._status := by
  unfold handleChallenge
  split
  · rfl
  · dsimp only
    split
    · rfl
    · split
      · rw [sendPacket_eq]
      · rfl

theorem handleRealmList_status (a : AuthSession) :
    a.handleRealmList.session._status = a._status := by
  unfold handleRealmList
  split <;> rfl

theorem receive_status {p : ClientPacket} :
    (a.receive env token p)._status =
      if a._status ≠ p.cmd.status then a._status else (a.handle env token p).session._status := by
  unfold receive
  split
  · rfl
  · dsimp only
    split <;> rfl

theorem receive_accepts {p : ClientPacket} (ha : a._status = .STATUS_CONNECTED)
    (h : (a.receive env token p)._status = .STATUS_AUTHED) :
    a._sentProof = false ∧
    ((∃ proof, p = .logonProof proof ∧ a._expversion ≠ NO_VALID_EXP_FLAG ∧
        setBinary proof.A ≠ 0 ∧ proof.M1 = env.crypto.expectedM1 a._accountInfo.Login a.s a.v a.b
          a.B (setBinary proof.A)) ∨
      ∃ proof, p = .reconnectProof proof ∧ a._reconnectProof ≠ 0 ∧
        proof.R2 = env.crypto.expectedR2 a._accountInfo.Login proof.R1 a._reconnectProof a.K) := by
  have hne : a._status ≠ .STATUS_AUTHED := by rw [ha]; decide
  rw [receive_status] at h
  split at h
  · exact absurd h hne
  · cases p with
    | logonChallenge c => exact absurd ((a.handleChallenge_status _ _ c).symm.trans h) hne
    | logonProof proof =>
      obtain ⟨hproof, hversion, hA, hM⟩ := handleLogonProof_authed ha h
      exact ⟨hproof, Or.inl ⟨proof, rfl, hversion, hA, hM⟩⟩
    | reconnectChallenge c => exact absurd ((a.handleChallenge_status _ _ c).symm.trans h) hne
    | reconnectProof proof =>
      obtain ⟨hproof, hset, hR⟩ := handleReconnectProof_authed ha h
      exact ⟨hproof, Or.inr ⟨proof, rfl, hset, hR⟩⟩
    | realmList => exact absurd (a.handleRealmList_status.symm.trans h) hne

end AuthSession

/-! ## 6. The history of a session -/

namespace Login

variable {env : AuthEnv} {checked : Challenge → Prop} {w : Login}

/-- The values that a completed challenge has left in the session. -/
def Challenged (env : AuthEnv) (a : AuthSession) : Challenge → Prop
  | .logon row rand =>
    let sv := Challenge.verifier env row rand
    a.values = ((sv.1, sv.2, rand.b.value, env.crypto.serverPublic sv.2 rand.b.value, 0),
      env.loadResult row.toAccountFields, a.ipAddress, a._ipCountry)
  | .reconnect row rand =>
    a.values = ((0, 0, 0, 0, rand.value), env.loadResult row.toAccountFields, a.ipAddress,
      a._ipCountry) ∧ (a._sentProof = false → a.K = setHexStr 0 row.sessionKey)

/-- **What holds in every state of a session.**  Before a challenge is completed its values are
zero; after it they are those of the challenge; and there is one challenge, so nothing is asked
of the database that could change them. -/
structure Inv (env : AuthEnv) (checked : Challenge → Prop) (a : AuthSession)
    (challenge : Option Challenge) : Prop where
  unset : challenge = none → (a.s, a.v, a.b, a.B, a._reconnectProof) = (0, 0, 0, 0, 0) ∧
    (a._sentProof = false → a.K = 0)
  challenged : ∀ c, challenge = some c → Challenged env a c
  passed : ∀ c, challenge = some c → checked c →
    (c.account env).refusal a.ipAddress a._ipCountry = none
  once : challenge ≠ none → a._sentChallenge = true
  pending : ∀ q, a._queryCallback = some q → q.IsChallenge →
    challenge = none ∧ a._sentChallenge = true
  start : a._queryCallback = some .checkIp → challenge = none ∧ a.reading = false

theorem inv_init (ipAddress : String) : Inv env checked (AuthSession.init ipAddress) none where
  unset := fun _ => ⟨rfl, fun _ => rfl⟩
  challenged := fun _ h => absurd h (by simp)
  passed := fun _ h => absurd h (by simp)
  once := fun h => absurd rfl h
  pending := by
    rintro q hq hchallenge
    obtain rfl := Option.some.inj hq
    exact absurd hchallenge id
  start := fun _ => ⟨rfl, rfl⟩

theorem values_eq {a a' : AuthSession} (h : a'.values = a.values) :
    ((a'.s, a'.v, a'.b, a'.B, a'._reconnectProof) = (a.s, a.v, a.b, a.B, a._reconnectProof)) ∧
      a'._accountInfo = a._accountInfo ∧ a'.ipAddress = a.ipAddress ∧
        a'._ipCountry = a._ipCountry := by
  simpa [AuthSession.values, and_assoc] using h

theorem Challenged.kept {a a' : AuthSession} (h : a.Kept a') {c : Challenge}
    (hc : Challenged env a c) : Challenged env a' c := by
  obtain ⟨-, -, hip, hcountry⟩ := values_eq h.values
  cases c with
  | logon row rand =>
    dsimp only [Challenged]
    rw [h.values, hip, hcountry]
    exact hc
  | reconnect row rand =>
    refine ⟨?_, fun hproof => ?_⟩
    · rw [h.values, hip, hcountry]
      exact hc.1
    · obtain ⟨hproof', hK⟩ := h.key hproof
      rw [hK]
      exact hc.2 hproof'

variable {challenge : Option Challenge} {a : AuthSession} {c : Challenge} {e : AuthEvent}

theorem Inv.kept {a a' : AuthSession}
    (h : Inv env checked a challenge) (hk : a.Kept a') : Inv env checked a' challenge where
  unset := by
    intro hnone
    obtain ⟨hzero, hK⟩ := h.unset hnone
    refine ⟨(values_eq hk.values).1.trans hzero, fun hproof => ?_⟩
    obtain ⟨hproof', hsame⟩ := hk.key hproof
    exact hsame.trans (hK hproof')
  challenged := fun c hc => (h.challenged c hc).kept hk
  passed := by
    intro c hc hchecked
    obtain ⟨-, -, hip, hcountry⟩ := values_eq hk.values
    rw [hip, hcountry]
    exact h.passed c hc hchecked
  once := fun hsome => hk.sent (h.once hsome)
  pending := by
    intro q hq hchallenge
    rcases hk.query q hq with hold | ⟨-, hnew⟩
    · obtain ⟨hnone, hsent⟩ := h.pending q hold hchallenge
      exact ⟨hnone, hk.sent hsent⟩
    · obtain ⟨hunsent, hsent⟩ := hnew hchallenge
      refine ⟨?_, hsent⟩
      by_contra hsome
      exact absurd ((h.once hsome).symm.trans hunsent) (by decide)
  start := by
    intro hip
    rcases hk.query _ hip with hold | ⟨hne, -⟩
    · obtain ⟨hnone, hreading⟩ := h.start hold
      exact ⟨hnone, hk.reading.trans hreading⟩
    · exact absurd rfl hne

theorem Inv.unchallenged {a a' : AuthSession} (h : Inv env checked a none)
    (hvalues : (a'.s, a'.v, a'.b, a'.B, a'._reconnectProof, a'.K, a'._sentProof)
      = (a.s, a.v, a.b, a.B, a._reconnectProof, a.K, a._sentProof))
    (hquery : a'._queryCallback = none) : Inv env checked a' none where
  unset := by
    intro hnone
    obtain ⟨hzero, hK⟩ := h.unset hnone
    simp only [Prod.mk.injEq] at hvalues hzero ⊢
    obtain ⟨hs, hv, hb, hB, hr, hK', hproof⟩ := hvalues
    refine ⟨⟨hs.trans hzero.1, hv.trans hzero.2.1, hb.trans hzero.2.2.1, hB.trans hzero.2.2.2.1,
      hr.trans hzero.2.2.2.2⟩, fun hunsent => hK'.trans (hK (hproof.symm.trans hunsent))⟩
  challenged := fun _ hc => absurd hc (by simp)
  passed := fun _ hc => absurd hc (by simp)
  once := fun hsome => absurd rfl hsome
  pending := fun _ hq => absurd (hquery.symm.trans hq) (by simp)
  start := fun hq => absurd (hquery.symm.trans hq) (by simp)

theorem inv_completed (hc : Challenged env a c)
    (hpassed : checked c → (c.account env).refusal a.ipAddress a._ipCountry = none)
    (hsent : a._sentChallenge = true) (hquery : a._queryCallback = none) :
    Inv env checked a (some c) where
  unset := fun hnone => absurd hnone (by simp)
  challenged := by
    rintro c' hc'
    obtain rfl := Option.some.inj hc'
    exact hc
  passed := by
    rintro c' hc' hchecked
    obtain rfl := Option.some.inj hc'
    exact hpassed hchecked
  once := fun _ => hsent
  pending := fun _ hq => absurd (hquery.symm.trans hq) (by simp)
  start := fun hq => absurd (hquery.symm.trans hq) (by simp)

theorem Inv.logonResult {login : List UInt8}
    (h : Inv env checked a challenge) (hopen : a.isOpen = true)
    (hquery : a._queryCallback = some (.logonChallenge login)) (row : Option LogonRow)
    (rand : LogonRand)
    (hchecked : ∀ c, completes env a (.logonResult row rand) = some c → checked c →
      (c.account env).refusal a.ipAddress a._ipCountry = none) :
    Inv env checked ({ a with _queryCallback := none }.logonChallengeCallback env rand row)
      ((completes env a (.logonResult row rand)).or challenge) := by
  obtain ⟨rfl, hsent⟩ := h.pending _ hquery trivial
  cases row with
  | none =>
    rw [AuthSession.logonChallengeCallback, AuthSession.sendPacket_eq,
      show completes env a (.logonResult none rand) = none by simp [completes]]
    exact h.unchallenged rfl rfl
  | some row =>
    simp only [completes, hopen, hquery] at hchecked ⊢
    unfold AuthSession.logonChallengeCallback
    dsimp only
    cases hrefusal : (env.loadResult row.toAccountFields).refusal a.ipAddress a._ipCountry with
    | some code =>
      dsimp only
      rw [if_neg (by simp), AuthSession.sendPacket_eq]
      exact h.unchallenged rfl rfl
    | none =>
      dsimp only
      rw [if_pos rfl, AuthSession.sendPacket_eq]
      obtain ⟨hzero, -⟩ := h.unset rfl
      simp only [Prod.mk.injEq] at hzero
      obtain ⟨hs, hv, -, -, hr⟩ := hzero
      refine inv_completed ?_ (fun _ => hrefusal) hsent rfl
      simp [Challenged, AuthSession.values, Challenge.verifier, AuthSession.verifierOf, hs, hv, hr,
        AuthSession.init]

theorem Inv.reconnectResult {login : List UInt8}
    (h : Inv env checked a challenge) (hopen : a.isOpen = true)
    (hquery : a._queryCallback = some (.reconnectChallenge login)) (row : Option ReconnectRow)
    (rand : Rand (16 * 8))
    (hchecked : ∀ c, completes env a (.reconnectResult row rand) = some c → checked c →
      (c.account env).refusal a.ipAddress a._ipCountry = none) :
    Inv env checked ({ a with _queryCallback := none }.reconnectChallengeCallback env rand row)
      ((completes env a (.reconnectResult row rand)).or challenge) := by
  obtain ⟨rfl, hsent⟩ := h.pending _ hquery trivial
  cases row with
  | none =>
    rw [AuthSession.reconnectChallengeCallback, AuthSession.sendPacket_eq,
      show completes env a (.reconnectResult none rand) = none by simp [completes]]
    exact h.unchallenged rfl rfl
  | some row =>
    simp only [completes, hopen, hquery] at hchecked ⊢
    rw [AuthSession.reconnectChallengeCallback, AuthSession.sendPacket_eq]
    obtain ⟨hzero, hK⟩ := h.unset rfl
    simp only [Prod.mk.injEq] at hzero
    obtain ⟨hs, hv, hb, hB, -⟩ := hzero
    refine inv_completed ⟨?_, ?_⟩ (hchecked _ rfl) hsent rfl
    · simp [AuthSession.values, hs, hv, hb, hB]
    · intro hproof
      exact congrArg (setHexStr · row.sessionKey) (hK hproof)

theorem Inv.step (h : Inv env checked a challenge) (e : AuthEvent)
    (hchecked : ∀ c, completes env a e = some c → checked c →
      (c.account env).refusal a.ipAddress a._ipCountry = none) :
    Inv env checked (a.step env e) ((completes env a e).or challenge) := by
  cases hopen : a.isOpen with
  | false => simpa [AuthSession.step, completes, hopen] using h
  | true =>
    unfold AuthSession.step
    rw [if_neg (by simp [hopen])]
    split
    · rw [show completes env a (.packet _ _) = none by simp [completes], Option.none_or]
      split
      · exact h.kept (a.kept_receive env _ _)
      · exact h
    · next rows hquery =>
      rw [show completes env a (.ipResult rows) = none by simp [completes], Option.none_or]
      obtain ⟨rfl, -⟩ := h.start hquery
      unfold AuthSession.checkIpCallback
      dsimp only
      split
      · rw [AuthSession.sendPacket_eq]; exact h.unchallenged rfl rfl
      · exact h.unchallenged rfl rfl
    · next row rand login hquery => exact h.logonResult hopen hquery row rand hchecked
    · next row rand login hquery => exact h.reconnectResult hopen hquery row rand hchecked
    · next hquery =>
      rw [show completes env a .realmListResult = none by simp [completes], Option.none_or]
      exact h.kept ⟨rfl, rfl, fun h => ⟨h, rfl⟩, fun h => h, fun _ hq => absurd hq (by simp)⟩
    · next e _ _ hpacket hip hlogon hreconnect hrealm =>
      have hnone : completes env a e = none := by
        unfold completes
        split
        · rfl
        · split
          · next hquery => exact absurd hquery (hlogon _ _ _ rfl)
          · next hquery => exact absurd hquery (hreconnect _ _ _ rfl)
          · rfl
      rwa [hnone, Option.none_or]

theorem Inv.completes_eq_none (h : Inv env checked a (some c))
    (e : AuthEvent) : completes env a e = none := by
  unfold completes
  split
  · rfl
  · split
    · next hquery => exact absurd (h.pending _ hquery trivial).1 (by simp)
    · next hquery => exact absurd (h.pending _ hquery trivial).1 (by simp)
    · rfl

theorem Inv.step_values (h : Inv env checked a (some c))
    (e : AuthEvent) : (a.step env e).values = a.values := by
  unfold AuthSession.step
  split
  · rfl
  · split
    · split
      · exact (a.kept_receive env _ _).values
      · rfl
    · next hquery => exact absurd (h.start hquery).1 (by simp)
    · next hquery => exact absurd (h.pending _ hquery trivial).1 (by simp)
    · next hquery => exact absurd (h.pending _ hquery trivial).1 (by simp)
    · rfl
    · rfl

theorem logonChallengeCallback_status (a : AuthSession) (rand : LogonRand)
    (row : Option LogonRow) : (a.logonChallengeCallback env rand row)._status = a._status := by
  cases row with
  | none => rw [AuthSession.logonChallengeCallback, AuthSession.sendPacket_eq]
  | some row =>
    unfold AuthSession.logonChallengeCallback
    dsimp only
    split
    · rw [AuthSession.sendPacket_eq]
    · rw [AuthSession.sendPacket_eq]

theorem reconnectChallengeCallback_status (a : AuthSession) (rand : Rand (16 * 8))
    (row : Option ReconnectRow) :
    (a.reconnectChallengeCallback env rand row)._status = a._status := by
  cases row with
  | none => rw [AuthSession.reconnectChallengeCallback, AuthSession.sendPacket_eq]
  | some row => rw [AuthSession.reconnectChallengeCallback, AuthSession.sendPacket_eq]

theorem checkIpCallback_status (a : AuthSession) (rows : List (Bool × String)) :
    (a.checkIpCallback rows)._status = a._status := by
  unfold AuthSession.checkIpCallback
  dsimp only
  split
  · rw [AuthSession.sendPacket_eq]
  · rfl

theorem step_authed (ha : a._status = .STATUS_CONNECTED)
    (h : (a.step env e)._status = .STATUS_AUTHED) : ∃ p token, e = .packet p token ∧
      a.isOpen = true ∧ a.reading = true ∧ a.step env e = a.receive env token p := by
  have hne : a._status ≠ .STATUS_AUTHED := by rw [ha]; decide
  unfold AuthSession.step at h ⊢
  split at h
  · exact absurd h hne
  · next hopen =>
    split at h
    · split at h
      · next hreading =>
        exact ⟨_, _, rfl, by simpa using hopen, hreading, by simp [hopen, hreading]⟩
      · exact absurd h hne
    · exact absurd ((checkIpCallback_status _ _).symm.trans h) hne
    · exact absurd ((logonChallengeCallback_status _ _ _).symm.trans h) hne
    · exact absurd ((reconnectChallengeCallback_status _ _ _).symm.trans h) hne
    · exact absurd h hne
    · exact absurd h hne

/-- **A proof that is accepted answers the challenge.**  Without a `b` there would be none to
answer. -/
theorem Inv.answered {p : ClientPacket}
    {token : TokenEnv} (h : Inv env checked a challenge) (ha : a._status = .STATUS_CONNECTED)
    (hauthed : (a.receive env token p)._status = .STATUS_AUTHED)
    (hb : ∀ proof, p = .logonProof proof → a._sentProof = false →
      a._expversion ≠ NO_VALID_EXP_FLAG → setBinary proof.A ≠ 0 → a.b ≠ 0) :
    ∃ c proof, challenge = some c ∧ proofOf (.packet p token) = some proof ∧
      c.Answered env proof ∧ a._accountInfo = c.account env := by
  obtain ⟨hproof, hcase⟩ := AuthSession.receive_accepts ha hauthed
  rcases hcase with ⟨proof, rfl, hversion, hA, hM⟩ | ⟨proof, rfl, hset, hR⟩
  · have hb' := hb proof rfl hproof hversion hA
    rcases hc : challenge with - | c
    · obtain ⟨hzero, -⟩ := h.unset hc
      simp only [Prod.mk.injEq] at hzero
      exact absurd hzero.2.2.1 hb'
    · have hvalues := h.challenged c hc
      cases c with
      | logon row rand =>
        simp only [Challenged, AuthSession.values, Prod.mk.injEq] at hvalues
        obtain ⟨⟨hs, hv, hb, hB, -⟩, haccount, -, -⟩ := hvalues
        refine ⟨_, _, rfl, rfl, ?_, haccount⟩
        rw [hs, hv, hb, hB, haccount] at hM
        exact hM
      | reconnect row rand =>
        simp only [Challenged, AuthSession.values, Prod.mk.injEq] at hvalues
        exact absurd hvalues.1.1.2.2.1 hb'
  · rcases hc : challenge with - | c
    · obtain ⟨hzero, -⟩ := h.unset hc
      simp only [Prod.mk.injEq] at hzero
      exact absurd hzero.2.2.2.2 hset
    · have hvalues := h.challenged c hc
      cases c with
      | logon row rand =>
        simp only [Challenged, AuthSession.values, Prod.mk.injEq] at hvalues
        exact absurd hvalues.1.2.2.2.2 hset
      | reconnect row rand =>
        simp only [Challenged, AuthSession.values, Prod.mk.injEq] at hvalues
        obtain ⟨⟨⟨-, -, -, -, hr⟩, haccount, -, -⟩, hK⟩ := hvalues
        refine ⟨_, _, rfl, rfl, ?_, haccount⟩
        rw [hr, haccount, hK hproof] at hR
        exact hR

theorem Authentic.step (hinv : Inv env checked w.session w.challenge)
    (h : w.Authentic env checked) {e : AuthEvent} (hb : w.ProofAfterChallenge e) :
    (w.step env e).Authentic env checked := by
  intro hauthed
  -- with the challenge completed, the event cannot complete another or change its values
  have hkeep : ∀ c, w.challenge = some c → (w.step env e).challenge = some c ∧
      (w.step env e).session._accountInfo = w.session._accountInfo ∧
      (checked c → (c.account env).refusal (w.step env e).session.ipAddress
        (w.step env e).session._ipCountry = none) := by
    intro c hc
    rw [hc] at hinv
    obtain ⟨-, haccount, hip, hcountry⟩ := values_eq (hinv.step_values e)
    refine ⟨?_, haccount, fun hchecked => ?_⟩
    · show (completes env w.session e).or w.challenge = some c
      rw [hinv.completes_eq_none e, Option.none_or, hc]
    · show (c.account env).refusal (w.session.step env e).ipAddress
        (w.session.step env e)._ipCountry = none
      rw [hip, hcountry]
      exact hinv.passed c rfl hchecked
  cases ha : w.session._status with
  | STATUS_AUTHED =>
    obtain ⟨c, proof, hc, hproof, hanswered, haccount, -⟩ := h ha
    obtain ⟨hc', haccount', hpassed⟩ := hkeep c hc
    refine ⟨c, proof, hc', ?_, hanswered, haccount'.trans haccount, hpassed⟩
    rw [Login.step, if_neg (by simp [ha])]
    exact hproof
  | STATUS_CONNECTED =>
    obtain ⟨p, token, rfl, hopen, hreading, hstep⟩ := step_authed ha hauthed
    have hreceive : (w.session.receive env token p)._status = .STATUS_AUTHED := by
      rw [← hstep]; exact hauthed
    obtain ⟨c, proof, hc, hproof, hanswered, haccount⟩ := hinv.answered ha hreceive
      fun proof hp => hb proof token (congrArg (AuthEvent.packet · token) hp) hopen hreading ha
    obtain ⟨hc', haccount', hpassed⟩ := hkeep c hc
    refine ⟨c, proof, hc', ?_, hanswered, haccount'.trans haccount, hpassed⟩
    rw [Login.step, if_pos ⟨ha, hauthed⟩]
    exact hproof

theorem authentic_of_steps {ipAddress : String} {events : List AuthEvent}
    (h : Steps (Login.step env) (fun w e => w.ProofAfterChallenge e ∧
      ∀ c, completes env w.session e = some c → checked c →
        (c.account env).refusal w.session.ipAddress w.session._ipCountry = none)
      (Login.init ipAddress) events) :
    States (Login.step env) (Authentic env checked) (Login.init ipAddress) events := by
  refine States.imp (fun _ hw => hw.2) (States.of_steps
    (I := fun w => Inv env checked w.session w.challenge ∧ w.Authentic env checked) ?_
    ⟨inv_init ipAddress, fun hauthed => absurd hauthed (by simp [init, AuthSession.init])⟩ h)
  exact fun w e hw hC => ⟨hw.1.step e hC.2, hw.2.step hw.1 hC.1⟩

theorem completes_logon (h : completes env a e = some c) (hc : c.IsLogon) :
    (c.account env).refusal a.ipAddress a._ipCountry = none := by
  unfold completes at h
  split at h
  · exact absurd h (by simp)
  · split at h
    · split at h
      · next hrefusal =>
        obtain rfl := Option.some.inj h
        exact hrefusal
      · exact absurd h (by simp)
    · obtain rfl := Option.some.inj h
      exact absurd hc id
    · exact absurd h (by simp)

theorem ReconnectChecked.completes (hw : w.ReconnectChecked env e) {c : Challenge}
    (h : Login.completes env w.session e = some c) :
    (c.account env).refusal w.session.ipAddress w.session._ipCountry = none := by
  cases c with
  | logon row rand => exact completes_logon h trivial
  | reconnect row rand =>
    refine hw row rand ?_
    unfold Login.completes at h
    split at h
    · exact absurd h (by simp)
    · split at h
      · split at h
        · exact absurd h (by simp)
        · exact absurd h (by simp)
      · obtain ⟨rfl, rfl⟩ := Challenge.reconnect.inj (Option.some.inj h)
        rfl
      · exact absurd h (by simp)

end Login

/-- **Nobody gets past the challenge**, in any run in which every logon proof that reaches the
SRP6 calculation finds a `b`. If moreover no reconnect challenge is answered with an account that
a logon challenge would have refused, the account has passed the checks in either case. -/
theorem authed_after_challenge (env : AuthEnv) (ipAddress : String) (events : List AuthEvent) :
    (Steps (Login.step env) Login.ProofAfterChallenge (Login.init ipAddress) events →
      States (Login.step env) (Login.Authentic env Challenge.IsLogon) (Login.init ipAddress)
        events) ∧
    (Steps (Login.step env) (fun w e => w.ProofAfterChallenge e ∧ w.ReconnectChecked env e)
        (Login.init ipAddress) events →
      States (Login.step env) (Login.Authentic env fun _ => True) (Login.init ipAddress)
        events) := by
  constructor
  · intro h
    exact Login.authentic_of_steps
      (h.imp fun _ _ hb => ⟨hb, fun _ hc hlogon => Login.completes_logon hc hlogon⟩)
  · intro h
    exact Login.authentic_of_steps
      (h.imp fun _ _ hb => ⟨hb.1, fun _ hc _ => hb.2.completes hc⟩)

/-! ## 7. A proof without a challenge -/

/-- **Whoever asks is let in**: without a `b` the right `M1` does not depend on the password. -/
theorem unchallenged_proof_accepted {env : AuthEnv} {token : TokenEnv} {a : AuthSession}
    {proof : AuthLogonProof} (hproof : a._sentProof = false)
    (hversion : a._expversion ≠ NO_VALID_EXP_FLAG) (hA : setBinary proof.A ≠ 0) (hb : a.b = 0)
    (htoken : a._tokenKey = "") (hflags : proof.securityFlags &&& 0x04 = 0)
    (hM : proof.M1 = (asByteArray 20 (env.crypto.proofM a._accountInfo.Login a.s
      (setBinary proof.A) a.B (env.crypto.sessionKey 1))).take 20) :
    (a.handleLogonProof env token proof).session._status = .STATUS_AUTHED := by
  refine AuthSession.handleLogonProof_accepts hproof hversion hA htoken hflags ?_
  rw [hM, Crypto.expectedM1, hb, Crypto.secret_zero]

/-- Real exponentiation, and a hash that keeps the first 20 bytes. -/
def plainEnv : AuthEnv where
  crypto :=
    { sha1 := fun bytes => Vector.ofFn fun i => bytes.getD i 0
      modExp := fun x e m => x ^ e % m
      modExp_zero := fun _ _ hm => Nat.mod_eq_of_lt hm
      zero_modExp := fun e m he => by rw [Nat.zero_pow he, Nat.zero_mod] }
  utf8ToUpperOnlyLatin := id

def accountA (banned : Bool) : LogonRow where
  id := 1
  username := [65]
  locked := false
  lock_country := ""
  last_ip := ""
  failed_logins := 0
  banned := banned
  permanent := banned
  gmlevel := 0
  token_key := ""
  sha_pass_hash := ""
  v := ""
  s := ""

def someRand : LogonRand where
  s := ⟨2 ^ 255 + 1, by decide, by decide, by decide⟩
  b := ⟨2 ^ 151 + 1, by decide, by decide, by decide⟩
  unk3 := ⟨2 ^ 127 + 1, by decide, by decide, by decide⟩

def noToken : TokenEnv := ⟨[], fun _ => 0⟩

/-- A logon as "A" with build 12340: the challenge, the answer to it, and a proof with `A = 1`. -/
def logonRun (banned : Bool) (M1 : List UInt8) : List AuthEvent :=
  [.ipResult [], .packet (.logonChallenge ⟨31, 12340, 1, [65]⟩) noToken,
    .logonResult (some (accountA banned)) someRand, .packet (.logonProof ⟨[1], M1, 0⟩) noToken]

/-- The `M1` that needs no password. -/
def openM1 : List UInt8 :=
  (asByteArray 20 (plainEnv.crypto.proofM [65] 0 1 0 (plainEnv.crypto.sessionKey 1))).take 20

/-- The session of the banned account once it has been refused. -/
def refusedSession : AuthSession where
  ipAddress := ""
  reading := true
  _sentChallenge := true
  _build := 12340
  _expversion := POST_BC_EXP_FLAG
  _queryCallback := none
  _accountInfo := plainEnv.loadResult (accountA true).toAccountFields
  sent := [[0, 0, 3]]

/-- The banned account is refused, and logs in all the same. -/
theorem banned_account_authed : ¬ States (Login.step plainEnv)
    (Login.Authentic plainEnv Challenge.IsLogon) (Login.init "") (logonRun true openM1) := by
  rintro ⟨-, -, -, -, hlast⟩
  have hauthed : (refusedSession.receive plainEnv noToken
      (.logonProof ⟨[1], openM1, 0⟩))._status = .STATUS_AUTHED := by
    rw [AuthSession.receive_status, if_neg (by decide)]
    exact unchallenged_proof_accepted rfl (by decide) (by decide) rfl rfl (by decide) rfl
  obtain ⟨c, -, hc, -⟩ := hlast hauthed
  exact absurd (show (none : Option Challenge) = some c from hc) (by simp)

/-- The `M1` of a client that knows the password. -/
def honestM1 : List UInt8 :=
  let sv := Challenge.verifier plainEnv (accountA false) someRand
  plainEnv.crypto.expectedM1 [65] sv.1 sv.2 someRand.b.value
    (plainEnv.crypto.serverPublic sv.2 someRand.b.value) 1

/-- The account that is not banned logs in after its challenge. -/
theorem honest_logon :
    (exec (Login.step plainEnv) (Login.init "") (logonRun false honestM1)).session._status
        = .STATUS_AUTHED ∧
      States (Login.step plainEnv) (Login.Authentic plainEnv Challenge.IsLogon) (Login.init "")
        (logonRun false honestM1) := by
  constructor
  · have hstep : (exec (Login.step plainEnv) (Login.init "") (logonRun false honestM1)).session
        = (exec (Login.step plainEnv) (Login.init "")
            ((logonRun false honestM1).take 3)).session.receive plainEnv noToken
            (.logonProof ⟨[1], honestM1, 0⟩) := rfl
    rw [hstep, AuthSession.receive_status, if_neg (by decide)]
    exact AuthSession.handleLogonProof_accepts rfl (by decide) (by decide) rfl (by decide) rfl
  · refine (authed_after_challenge plainEnv "" _).1 ⟨?_, ?_, ?_, ?_, trivial⟩
    · exact fun _ _ h => absurd h (by simp)
    · exact fun _ _ h => absurd h (by simp)
    · exact fun _ _ h => absurd h (by simp)
    · exact fun _ _ _ _ _ _ _ _ _ => someRand.b.ne_zero

end FunPvp.Auth
