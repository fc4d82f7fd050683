/-
# An honest login

The other side of SRP6: a client that knows the password hash of the account. From the salt and
the server's `B` it computes the secret as the server does, without the verifier
(`Client.secret_eq`), because both are a power of `srpG` with the same exponent. So once its
challenge has been completed, whatever else has happened to the session, its proof is accepted,
both sides have the same session key, and the reply proves that to the client.

The client is not part of the repository: it hashes the numbers as the server does.
-/
import FunPvp.Auth.Session

namespace FunPvp.Auth

open FunPvp.Lib

/-! ## 1. One power, computed twice -/

/-- Modular exponentiation as it is documented. -/
def Crypto.IsPow (crypto : Crypto) : Prop := ∀ x e m, 0 < m → crypto.modExp x e m = x ^ e % m

theorem withoutVerifier_modEq (g b x : ℕ) {N : ℕ} (hN : 0 < N) :
    (g ^ x % N * 3 + g ^ b % N) % N + 3 * (N - g ^ x % N) ≡ g ^ b [MOD N] := by
  have hle : g ^ x % N ≤ N := (Nat.mod_lt _ hN).le
  have hsum : g ^ x % N * 3 + g ^ b % N + 3 * (N - g ^ x % N) = g ^ b % N + N * 3 := by omega
  calc (g ^ x % N * 3 + g ^ b % N) % N + 3 * (N - g ^ x % N)
      ≡ g ^ x % N * 3 + g ^ b % N + 3 * (N - g ^ x % N) [MOD N] :=
        Nat.ModEq.add_right _ (Nat.mod_modEq _ _)
    _ = g ^ b % N + N * 3 := hsum
    _ ≡ g ^ b % N [MOD N] := Nat.add_mul_mod_self_left _ _ _
    _ ≡ g ^ b [MOD N] := Nat.mod_modEq _ _

theorem agreed_modEq (g a b x u : ℕ) {N : ℕ} (hN : 0 < N) :
    (g ^ a % N * ((g ^ x % N) ^ u % N)) ^ b ≡
      ((g ^ x % N * 3 + g ^ b % N) % N + 3 * (N - g ^ x % N)) ^ (a + u * x) [MOD N] := by
  have hserver : g ^ a % N * ((g ^ x % N) ^ u % N) ≡ g ^ a * (g ^ x) ^ u [MOD N] :=
    (Nat.mod_modEq _ _).mul ((Nat.mod_modEq _ _).trans ((Nat.mod_modEq _ _).pow u))
  calc (g ^ a % N * ((g ^ x % N) ^ u % N)) ^ b
      ≡ (g ^ a * (g ^ x) ^ u) ^ b [MOD N] := hserver.pow b
    _ = (g ^ b) ^ (a + u * x) := by ring
    _ ≡ _ [MOD N] := ((withoutVerifier_modEq g b x hN).pow _).symm

theorem setBinary_asByteArray (minSize n : ℕ) : setBinary (asByteArray minSize n) = n := by
  have hofDigits : ∀ l : List UInt8, setBinary l = Nat.ofDigits 256 (l.map UInt8.toNat) := by
    intro l
    induction l with
    | nil => rfl
    | cons byte l ih =>
      rw [List.map_cons, Nat.ofDigits_cons, ← ih]
      rfl
  have hbytes : (asBytes n).map UInt8.toNat = Nat.digits 256 n := by
    rw [asBytes, List.map_map]
    refine (List.map_congr_left fun d hd => ?_).trans (List.map_id _)
    exact UInt8.toNat_ofNat_of_lt' (Nat.digits_lt_base (by decide) hd)
  rw [hofDigits, asByteArray, List.map_append, List.map_replicate, hbytes]
  exact (Nat.ofDigits_append_replicate_zero _).trans (Nat.ofDigits_digits 256 n)

/-! ## 2. The client -/

/-- `x` in `SetVSFields`. -/
def Crypto.privateKey (crypto : Crypto) (rI : String) (s : ℕ) : ℕ :=
  setBinary (crypto.digest ((asByteArray 32 s).take 32 ++
    ((asByteArray 20 (setHexStr 0 rI)).take 20).reverse))

/-- A client: its account, the password hash, and a secret exponent. -/
structure Client where
  login : List UInt8
  rI : String
  a : ℕ

namespace Client

variable (crypto : Crypto) (c : Client) (s B : ℕ)

def A : ℕ := crypto.modExp srpG c.a srpN

def secret : ℕ :=
  let x := crypto.privateKey c.rI s
  let u := setBinary (crypto.digest (asBytes (c.A crypto) ++ asBytes B))
  crypto.modExp (B + 3 * (srpN - crypto.modExp srpG x srpN)) (c.a + u * x) srpN

def K : ℕ := crypto.sessionKey (c.secret crypto s B)

def M : ℕ := crypto.proofM c.login s (c.A crypto) B (c.K crypto s B)

def logonProof : AuthLogonProof where
  A := asByteArray 32 (c.A crypto)
  M1 := (asByteArray 20 (c.M crypto s B)).take 20
  securityFlags := 0

/-- What the client expects of a server that knows the verifier. -/
def M2 : List UInt8 :=
  crypto.digest (asBytes (c.A crypto) ++ asBytes (c.M crypto s B) ++ asBytes (c.K crypto s B))

variable {crypto}

theorem secret_eq (hpow : crypto.IsPow) (b : ℕ) :
    crypto.secret (c.A crypto) (crypto.verifier c.rI s) b
        (crypto.serverPublic (crypto.verifier c.rI s) b) =
      c.secret crypto s (crypto.serverPublic (crypto.verifier c.rI s) b) := by
  have hN : 0 < srpN := by decide
  have hv : crypto.verifier c.rI s = crypto.modExp srpG (crypto.privateKey c.rI s) srpN := rfl
  unfold Crypto.secret Client.secret Client.A Crypto.serverPublic
  simp only [hv, hpow _ _ _ hN]
  exact agreed_modEq srpG c.a b _ _ hN

theorem A_ne_zero (hpow : crypto.IsPow) : c.A crypto ≠ 0 := by
  have hcoprime : Nat.Coprime srpG srpN := by decide
  rw [A, hpow _ _ _ (by decide)]
  intro hzero
  have hone := (hcoprime.symm.pow_right c.a).eq_one_of_dvd (Nat.dvd_of_mod_eq_zero hzero)
  exact absurd hone (by decide)

end Client

/-! ## 3. The proof is accepted -/

/-- A challenge is completed, and the session waits for its proof, which needs no token. -/
structure Login.Ready (w : Login) (row : LogonRow) (rand : LogonRand) : Prop where
  challenge : w.challenge = some (.logon row rand)
  isOpen : w.session.isOpen = true
  reading : w.session.reading = true
  status : w.session._status = .STATUS_CONNECTED
  unproved : w.session._sentProof = false
  version : w.session._expversion ≠ NO_VALID_EXP_FLAG
  token : w.session._tokenKey = ""

theorem AuthSession.handleLogonProof_right (env : AuthEnv) (token : TokenEnv) {a : AuthSession}
    {proof : AuthLogonProof} {A : ℕ} (hunproved : a._sentProof = false)
    (hversion : a._expversion ≠ NO_VALID_EXP_FLAG)
    (hA : setBinary proof.A = A) (hne : A ≠ 0) (htoken : a._tokenKey = "")
    (hflags : proof.securityFlags = 0)
    (hM : proof.M1 = env.crypto.expectedM1 a._accountInfo.Login a.s a.v a.b a.B A) :
    let K := env.crypto.sessionKey (env.crypto.secret A a.v a.b a.B)
    let M := env.crypto.proofM a._accountInfo.Login a.s A a.B K
    a.handleLogonProof env token proof = ⟨true, { { a with _sentProof := true, K := K }.sendPacket
      (logonProofReply a._expversion (env.crypto.digest (asBytes A ++ asBytes M ++ asBytes K)))
      with _status := .STATUS_AUTHED }, 0⟩ := by
  subst hA
  rw [Crypto.expectedM1] at hM
  unfold handleLogonProof
  rw [if_neg (by simp [hunproved])]
  dsimp only
  rw [if_neg hversion, if_neg hne, if_pos hM.symm,
    if_neg (by rw [hflags]; simp [htoken])]

theorem Login.inv_exec (env : AuthEnv) (ipAddress : String) (events : List AuthEvent) :
    let w := exec (Login.step env) (Login.init ipAddress) events
    Inv env (fun _ => False) w.session w.challenge := by
  suffices h : ∀ w : Login, Inv env (fun _ => False) w.session w.challenge →
      let w' := exec (Login.step env) w events
      Inv env (fun _ => False) w'.session w'.challenge from h _ (inv_init ipAddress)
  induction events with
  | nil => exact fun _ h => h
  | cons e events ih => exact fun w h => ih (w.step env e) (h.step e fun _ _ => False.elim)

/-- **Who knows the password is let in.** In any run, once the challenge of the account has been
completed, the proof of its client authenticates the session. Both sides then have the same
session key, and the reply has the `M2` that the client expects. -/
theorem honest_proof_accepted {env : AuthEnv} (hpow : env.crypto.IsPow) (ipAddress : String)
    (events : List AuthEvent) (c : Client) (token : TokenEnv) (row : LogonRow) (rand : LogonRand)
    (hready : (exec (Login.step env) (Login.init ipAddress) events).Ready row rand)
    (hlogin : c.login = (env.loadResult row.toAccountFields).Login)
    (hpassword : (Challenge.verifier env row rand).2 =
      env.crypto.verifier c.rI (Challenge.verifier env row rand).1) :
    let a := (exec (Login.step env) (Login.init ipAddress) events).session
    let a' := a.step env (.packet (.logonProof (c.logonProof env.crypto a.s a.B)) token)
    a'._status = .STATUS_AUTHED ∧ a'.K = c.K env.crypto a.s a.B ∧
      a'.sent = a.sent ++
        [AuthSession.logonProofReply a._expversion (c.M2 env.crypto a.s a.B)] := by
  have hinv := Login.inv_exec env ipAddress events
  generalize exec (Login.step env) (Login.init ipAddress) events = w at hready hinv
  obtain ⟨hchallenge, hopen, hreading, hstatus, hunproved, hversion, htoken⟩ := hready
  have hvalues := hinv.challenged _ hchallenge
  simp only [Login.Challenged, AuthSession.values, Prod.mk.injEq] at hvalues
  obtain ⟨⟨hs, hv, hb, hB, -⟩, haccount, -, -⟩ := hvalues
  rw [hpassword, ← hs] at hv hB
  -- the server computes what the client has computed
  have hsecret : env.crypto.secret (c.A env.crypto) w.session.v w.session.b w.session.B =
      c.secret env.crypto w.session.s w.session.B := by
    rw [hv, hb, hB]
    exact c.secret_eq _ hpow _
  have hname : w.session._accountInfo.Login = c.login := by rw [haccount, hlogin]
  have hM : (c.logonProof env.crypto w.session.s w.session.B).M1 =
      env.crypto.expectedM1 w.session._accountInfo.Login w.session.s w.session.v w.session.b
        w.session.B (c.A env.crypto) := by
    rw [Crypto.expectedM1, hsecret, hname]
    rfl
  have hright := AuthSession.handleLogonProof_right env token hunproved hversion
    (setBinary_asByteArray 32 _) (c.A_ne_zero hpow) htoken rfl hM
  have hstep : w.session.step env (.packet (.logonProof (c.logonProof env.crypto w.session.s
      w.session.B)) token) = (w.session.handleLogonProof env token (c.logonProof env.crypto
      w.session.s w.session.B)).session := by
    unfold AuthSession.step AuthSession.receive
    simp only [hopen, hreading, hstatus]
    rw [if_neg (by decide), if_pos trivial, if_neg (fun hne => hne rfl)]
    simp only [AuthSession.handle, hright, if_true]
  simp only [hstep, hright, hsecret, hname]
  rw [AuthSession.sendPacket_eq]
  simp only [hopen, if_true]
  exact ⟨trivial, rfl, rfl⟩

def clientA : Client := ⟨[65], "", 1⟩

def challengedA : AuthSession :=
  (exec (Login.step plainEnv) (Login.init "") ((logonRun false []).take 3)).session

theorem clientA_accepted :
    (challengedA.step plainEnv (.packet (.logonProof (clientA.logonProof plainEnv.crypto
      challengedA.s challengedA.B)) noToken))._status = .STATUS_AUTHED :=
  (honest_proof_accepted (fun _ _ _ _ => rfl) "" ((logonRun false []).take 3) clientA noToken
    (accountA false) someRand ⟨rfl, rfl, rfl, rfl, rfl, by decide, rfl⟩ rfl rfl).1

end FunPvp.Auth
