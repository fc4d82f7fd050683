/-
# SRP6 at the login server

The numbers of the handshake are `BigNumber`s and cross the wire as little-endian bytes. Hash
and modular exponentiation are parameters (`Crypto`), of which only two laws are known. What
the server computes from them is one definition each: the secret `S`, the session key made of
it, and the proof `M` that the client has to know.
-/
import Mathlib

namespace FunPvp.Auth

/-! ## 1. Big numbers -/

/-- `BigNumber::SetBinary`. -/
def setBinary (bytes : List UInt8) : ℕ := bytes.foldr (fun byte n => byte.toNat + 256 * n) 0

/-- `AsByteArray()`, without padding. -/
def asBytes (n : ℕ) : List UInt8 := (Nat.digits 256 n).map UInt8.ofNat

def getNumBytes (n : ℕ) : ℕ := (asBytes n).length

/-- `BigNumber::AsByteArray`. -/
def asByteArray (minSize n : ℕ) : List UInt8 :=
  asBytes n ++ List.replicate (minSize - getNumBytes n) 0

def hexDigit (c : Char) : Option ℕ :=
  if '0' ≤ c ∧ c ≤ '9' then some (c.toNat - '0'.toNat)
  else if 'a' ≤ c ∧ c ≤ 'f' then some (c.toNat - 'a'.toNat + 10)
  else if 'A' ≤ c ∧ c ≤ 'F' then some (c.toNat - 'A'.toNat + 10)
  else none

/-- `BigNumber::SetHexStr`: the digits the string begins with. A string that begins with none
leaves the number as it was. -/
def setHexStr (old : ℕ) (str : String) : ℕ :=
  match (str.toList.map hexDigit).takeWhile Option.isSome with
  | [] => old
  | digits => digits.foldl (fun n d => 16 * n + d.getD 0) 0

theorem getNumBytes_eq_zero {n : ℕ} : getNumBytes n = 0 ↔ n = 0 := by
  simp [getNumBytes, asBytes, Nat.digits_eq_nil_iff_eq_zero]

/-- `BigNumber::SetRand(numbits)`: `BN_rand` with the top bit set, and odd. -/
structure Rand (numbits : ℕ) where
  value : ℕ
  top : 2 ^ (numbits - 1) ≤ value
  lt : value < 2 ^ numbits
  odd : value % 2 = 1

theorem Rand.ne_zero {numbits : ℕ} (r : Rand numbits) : r.value ≠ 0 := by
  have hodd := r.odd
  rintro hzero
  rw [hzero] at hodd
  exact absurd hodd (by decide)

/-! ## 2. The handshake -/

/-- Hash and modular exponentiation, and the laws of the latter. -/
structure Crypto where
  sha1 : List UInt8 → Vector UInt8 20
  modExp : ℕ → ℕ → ℕ → ℕ
  modExp_zero : ∀ x m, 1 < m → modExp x 0 m = 1
  zero_modExp : ∀ e m, 0 < e → modExp 0 e m = 0

def srpN : ℕ := 0x894B645E89E1535BBDAD5B8B290650530801B18EBFBF5E8FAB3C82872A3E9BB7

def srpG : ℕ := 7

namespace Crypto

variable (crypto : Crypto)

/-- `sha.GetDigest()` after one `UpdateData`. -/
def digest (bytes : List UInt8) : List UInt8 := (crypto.sha1 bytes).toList

/-- `v` in `SetVSFields`: `rI` is the password hash of the database, `s` the new salt. -/
def verifier (rI : String) (s : ℕ) : ℕ :=
  let mDigest := ((asByteArray 20 (setHexStr 0 rI)).take 20).reverse
  let x := setBinary (crypto.digest ((asByteArray 32 s).take 32 ++ mDigest))
  crypto.modExp srpG x srpN

def serverPublic (v b : ℕ) : ℕ := (v * 3 + crypto.modExp srpG b srpN) % srpN

def secret (A v b B : ℕ) : ℕ :=
  let u := setBinary (crypto.digest (asBytes A ++ asBytes B))
  crypto.modExp (A * crypto.modExp v u srpN) b srpN

/-- `t1`: every other byte of `S`, from the first or from the second on. -/
def everyOther (S offset : ℕ) : List UInt8 :=
  (List.range 16).map fun i => (asByteArray 32 S).getD (2 * i + offset) 0

/-- `K`: the digests of the two halves of `S`, byte by byte in turn. -/
def sessionKey (S : ℕ) : ℕ :=
  setBinary <| (List.zipWith (fun even odd => [even, odd])
    (crypto.digest (everyOther S 0)) (crypto.digest (everyOther S 1))).flatten

/-- `M`: what the client has to send as `M1`. -/
def proofM (login : List UInt8) (s A B K : ℕ) : ℕ :=
  let hash := List.zipWith (· ^^^ ·) (crypto.digest (asBytes srpN)) (crypto.digest (asBytes srpG))
  let t3 := setBinary hash
  let t4 := crypto.digest login
  setBinary (crypto.digest
    (asBytes t3 ++ t4 ++ asBytes s ++ asBytes A ++ asBytes B ++ asBytes K))

/-- The `M1` that `HandleLogonProof` compares with. -/
def expectedM1 (login : List UInt8) (s v b B A : ℕ) : List UInt8 :=
  (asByteArray 20 (crypto.proofM login s A B (crypto.sessionKey (crypto.secret A v b B)))).take 20

/-- The digest that `HandleReconnectProof` compares with. -/
def expectedR2 (login R1 : List UInt8) (reconnectProof K : ℕ) : List UInt8 :=
  crypto.digest (login ++ asBytes (setBinary R1) ++ asBytes reconnectProof ++ asBytes K)

theorem secret_zero (A v B : ℕ) : crypto.secret A v 0 B = 1 :=
  crypto.modExp_zero _ _ (by decide)

end Crypto

end FunPvp.Auth
