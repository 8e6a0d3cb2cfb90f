import FxStrategyLab.Library.Decide

/-!
# Canonical texts and their SHA-256 digests

Every digest of the source is the SHA-256 of a canonical JSON text, that is of
a list of keys and scalar values in key order; an entry of a nested object is
written under its key path.  The hash itself is a parameter of the model: all
that the code relies on is that a digest is 64 lower-case hexadecimal
characters.
-/

namespace FxStrategyLab

abbrev Digest := List Char

/-- A scalar of a canonical JSON text; decimals stand by their exact value. -/
inductive Scalar
  | null
  | text (s : String)
  | digest (d : Digest)
  | integer (n : Int)
  | decimal (q : ℚ)
  | boolean (b : Bool)
deriving DecidableEq

namespace Scalar

/-- `null` for an absent value. -/
def ofOption {α : Type} (f : α → Scalar) : Option α → Scalar
  | none => null
  | some a => f a

end Scalar

abbrev CanonicalText := List (String × Scalar)

def plainText (chars : List Char) : CanonicalText :=
  [("", .digest chars)]

def hexDigits : List Char :=
  ['0', '1', '2', '3', '4', '5', '6', '7', '8', '9', 'a', 'b', 'c', 'd', 'e', 'f']

def IsHex64 (digest : Digest) : Prop :=
  digest.length = 64 ∧ ∀ c ∈ digest, c ∈ hexDigits
deriving Decidable

def sha256Prefix : List Char :=
  ['s', 'h', 'a', '2', '5', '6', ':']

/-- The hash function: its digests are 64 hexadecimal characters. -/
structure Sha256 where
  hexdigest : CanonicalText → Digest
  hexdigest_hex : ∀ t, IsHex64 (hexdigest t)

namespace Sha256

def prefixed (sha : Sha256) (t : CanonicalText) : Digest :=
  sha256Prefix ++ sha.hexdigest t

def scalarCode : Scalar → List Nat
  | .null => [1]
  | .text s => 2 :: s.toByteArray.data.toList.map UInt8.toNat
  | .digest d => 3 :: d.map Char.toNat
  | .integer n => [4, n.natAbs, if n < 0 then 1 else 0]
  | .decimal q => [5, q.num.natAbs, q.den, if q < 0 then 1 else 0]
  | .boolean b => [6, if b then 1 else 0]

/-- A polynomial in the codes of the values of a text, modulo `2 ^ 256`. -/
def polynomial (t : CanonicalText) : Nat :=
  (t.flatMap fun entry => scalarCode entry.2).foldl
    (fun acc code => (acc * 1099511628211 + code) % 2 ^ 256) 1

/-- The `i`-th hexadecimal digit of a number. -/
def hexDigit (n i : Nat) : Char :=
  hexDigits.get ⟨n / 16 ^ i % 16, Nat.mod_lt _ (by decide)⟩

/-- A hash for closed runs of the model: its digests are spread over the 64
characters, and nothing in the model depends on more than that. -/
def checksum : Sha256 where
  hexdigest t := (List.range 64).map (hexDigit (polynomial t))
  hexdigest_hex t := by
    refine ⟨by simp, fun c hc => ?_⟩
    obtain ⟨i, -, rfl⟩ := List.mem_map.mp hc
    exact List.get_mem _ _

end Sha256

/-- Source `_valid_digest`: the prefix, then 64 hexadecimal characters. -/
def validDigest (value : Digest) : Bool :=
  decide (value.take 7 = sha256Prefix ∧ IsHex64 (value.drop 7))

/-- Source `_valid_reconciliation_digest`: the same check by the total length. -/
def validReconciliationDigest (value : Digest) : Bool :=
  decide (value.take 7 = sha256Prefix) && decide (value.length = 71) &&
    (value.drop 7).all (fun c => decide (c ∈ hexDigits))

@[simp]
theorem validDigest_prefixed (sha : Sha256) (t : CanonicalText) :
    validDigest (sha.prefixed t) = true := by
  have htake : (sha.prefixed t).take 7 = sha256Prefix := rfl
  have hdrop : (sha.prefixed t).drop 7 = sha.hexdigest t := rfl
  exact decide_eq_true ⟨htake, hdrop ▸ sha.hexdigest_hex t⟩

end FxStrategyLab
