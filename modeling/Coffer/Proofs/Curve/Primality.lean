import Coffer.Curve.Secp256k1
import Mathlib
/-!
# The sizes of the field and of the group are prime

A number is prime if some base has the order of the number less one modulo it, which is seen from
the prime factors of the number less one. These are smaller, so that a list of bases and factors
shows that each of its numbers is prime, the last of each list being the number of elements of the
field and the number of multiples of the generator.
-/

namespace Coffer.Primality

def powMod (modulus base exponent : Nat) : Nat :=
  if exponent = 0 then 1
  else
    let root := powMod modulus (base * base % modulus) (exponent / 2)
    if exponent % 2 = 1 then root * base % modulus else root
termination_by exponent

theorem powMod_cast (modulus base exponent : Nat) :
    (powMod modulus base exponent : ZMod modulus) = (base : ZMod modulus) ^ exponent := by
  induction exponent using Nat.strongRecOn generalizing base with
  | ind exponent ih =>
    rw [powMod]
    split
    case isTrue zero => simp [zero]
    case isFalse nonzero =>
      have root := ih (exponent / 2) (by omega) (base * base % modulus)
      rw [ZMod.natCast_mod, Nat.cast_mul, ← sq (base : ZMod modulus), ← pow_mul] at root
      split
      case isTrue odd =>
        rw [ZMod.natCast_mod, Nat.cast_mul, root, ← pow_succ]
        congr 1
        omega
      case isFalse even =>
        rw [root]
        congr 1
        omega

theorem powMod_lt {modulus : Nat} (large : 1 < modulus) (base exponent : Nat) :
    powMod modulus base exponent < modulus := by
  induction exponent using Nat.strongRecOn generalizing base with
  | ind exponent ih =>
    rw [powMod]
    split
    case isTrue zero => exact large
    case isFalse nonzero =>
      split
      case isTrue odd => exact Nat.mod_lt _ (by omega)
      case isFalse even => exact ih (exponent / 2) (by omega) _

theorem powMod_eq_one_iff {modulus : Nat} (large : 1 < modulus) (base exponent : Nat) :
    powMod modulus base exponent = 1 ↔ (base : ZMod modulus) ^ exponent = 1 := by
  rw [← powMod_cast, ← Nat.cast_one (R := ZMod modulus), ZMod.natCast_eq_natCast_iff',
    Nat.mod_eq_of_lt (powMod_lt large base exponent), Nat.mod_eq_of_lt large]

/-- A base and the prime factors of a number less one, which show that the number is prime. -/
structure Certificate where
  number : Nat
  base : Nat
  factors : List Nat

/-- Whether the factors are among the numbers known to be prime and the base has the order that it
should have. -/
def Certificate.accepts (known : List Nat) (certificate : Certificate) : Bool :=
  let order := certificate.number - 1
  let power := powMod certificate.number certificate.base
  1 < certificate.number && certificate.factors.prod == order && power order == 1 &&
    certificate.factors.all fun factor => known.contains factor && power (order / factor) != 1

/-- The numbers known to be prime after reading certificates, up to the first that fails. -/
def proved : (known : List Nat) → List Certificate → List Nat
  | known, [] => known
  | known, certificate :: later =>
    if certificate.accepts known then proved (certificate.number :: known) later else known

theorem Certificate.prime {known : List Nat} {certificate : Certificate}
    (primes : ∀ factor ∈ known, factor.Prime) (accepted : certificate.accepts known = true) :
    certificate.number.Prime := by
  simp only [accepts, Bool.and_eq_true, decide_eq_true_eq, beq_iff_eq, bne_iff_ne, List.all_eq_true,
    List.contains_iff_mem] at accepted
  obtain ⟨⟨⟨large, product⟩, full⟩, partials⟩ := accepted
  refine lucas_primality certificate.number certificate.base
    ((powMod_eq_one_iff large _ _).mp full) ?_
  intro factor isPrime divides
  rw [← product, isPrime.prime.dvd_prod_iff] at divides
  obtain ⟨listed, isListed, divides⟩ := divides
  obtain ⟨isKnown, notOne⟩ := partials listed isListed
  obtain rfl : factor = listed :=
    (Nat.prime_dvd_prime_iff_eq isPrime (primes listed isKnown)).mp divides
  exact fun one => notOne ((powMod_eq_one_iff large _ _).mpr one)

theorem prime_of_proved {known : List Nat} {certificates : List Certificate}
    (primes : ∀ factor ∈ known, factor.Prime) :
    ∀ number ∈ proved known certificates, number.Prime := by
  induction certificates generalizing known with
  | nil => exact primes
  | cons certificate later ih =>
    rw [proved]
    split
    case isTrue accepted =>
      exact ih (List.forall_mem_cons.mpr ⟨certificate.prime primes accepted, primes⟩)
    case isFalse refused => exact primes

end Coffer.Primality

namespace Coffer.Secp256k1

open Primality (Certificate powMod)

def smallPrimes : List Nat :=
  [2, 3, 5, 7, 11, 17, 29, 31, 41, 53, 59, 97, 109, 149, 293, 461, 631, 797, 971, 1373, 1627, 2011,
    2621, 2657, 4051, 4423, 5323, 7723, 9349, 13441, 16699, 20113, 24809, 28181, 41201, 85831,
    96557, 120233, 305873, 1627771]

theorem prime_of_mem_smallPrimes : ∀ factor ∈ smallPrimes, factor.Prime := by
  simp only [smallPrimes, List.forall_mem_cons]
  norm_num

def fieldCertificates : List Certificate :=
  [⟨1206781, 10, [2, 2, 3, 5, 20113]⟩,
    ⟨7240687, 3, [2, 3, 1206781]⟩,
    ⟨13331831, 13, [2, 5, 971, 1373]⟩,
    ⟨107590001, 3, [2, 2, 2, 2, 5, 5, 5, 5, 7, 29, 53]⟩,
    ⟨173378833005251801, 6, [2, 2, 2, 5, 5, 2621, 24809, 13331831]⟩,
    ⟨22149492674086928081353, 5, [2, 2, 2, 3, 5323, 173378833005251801]⟩,
    ⟨132896956044521568488119, 6, [2, 3, 22149492674086928081353]⟩,
    ⟨255515944373312847190720520512484175977, 3,
      [2, 2, 2, 7, 7, 11, 1627, 2657, 4423, 41201, 96557, 7240687, 107590001]⟩,
    ⟨205115282021455665897114700593932402728804164701536103180137503955397371, 10,
      [2, 3, 5, 29, 29, 31, 7723, 132896956044521568488119,
        255515944373312847190720520512484175977]⟩,
    ⟨fieldSize, 3, [2, 3, 7, 13441,
      205115282021455665897114700593932402728804164701536103180137503955397371]⟩]

/-- Certificates up to the number of multiples of the generator. -/
def groupCertificates : List Certificate :=
  [⟨4681609, 23, [2, 2, 2, 3, 97, 2011]⟩,
    ⟨44706919, 6, [2, 3, 797, 9349]⟩,
    ⟨545358713, 5, [2, 2, 2, 41, 59, 28181]⟩,
    ⟨297159362677, 2, [2, 2, 3, 3, 11, 461, 1627771]⟩,
    ⟨107361793816595537, 3, [2, 2, 2, 2, 16699, 85831, 4681609]⟩,
    ⟨174723607534414371449, 3, [2, 2, 2, 17, 59, 4051, 120233, 44706919]⟩,
    ⟨29047611873442575647497758179, 2, [2, 293, 305873, 545358713, 297159362677]⟩,
    ⟨341948486974166000522343609283189, 2, [2, 2, 3, 3, 3, 109, 29047611873442575647497758179]⟩,
    ⟨groupOrder, 7, [2, 2, 2, 2, 2, 2, 3, 149, 631, 107361793816595537, 174723607534414371449,
      341948486974166000522343609283189]⟩]

theorem fieldSize_prime : fieldSize.Prime := by
  have found : fieldSize ∈ Primality.proved smallPrimes fieldCertificates := by decide +kernel
  exact Primality.prime_of_proved prime_of_mem_smallPrimes fieldSize found

theorem groupOrder_prime : groupOrder.Prime := by
  have found : groupOrder ∈ Primality.proved smallPrimes groupCertificates := by decide +kernel
  exact Primality.prime_of_proved prime_of_mem_smallPrimes groupOrder found

instance : Fact fieldSize.Prime := ⟨fieldSize_prime⟩

theorem power_eq_powMod (base exponent : Nat) :
    power base exponent = powMod fieldSize base exponent := by
  induction exponent using Nat.strongRecOn generalizing base with
  | ind exponent ih =>
    rw [power, powMod]
    split
    case isTrue zero => rfl
    case isFalse nonzero => rw [ih (exponent / 2) (by omega)]

end Coffer.Secp256k1
