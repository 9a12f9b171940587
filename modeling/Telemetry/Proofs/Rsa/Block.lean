import Mathlib.Data.Nat.ChineseRemainder
import Mathlib.FieldTheory.Finite.Basic
import Telemetry.Rsa.Block

namespace Telemetry

open Telemetry

/-! What a public key seals, its private key opens. Raising to both exponents gives a number back
modulo each prime of the key, by Fermat's theorem, and so modulo their product. -/

namespace Bytes

theorem toNatBE_append (bytes : Bytes) (byte : UInt8) :
    toNatBE (bytes ++ [byte]) = toNatBE bytes * 256 + byte.toNat := by
  simp [toNatBE]

theorem toNatBE_lt (bytes : Bytes) : toNatBE bytes < 256 ^ bytes.length := by
  induction bytes using List.reverseRecOn with
  | nil => simp [toNatBE]
  | append_singleton bytes byte induction =>
      have small := byte.toNat_lt
      rw [toNatBE_append, List.length_append, List.length_singleton, Nat.pow_succ]
      omega

theorem toNatBE_zero_cons (bytes : Bytes) : toNatBE (0 :: bytes) = toNatBE bytes := by
  simp [toNatBE]

theorem toNatBE_dropZeros (bytes : Bytes) :
    toNatBE (bytes.dropWhile (· = 0)) = toNatBE bytes := by
  induction bytes with
  | nil => rfl
  | cons byte bytes induction =>
      by_cases isZero : byte = 0
      · rw [List.dropWhile_cons_of_pos (by simpa using isZero), isZero, toNatBE_zero_cons,
          induction]
      · rw [List.dropWhile_cons_of_neg (by simpa using isZero)]

theorem ofNatBE_toNatBE (bytes : Bytes) : ofNatBE bytes.length (toNatBE bytes) = bytes := by
  induction bytes using List.reverseRecOn with
  | nil => rfl
  | append_singleton bytes byte induction =>
      have small := byte.toNat_lt
      have high : (toNatBE bytes * 256 + byte.toNat) / 256 = toNatBE bytes := by omega
      have low : (toNatBE bytes * 256 + byte.toNat) % 256 = byte.toNat := by omega
      rw [List.length_append, List.length_singleton, toNatBE_append, ofNatBE, high, low, induction]
      simp

theorem toNatBE_ofNatBE (width : Nat) {number : Nat} (fits : number < 256 ^ width) :
    toNatBE (ofNatBE width number) = number := by
  induction width generalizing number with
  | zero =>
      obtain rfl : number = 0 := by simpa using fits
      rfl
  | succ width induction =>
      have high : number / 256 < 256 ^ width := by
        rw [Nat.pow_succ] at fits
        omega
      rw [ofNatBE, toNatBE_append, induction high, UInt8.toNat_ofNat']
      omega

end Bytes

namespace Rsa

open Bytes

theorem powerModulo_eq (modulus : Nat) {fuel exponent : Nat} (enough : exponent < 2 ^ fuel)
    (base : Nat) {result : Nat} (reduced : result % modulus = result) :
    powerModulo modulus fuel base exponent result = result * base ^ exponent % modulus := by
  induction fuel generalizing base exponent result with
  | zero =>
      obtain rfl : exponent = 0 := by simpa using enough
      rw [powerModulo, Nat.pow_zero, Nat.mul_one, reduced]
  | succ fuel induction =>
      rw [powerModulo]
      by_cases isZero : exponent = 0
      · rw [if_pos isZero, isZero, Nat.pow_zero, Nat.mul_one, reduced]
      · have half : exponent / 2 < 2 ^ fuel := by
          rw [Nat.pow_succ] at enough
          omega
        have squares : (base * base % modulus) ^ (exponent / 2) ≡ (base ^ 2) ^ (exponent / 2)
            [MOD modulus] := by
          rw [Nat.pow_two]
          exact (Nat.mod_modEq _ _).pow _
        rw [if_neg isZero]
        by_cases odd : exponent % 2 = 1
        · have split : exponent = 2 * (exponent / 2) + 1 := by omega
          rw [if_pos odd, induction half _ (Nat.mod_mod _ _)]
          calc result * base % modulus * (base * base % modulus) ^ (exponent / 2)
              ≡ result * base * (base ^ 2) ^ (exponent / 2) [MOD modulus] :=
                (Nat.mod_modEq _ _).mul squares
            _ = result * base ^ exponent := by
                conv_rhs => rw [split, Nat.pow_succ, Nat.pow_mul]
                ring
        · have split : exponent = 2 * (exponent / 2) := by omega
          rw [if_neg odd, induction half _ reduced]
          calc result * (base * base % modulus) ^ (exponent / 2)
              ≡ result * (base ^ 2) ^ (exponent / 2) [MOD modulus] := squares.mul_left _
            _ = result * base ^ exponent := by
                conv_rhs => rw [split, Nat.pow_mul]

theorem power_eq (modulus base exponent : Nat) :
    power modulus base exponent = base ^ exponent % modulus := by
  rw [power, powerModulo_eq modulus Nat.lt_log2_self _ (Nat.mod_mod _ _)]
  calc 1 % modulus * (base % modulus) ^ exponent
      ≡ 1 * base ^ exponent [MOD modulus] :=
        (Nat.mod_modEq _ _).mul ((Nat.mod_modEq _ _).pow _)
    _ = base ^ exponent := Nat.one_mul _

/-- A key as it is made: its primes are primes, none of them twice. -/
structure PrivateKey.IsGenuine (key : PrivateKey) : Prop where
  sound : key.isSound = true
  prime : ∀ prime ∈ key.primes, prime.Prime
  distinct : key.primes.Nodup

theorem pow_modEq_of_prime {prime exponent : Nat} (isPrime : prime.Prime)
    (inverse : exponent % (prime - 1) = 1) (number : Nat) :
    number ^ exponent ≡ number [MOD prime] := by
  have : Fact prime.Prime := ⟨isPrime⟩
  have split : exponent = (prime - 1) * (exponent / (prime - 1)) + 1 := by
    conv_lhs => rw [← Nat.div_add_mod exponent (prime - 1), inverse]
  rw [← ZMod.natCast_eq_natCast_iff, Nat.cast_pow, split, pow_succ, pow_mul]
  by_cases isZero : (number : ZMod prime) = 0
  · rw [isZero, mul_zero]
  · rw [ZMod.pow_card_sub_one_eq_one isZero, one_pow, one_mul]

namespace PrivateKey

variable {key : PrivateKey}

theorem IsGenuine.prod_primes (genuine : key.IsGenuine) : key.primes.prod = key.modulus := by
  have sound := genuine.sound
  simp only [isSound, Bool.and_eq_true, decide_eq_true_eq] at sound
  rw [List.prod_eq_foldl]
  exact sound.1.2

theorem IsGenuine.inverse (genuine : key.IsGenuine) {prime : Nat} (member : prime ∈ key.primes) :
    key.exponent * key.secret % (prime - 1) = 1 := by
  have sound := genuine.sound
  simp only [isSound, Bool.and_eq_true, List.all_eq_true, decide_eq_true_eq] at sound
  exact sound.2 prime member

theorem IsGenuine.modulus_pos (genuine : key.IsGenuine) : 0 < key.modulus := by
  rw [← genuine.prod_primes]
  exact List.prod_pos fun prime member => (genuine.prime prime member).pos

theorem IsGenuine.power_power (genuine : key.IsGenuine) {number : Nat}
    (fits : number < key.modulus) :
    power key.modulus (power key.modulus number key.exponent) key.secret = number := by
  have coprime : key.primes.Pairwise Nat.Coprime :=
    genuine.distinct.imp_of_mem fun {first second} isFirst isSecond different =>
      (Nat.coprime_primes (genuine.prime first isFirst) (genuine.prime second isSecond)).mpr
        different
  have back : number ^ (key.exponent * key.secret) ≡ number [MOD key.modulus] := by
    rw [← genuine.prod_primes, Nat.modEq_list_prod_iff coprime]
    intro index
    exact pow_modEq_of_prime (genuine.prime _ (List.get_mem _ _))
      (genuine.inverse (List.get_mem _ _)) number
  calc power key.modulus (power key.modulus number key.exponent) key.secret
      = (number ^ key.exponent % key.modulus) ^ key.secret % key.modulus := by
        rw [power_eq, power_eq]
    _ = number ^ (key.exponent * key.secret) % key.modulus := by
        rw [← Nat.pow_mod, Nat.pow_mul]
    _ = number % key.modulus := back
    _ = number := Nat.mod_eq_of_lt fits

end PrivateKey

theorem length_padding (count : Nat) (filler : Bytes) : (padding count filler).length = count := by
  simp [padding]

theorem ne_zero_of_mem_padding {count : Nat} {filler : Bytes} {byte : UInt8}
    (member : byte ∈ padding count filler) : byte ≠ 0 := by
  rcases List.mem_append.mp (List.mem_of_mem_take member) with given | made
  · simpa using (List.mem_filter.mp given).2
  · rw [List.eq_of_mem_replicate made]
    decide

section Pad

variable {size : Nat} {filler message block : Bytes}

theorem pad_eq_some (padded : pad size filler message = some block) :
    message.length + overhead + leastPadding ≤ size ∧
      block = 0 :: 2 :: padding (size - message.length - overhead) filler ++ 0 :: message := by
  rw [pad] at padded
  split at padded
  · next fits => exact ⟨fits, (Option.some.inj padded).symm⟩
  · cases padded

theorem length_of_pad (padded : pad size filler message = some block) : block.length = size := by
  obtain ⟨fits, rfl⟩ := pad_eq_some padded
  simp only [overhead, leastPadding] at fits
  simp only [overhead, List.cons_append, List.length_cons, List.length_append, length_padding]
  omega

theorem unpad_of_pad (padded : pad size filler message = some block) :
    unpad block = some message := by
  obtain ⟨fits, rfl⟩ := pad_eq_some padded
  have nonzero : ∀ byte ∈ padding (size - message.length - overhead) filler,
      decide (byte ≠ 0) = true := fun byte member => decide_eq_true (ne_zero_of_mem_padding member)
  have enough : leastPadding ≤ size - message.length - overhead := by
    simp only [overhead, leastPadding] at fits ⊢
    omega
  rw [List.cons_append, List.cons_append, unpad, List.dropWhile_append_of_pos nonzero,
    List.takeWhile_append_of_pos nonzero]
  simp [length_padding, enough]

theorem exists_tail_of_pad (padded : pad size filler message = some block) :
    ∃ tail, block = 0 :: tail ∧ tail.length + 1 = size := by
  have length := length_of_pad padded
  obtain ⟨_, rfl⟩ := pad_eq_some padded
  exact ⟨_, rfl, length⟩

/-- A block begins with a zero, so its number is below every number as long as the block. -/
theorem toNatBE_lt_of_pad {key : PublicKey} (positive : 0 < key.modulus)
    (padded : pad key.size filler message = some block) : toNatBE block < key.modulus := by
  obtain ⟨tail, rfl, length⟩ := exists_tail_of_pad padded
  have size : 8 * tail.length ≤ key.modulus.log2 := by
    rw [PublicKey.size] at length
    omega
  calc toNatBE (0 :: tail) = toNatBE tail := toNatBE_zero_cons tail
    _ < 256 ^ tail.length := toNatBE_lt tail
    _ = 2 ^ (8 * tail.length) := (Nat.pow_mul 2 8 tail.length).symm
    _ ≤ 2 ^ key.modulus.log2 := Nat.pow_le_pow_right (by decide) size
    _ ≤ key.modulus := Nat.log2_self_le positive.ne'

theorem PublicKey.lt_of_lt_modulus (key : PublicKey) {number : Nat} (fits : number < key.modulus) :
    number < 256 ^ key.size := by
  have size : key.modulus.log2 + 1 ≤ 8 * key.size := by
    rw [PublicKey.size]
    omega
  calc number < key.modulus := fits
    _ < 2 ^ (key.modulus.log2 + 1) := Nat.lt_log2_self
    _ ≤ 2 ^ (8 * key.size) := Nat.pow_le_pow_right (by decide) size
    _ = 256 ^ key.size := Nat.pow_mul 2 8 key.size

end Pad

/-- A message that leaves room for its padding. -/
def PublicKey.Takes (key : PublicKey) (message : Bytes) : Prop :=
  message.length + overhead + leastPadding ≤ key.size

theorem PublicKey.exists_encrypt {key : PublicKey} {message : Bytes} (takes : key.Takes message)
    (filler : Bytes) : ∃ sealed, key.encrypt filler message = .ok sealed := by
  unfold Takes at takes
  unfold encrypt pad
  rw [if_pos takes]
  exact ⟨_, rfl⟩

theorem PublicKey.encrypt_of_not_takes {key : PublicKey} {message : Bytes}
    (tooLong : ¬ key.Takes message) (filler : Bytes) :
    key.encrypt filler message = .error (.crypto .messageTooLong) := by
  unfold Takes at tooLong
  unfold encrypt pad
  rw [if_neg tooLong]

namespace PrivateKey

variable {key : PrivateKey} {sealed : Bytes}

/-- What the public half of a key seals, the key opens. -/
def Opens (key : PrivateKey) : Prop :=
  ∀ filler message sealed, key.toPublic.encrypt filler message = .ok sealed →
    key.decrypt sealed = .ok message

theorem decrypt_of_unpad {message : Bytes} (short : sealed.length ≤ key.toPublic.size)
    (small : toNatBE sealed < key.modulus)
    (opened : unpad (ofNatBE key.toPublic.size
      (power key.modulus (toNatBE sealed) key.secret)) = some message) :
    key.decrypt sealed = .ok message := by
  have digits : ¬ key.toPublic.size < (sealed.dropWhile (· = 0)).length :=
    not_lt.mpr (((List.dropWhile_sublist _).length_le).trans short)
  unfold decrypt
  dsimp only
  rw [if_neg digits, toNatBE_dropZeros, if_pos small, opened]

theorem IsGenuine.opens (genuine : key.IsGenuine) : key.Opens := by
  intro filler message sealed encrypted
  unfold PublicKey.encrypt at encrypted
  split at encrypted
  · cases encrypted
  · next block padded =>
      have fits : toNatBE block < key.modulus := toNatBE_lt_of_pad genuine.modulus_pos padded
      have reduced : power key.modulus (toNatBE block) key.exponent < key.modulus := by
        rw [power_eq]
        exact Nat.mod_lt _ genuine.modulus_pos
      have number : toNatBE sealed = power key.modulus (toNatBE block) key.exponent := by
        rw [← Except.ok.inj encrypted]
        exact toNatBE_ofNatBE _ (key.toPublic.lt_of_lt_modulus reduced)
      refine decrypt_of_unpad ?_ (number ▸ reduced) ?_
      · rw [← Except.ok.inj encrypted, length_ofNatBE]
      · rw [number, genuine.power_power fits, ← length_of_pad padded, ofNatBE_toNatBE,
          unpad_of_pad padded]

/-- What is longer than the key, zeros in front aside, is nothing that the key has sealed. -/
theorem decrypt_of_long (long : key.toPublic.size < (sealed.dropWhile (· = 0)).length) :
    key.decrypt sealed = .error (.crypto .decryption) := by
  unfold decrypt
  simp only [long, if_true]

end PrivateKey

end Rsa

end Telemetry
