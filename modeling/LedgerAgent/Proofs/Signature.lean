/-
Module: LedgerAgent.Proofs.Signature
Purpose: Signatures as bytes, and the law of the signature scheme: what it says of a key and a
  message, and what is left of it to check for one of them.
Main exports: Signature.InRange, Signature.ofBytes?_toBytes, PrivateKey.inRange_of_signHash?,
  PrivateKey.SignsSoundly, PrivateKey.signsSoundly_iff
-/
import LedgerAgent.Proofs.KeySpelling

namespace LedgerAgent

open Key

theorem Key.one_lt_groupOrder : 1 < groupOrder := by decide

theorem Key.two_lt_groupOrder : 2 < groupOrder := by decide

/-- Both numbers of a signature are between one and the group's order. -/
structure Signature.InRange (sig : Signature) : Prop where
  r_pos : 0 < sig.r
  r_lt : sig.r < groupOrder
  s_pos : 0 < sig.s
  s_lt : sig.s < groupOrder

/-- A signature in range is read from its bytes again. -/
theorem Signature.ofBytes?_toBytes {sig : Signature} (inRange : sig.InRange) :
    ofBytes? sig.toBytes = some sig := by
  have fits : groupOrder < 256 ^ 32 := by decide
  have length (n : Nat) : (bytesOfNat 32 n).length = 32 := length_bytesOfNat 32 n
  have r : natOfBytes (sig.toBytes.take 32) = sig.r := by
    rw [toBytes, List.take_left' (length _), natOfBytes_bytesOfNat (inRange.r_lt.trans fits)]
  have s : natOfBytes (sig.toBytes.drop 32) = sig.s := by
    rw [toBytes, List.drop_left' (length _), natOfBytes_bytesOfNat (inRange.s_lt.trans fits)]
  have whole : sig.toBytes.length = 64 := by
    rw [toBytes, List.length_append, length, length]
  unfold ofBytes?
  rw [r, s]
  exact if_pos ⟨whole, inRange.r_pos, inRange.r_lt, inRange.s_pos, inRange.s_lt⟩

namespace PrivateKey

/-- Whatever a key signs a hash with is in range, in whichever half its second number was. -/
theorem inRange_of_signHash? {key : PrivateKey} {hash : List UInt8} {sig : Signature}
    (signs : key.signHash? hash = some sig) : sig.InRange := by
  obtain ⟨k, -, signs⟩ := Option.bind_eq_some_iff.1 signs
  obtain ⟨⟨x, y⟩, -, signs⟩ := Option.bind_eq_some_iff.1 signs
  have pos : 0 < groupOrder := by decide
  dsimp only at signs
  split at signs
  · cases signs
  · rename_i nonzero
    rw [not_or] at nonzero
    have r_pos := Nat.pos_of_ne_zero nonzero.1
    have s_pos := Nat.pos_of_ne_zero nonzero.2
    obtain rfl := Option.some.inj signs
    split
    · exact ⟨r_pos, Nat.mod_lt _ pos, Nat.sub_pos_of_lt (Nat.mod_lt _ pos), Nat.sub_lt pos s_pos⟩
    · exact ⟨r_pos, Nat.mod_lt _ pos, s_pos, Nat.mod_lt _ pos⟩

/-- The scheme's law, for a key and a message: what the key signs the message with is accepted by
its public key. -/
def SignsSoundly (key : PrivateKey) (message : List UInt8) : Prop :=
  ∀ signature, key.sign message = .ok signature →
    key.publicKey.verify message signature = .ok ()

variable {key : PrivateKey} {message hash : List UInt8}

/-- A message is signed exactly if its hash is, with the bytes of that signature. -/
theorem sign_eq_ok_iff {signature : List UInt8} :
    key.sign message = .ok signature ↔
      ∃ sig, key.signHash? (sha256 message) = some sig ∧ sig.toBytes = signature := by
  -- Applied to its arguments, the definition would be computed instead of opened.
  generalize opened : @sign = scheme
  delta sign at opened
  subst opened
  beta_reduce
  cases key.signHash? (sha256 message) <;> simp

/-- The law is about the curve alone: the bytes between the two sides lose nothing. -/
theorem signsSoundly_iff :
    key.SignsSoundly message ↔ ∀ sig, key.signHash? (sha256 message) = some sig →
      key.publicKey.accepts (sha256 message) sig = true := by
  have verify_iff {sig : Signature} (signs : key.signHash? (sha256 message) = some sig) :
      key.publicKey.verify message sig.toBytes = .ok () ↔
        key.publicKey.accepts (sha256 message) sig = true := by
    unfold PublicKey.verify
    rw [Signature.ofBytes?_toBytes (inRange_of_signHash? signs)]
    by_cases accepted : key.publicKey.accepts (sha256 message) sig = true
    · exact iff_of_true (if_pos accepted) accepted
    · refine iff_of_false (fun ok => ?_) accepted
      cases (if_neg accepted).symm.trans ok
  constructor
  · intro law sig signs
    exact (verify_iff signs).1 (law _ (sign_eq_ok_iff.2 ⟨sig, signs, rfl⟩))
  · intro law signature made
    obtain ⟨sig, signs, rfl⟩ := sign_eq_ok_iff.1 made
    exact (verify_iff signs).2 (law sig signs)

/-- A key whose signature of a hash its public key accepts signs every message with that hash, and
soundly. -/
theorem signsSoundly_of_hash (hashed : sha256 message = hash)
    (accepted : (key.signHash? hash).any (key.publicKey.accepts hash) = true) :
    (∃ signature, key.sign message = .ok signature) ∧ key.SignsSoundly message := by
  obtain ⟨sig, signs, accepts⟩ := (Option.any_eq_true _ _).1 accepted
  rw [← hashed] at signs accepts
  refine ⟨⟨_, sign_eq_ok_iff.2 ⟨sig, signs, rfl⟩⟩, signsSoundly_iff.2 fun other signs' => ?_⟩
  obtain rfl := Option.some.inj (signs.symm.trans signs')
  exact accepts

end PrivateKey

end LedgerAgent
