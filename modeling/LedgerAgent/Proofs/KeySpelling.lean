/-
Module: LedgerAgent.Proofs.KeySpelling
Purpose: Bytes read back from their hexadecimal text, and keys from their encodings and texts.
Main exports: Text.Hex.decode_encode, Text.Hex.Digital, Key.natOfBytes_bytesOfNat,
  PublicKey.ofBytes?_toBytes, PublicKey.parse_toText, PrivateKey.ofBytes?_toBytes
-/
import LedgerAgent.Key.Basic
import LedgerAgent.Proofs.Identifier

namespace LedgerAgent

namespace Text

/-! ### Text whose characters are bytes -/

theorem bytes_ofList (cs : List Char) :
    bytes (String.ofList cs) = cs.flatMap String.utf8EncodeChar := by
  simp [bytes, String.toUTF8_eq_toByteArray, List.utf8Encode, List.data_toByteArray]

/-- ASCII text has one byte for each character. -/
theorem bytes_ofList_of_ascii {cs : List Char} (ascii : ∀ c ∈ cs, c.toNat < 128) :
    bytes (String.ofList cs) = cs.map fun c => UInt8.ofNat c.toNat := by
  rw [bytes_ofList]
  induction cs with
  | nil => rfl
  | cons c cs inductionHypothesis =>
      have size : c.utf8Size = 1 := by
        rw [Char.utf8Size_eq_one_iff, UInt32.le_iff_toNat_le]
        exact Nat.le_of_lt_succ (ascii c (by simp))
      rw [List.flatMap_cons, String.utf8EncodeChar_eq_singleton size, List.map_cons,
        inductionHypothesis fun d member => ascii d (List.mem_cons_of_mem c member)]
      rfl

namespace Hex

/-! ### Hexadecimal text -/

/-- A digit has the value that it stands for. -/
theorem value?_digit :
    ∀ n, n < 16 → value? (UInt8.ofNat (digit n).toNat) = some n := by
  decide

theorem digit_ascii : ∀ n, n < 16 → (digit n).toNat < 128 := by
  decide

theorem digit_isBlank : ∀ n, n < 16 → isBlank (digit n) = false := by
  decide

theorem digit_toLower : ∀ n, n < 16 → (digit n).toLower = digit n := by
  decide

theorem encodeChars_cons (b : UInt8) (bs : List UInt8) :
    encodeChars (b :: bs) = digit (b.toNat / 16) :: digit (b.toNat % 16) :: encodeChars bs := by
  simp [encodeChars]

/-- Bytes in a row are spelled in a row. -/
theorem encodeChars_append (bs cs : List UInt8) :
    encodeChars (bs ++ cs) = encodeChars bs ++ encodeChars cs :=
  List.flatMap_append

/-- Every character of hexadecimal text is a digit of a value below sixteen. -/
theorem exists_digit_of_mem_encodeChars {bs : List UInt8} {c : Char}
    (h : c ∈ encodeChars bs) : ∃ n, n < 16 ∧ c = digit n := by
  obtain ⟨b, _, spelled⟩ := List.mem_flatMap.1 h
  have := b.toNat_lt
  rcases List.mem_cons.1 spelled with rfl | low
  · exact ⟨_, by omega, rfl⟩
  · exact ⟨_, Nat.mod_lt _ (by decide), List.mem_singleton.1 low⟩

/-- Characters that hexadecimal text is written with, letters being small. -/
def Digital (cs : List Char) : Prop :=
  ∀ c ∈ cs, ∃ n < 16, c = digit n

theorem digital_encodeChars (bs : List UInt8) : Digital (encodeChars bs) :=
  fun _ => exists_digit_of_mem_encodeChars

section

variable {cs ds : List Char}

theorem Digital.append (digital : Digital cs) (digital' : Digital ds) : Digital (cs ++ ds) := by
  intro c among
  rcases List.mem_append.1 among with front | behind
  · exact digital c front
  · exact digital' c behind

theorem Digital.isBlank (digital : Digital cs) {c : Char} (among : c ∈ cs) :
    Text.isBlank c = false := by
  obtain ⟨n, small, rfl⟩ := digital c among
  exact digit_isBlank n small

theorem Digital.map_toLower (digital : Digital cs) : cs.map Char.toLower = cs := by
  rw [List.map_congr_left (g := id), List.map_id]
  intro c among
  obtain ⟨n, small, rfl⟩ := digital c among
  exact digit_toLower n small

/-- The letter of the mark is no digit. -/
theorem Digital.not_mem_x (digital : Digital cs) : 'x' ∉ cs := by
  intro among
  obtain ⟨n, small, same⟩ := digital _ among
  revert n
  decide

/-- Digits that stand alone are not taken for a mark. -/
theorem withoutLead_of_not_mem_x (unmarked : 'x' ∉ cs) : withoutLead ['0', 'x'] cs = cs := by
  refine withoutLead_of_not_prefix ?_
  rintro ⟨rest, rfl⟩
  exact unmarked (by simp)

end

/-- Pairs of digits are read as the bytes that they spell, from wherever they are counted. -/
theorem decodePairs_encodeChars (bs : List UInt8) (offset : Nat) :
    decodePairs offset ((encodeChars bs).map fun c => UInt8.ofNat c.toNat) = .ok bs := by
  induction bs generalizing offset with
  | nil => rfl
  | cons b bs inductionHypothesis =>
      have := b.toNat_lt
      have whole : 16 * (b.toNat / 16) + b.toNat % 16 = b.toNat := Nat.div_add_mod _ _
      simp only [encodeChars_cons, List.map_cons, decodePairs,
        value?_digit _ (by omega : b.toNat / 16 < 16),
        value?_digit _ (by omega : b.toNat % 16 < 16), inductionHypothesis, whole]
      simp [Except.map]

theorem length_encodeChars (bs : List UInt8) : (encodeChars bs).length = 2 * bs.length := by
  induction bs with
  | nil => rfl
  | cons b bs inductionHypothesis =>
      rw [encodeChars_cons, List.length_cons, List.length_cons, inductionHypothesis,
        List.length_cons]
      omega

/-- Bytes read back from their hexadecimal text. -/
theorem decode_encode (bs : List UInt8) : decode (encode bs) = .ok bs := by
  have ascii : ∀ c ∈ encodeChars bs, c.toNat < 128 := by
    intro c member
    obtain ⟨n, small, rfl⟩ := exists_digit_of_mem_encodeChars member
    exact digit_ascii n small
  rw [decode, encode, bytes_ofList_of_ascii ascii, List.length_map, length_encodeChars,
    if_neg (by omega)]
  exact decodePairs_encodeChars bs 0

end Hex

end Text

namespace Key

/-! ### Numbers as bytes -/

/-- A byte more at the end is a digit more to the base 256. -/
theorem natOfBytes_append (bs : List UInt8) (b : UInt8) :
    natOfBytes (bs ++ [b]) = natOfBytes bs * 256 + b.toNat := by
  simp [natOfBytes]

theorem length_bytesOfNat (width n : Nat) : (bytesOfNat width n).length = width := by
  induction width generalizing n with
  | zero => rfl
  | succ width inductionHypothesis => simp [bytesOfNat, inductionHypothesis]

/-- A number reads back from bytes that are wide enough for it. -/
theorem natOfBytes_bytesOfNat {width n : Nat} (h : n < 256 ^ width) :
    natOfBytes (bytesOfNat width n) = n := by
  induction width generalizing n with
  | zero =>
      have : n = 0 := by omega
      rw [this]
      rfl
  | succ width inductionHypothesis =>
      rw [Nat.pow_succ] at h
      rw [bytesOfNat, natOfBytes_append, inductionHypothesis (by omega),
        UInt8.toNat_ofNat']
      omega

/-- The abscissa of a point is an element of the field. -/
theorem lt_of_liftX? {x : Nat} {odd : Bool} (h : (liftX? x odd).isSome = true) :
    x < fieldPrime := by
  rcases Nat.lt_or_ge x fieldPrime with small | large
  · exact small
  · simp [liftX?, large] at h

end Key

open Text Key

namespace PublicKey

/-- A key reads back from its compressed encoding. -/
theorem ofBytes?_toBytes (key : PublicKey) : ofBytes? key.toBytes = some key := by
  have small : key.x < 256 ^ 32 :=
    Nat.lt_trans (lt_of_liftX? key.onCurve) (by decide)
  have readBack := natOfBytes_bytesOfNat small
  have length := length_bytesOfNat 32 key.x
  obtain ⟨x, odd, onCurve⟩ := key
  cases odd <;> simp_all [ofBytes?, toBytes, ofCompressed?]

/-- The compressed encoding begins with the zero of its first byte, and so not like the fixed
beginning that may stand in front of it. -/
theorem not_led (key : PublicKey) : ¬ publicKeyLead <+: Hex.encodeChars key.toBytes := by
  have three : publicKeyLead.head? = some '3' := rfl
  have zero : (Hex.encodeChars key.toBytes).head? = some '0' := by
    rw [toBytes, Hex.encodeChars_cons]
    cases key.odd <;> rfl
  rintro ⟨rest, led⟩
  rw [← led, List.head?_append, three] at zero
  exact absurd (Option.some.inj zero) (by decide)

/-- Nothing is set aside of the canonical text of a key. -/
theorem keyDigits_toText (key : PublicKey) : keyDigits publicKeyLead key.toText = key.toText := by
  have digital := Hex.digital_encodeChars key.toBytes
  simp only [keyDigits, toText, Hex.encode, String.toList_ofList,
    trimmed_of_not_blank fun _ => digital.isBlank, Hex.withoutLead_of_not_mem_x digital.not_mem_x,
    digital.map_toLower, withoutLead_of_not_prefix key.not_led]

/-- A text is read as a key if its digits are the key's. -/
theorem parse_of_keyDigits {key : PublicKey} {text : String}
    (digits : keyDigits publicKeyLead text = key.toText) : parse text = .ok key := by
  rw [parse, digits, toText, Hex.decode_encode]
  simp [ofBytes?_toBytes]

/-- A key reads back from its text. -/
theorem parse_toText (key : PublicKey) : parse key.toText = .ok key :=
  parse_of_keyDigits key.keyDigits_toText

end PublicKey

namespace PrivateKey

/-- A private key reads back from its encoding. -/
theorem ofBytes?_toBytes (key : PrivateKey) : ofBytes? key.toBytes = some key := by
  have small : key.scalar < 256 ^ 32 := Nat.lt_trans key.lt (by decide)
  have readBack := natOfBytes_bytesOfNat small
  have length := length_bytesOfNat 32 key.scalar
  obtain ⟨scalar, pos, lt⟩ := key
  simp_all [ofBytes?, toBytes]

end PrivateKey

end LedgerAgent
