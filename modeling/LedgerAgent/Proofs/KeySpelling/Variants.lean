/-
Module: LedgerAgent.Proofs.KeySpelling.Variants
Purpose: The spellings of one key: in letters of either case, with and without a mark, with and
  without the encoding's fixed beginning, and with white space around.
Main exports: Text.Hex.Writes, Text.Hex.Writes.keyDigits, PublicKey.parse_of_writes,
  PrivateKey.parse_of_writes, Key.writes_parse
-/
import LedgerAgent.Proofs.Identifier.Spelling

namespace LedgerAgent

open Text Key

/-! ### Texts that write the same digits -/

namespace Text

/-- No white space is a capital letter. -/
theorem toLower_of_isBlank {c : Char} (blank : isBlank c = true) : c.toLower = c := by
  refine dif_neg fun capital => ?_
  have first : 65 ≤ c.toNat := UInt32.le_iff_toNat_le.1 capital.1
  have last : c.toNat ≤ 90 := UInt32.le_iff_toNat_le.1 capital.2
  simp only [isBlank, Bool.or_eq_true, Bool.and_eq_true, decide_eq_true_eq, beq_iff_eq] at blank
  omega

namespace Hex

-- Found by name: the search may come upon the instance that goes through all characters.
instance : DecidablePred Digital :=
  fun cs => List.decidableBAll _ cs

/-- A text writes hexadecimal digits: it holds them in letters of either case, behind `0x` or on
their own, with white space around. -/
inductive Writes (digits : List Char) : List Char → Prop where
  | within {before mark letters after : List Char} (blank : ∀ c ∈ before, isBlank c = true)
      (marked : mark = [] ∨ mark = ['0', 'x']) (same : letters.map Char.toLower = digits)
      (blank' : ∀ c ∈ after, isBlank c = true) :
      Writes digits (before ++ (mark ++ letters) ++ after)

variable {digits letters mark : List Char}

theorem Digital.isBlank_of_map (digital : Digital (letters.map Char.toLower)) {c : Char}
    (among : c ∈ letters) : Text.isBlank c = false := by
  by_contra blank
  rw [Bool.not_eq_false] at blank
  have small := digital.isBlank (List.mem_map_of_mem among)
  rw [toLower_of_isBlank blank, blank] at small
  cases small

/-- The mark is set aside where there is one, and no digits are taken for it. -/
theorem Digital.withoutMark (digital : Digital (letters.map Char.toLower))
    (marked : mark = [] ∨ mark = ['0', 'x']) :
    withoutLead ['0', 'x'] (mark ++ letters) = letters := by
  rcases marked with rfl | rfl
  · exact withoutLead_of_not_mem_x fun among => digital.not_mem_x (List.mem_map_of_mem among)
  · exact withoutLead_append _ letters

/-- Of a text that writes digits only these count. -/
theorem Writes.keyDigits {lead : List Char} {text : String} (writes : Writes digits text.toList)
    (digital : Digital digits) :
    keyDigits lead text = String.ofList (withoutLead lead digits) := by
  generalize spelled : text.toList = cs at writes
  cases writes with
  | @within before mark letters after blank marked same blank' =>
      rw [← same] at digital
      have solid : ∀ c ∈ mark ++ letters, ¬ isBlank c = true := by
        intro c among
        rw [Bool.not_eq_true]
        rcases List.mem_append.1 among with sign | letter
        · rcases marked with rfl | rfl
          · cases sign
          · rcases List.mem_pair.1 sign with rfl | rfl <;> decide
        · exact digital.isBlank_of_map letter
      have trims : Trims (before ++ (mark ++ letters) ++ after) (mark ++ letters) :=
        .within blank blank' (fun c first => solid c (List.mem_of_mem_head? first))
          (fun c last => solid c (List.mem_of_mem_getLast? last))
      rw [LedgerAgent.keyDigits, spelled, trimmed_eq_iff.2 trims, digital.withoutMark marked, same]

end Hex

end Text

/-! ### Public keys -/

namespace PublicKey

variable {key : PublicKey} {text : String}

theorem digital_lead : Hex.Digital publicKeyLead := by
  decide

theorem toList_toText (key : PublicKey) : key.toText.toList = Hex.encodeChars key.toBytes := by
  rw [toText, Hex.encode, String.toList_ofList]

theorem toList_toTextWithLead (key : PublicKey) :
    key.toTextWithLead.toList = publicKeyLead ++ Hex.encodeChars key.toBytes := by
  rw [toTextWithLead, String.toList_append, String.toList_ofList, toList_toText]

/-- A public key is read from every variant of its digits. -/
theorem parse_of_writes (writes : Hex.Writes key.toText.toList text.toList) :
    parse text = .ok key := by
  rw [toList_toText] at writes
  apply parse_of_keyDigits
  rw [writes.keyDigits (Hex.digital_encodeChars _), withoutLead_of_not_prefix key.not_led]
  rfl

/-- And from every variant of them behind the fixed beginning. -/
theorem parse_of_writes_led (writes : Hex.Writes key.toTextWithLead.toList text.toList) :
    parse text = .ok key := by
  rw [toList_toTextWithLead] at writes
  apply parse_of_keyDigits
  rw [writes.keyDigits (digital_lead.append (Hex.digital_encodeChars _)), withoutLead_append]
  rfl

end PublicKey

/-! ### Private keys -/

namespace PrivateKey

variable {key : PrivateKey} {text : String}

theorem digital_lead : Hex.Digital privateKeyLead := by
  decide

/-- A text is read as the bytes that its digits write. -/
theorem parse_of_keyDigits {bs : List UInt8}
    (digits : keyDigits privateKeyLead text = Hex.encode bs) :
    parse text = (ofBytes? bs).elim (.error (.invalidPrivateKey cryptographicFault)) .ok := by
  simp only [parse, digits, Hex.decode_encode]
  cases ofBytes? bs <;> rfl

/-- A private key is read from every variant of its digits behind the fixed beginning. -/
theorem parse_of_writes_led
    (writes : Hex.Writes (privateKeyLead ++ Hex.encodeChars key.toBytes) text.toList) :
    parse text = .ok key := by
  have digits : keyDigits privateKeyLead text = Hex.encode key.toBytes := by
    rw [writes.keyDigits (digital_lead.append (Hex.digital_encodeChars _)), withoutLead_append]
    rfl
  rw [parse_of_keyDigits digits, ofBytes?_toBytes, Option.elim_some]

/-- And from every variant of its digits alone, unless they begin like the fixed beginning. -/
theorem parse_of_writes (writes : Hex.Writes (Hex.encodeChars key.toBytes) text.toList)
    (other : ¬ privateKeyLead <+: Hex.encodeChars key.toBytes) : parse text = .ok key := by
  have digits : keyDigits privateKeyLead text = Hex.encode key.toBytes := by
    rw [writes.keyDigits (Hex.digital_encodeChars _), withoutLead_of_not_prefix other]
    rfl
  rw [parse_of_keyDigits digits, ofBytes?_toBytes, Option.elim_some]

/-- A key that begins like the fixed beginning loses its first 18 bytes with it, and the 14 that
are left are too few for a key. -/
theorem ofBytes?_of_led {rest : List Char}
    (led : privateKeyLead ++ rest = Hex.encodeChars key.toBytes) :
    ∃ bs, rest = Hex.encodeChars bs ∧ ofBytes? bs = none := by
  have length : key.toBytes.length = 32 := length_bytesOfNat 32 key.scalar
  have parted : Hex.encodeChars key.toBytes =
      Hex.encodeChars (key.toBytes.take 18) ++ Hex.encodeChars (key.toBytes.drop 18) := by
    rw [← Hex.encodeChars_append, List.take_append_drop]
  have front : privateKeyLead.length = (Hex.encodeChars (key.toBytes.take 18)).length := by
    rw [Hex.length_encodeChars, List.length_take, length]
    rfl
  rw [parted] at led
  refine ⟨_, (List.append_inj led front).2, ?_⟩
  have short : (key.toBytes.drop 18).length < 24 := by
    rw [List.length_drop, length]
    decide
  rw [ofBytes?, if_pos (.inl short)]

/-- Digits that begin like it are taken for too few, and refused. -/
theorem parse_of_writes_begun (writes : Hex.Writes (Hex.encodeChars key.toBytes) text.toList)
    (begun : privateKeyLead <+: Hex.encodeChars key.toBytes) :
    parse text = .error (.invalidPrivateKey cryptographicFault) := by
  obtain ⟨rest, begun⟩ := begun
  obtain ⟨bs, rfl, short⟩ := ofBytes?_of_led begun
  have digits : keyDigits privateKeyLead text = Hex.encode bs := by
    rw [writes.keyDigits (Hex.digital_encodeChars _), ← begun, withoutLead_append]
    rfl
  rw [parse_of_keyDigits digits, short, Option.elim_none]

end PrivateKey

/-! ### All spellings -/

namespace Key

/-- Whatever text writes the hexadecimal digits of a key is read as that key: those of a public key
alone or behind the encoding's fixed beginning, and so are those of a private key, unless they
stand alone and begin like the fixed beginning themselves; then they are refused. -/
theorem writes_parse :
    (∀ (key : PublicKey) (text : String),
      Hex.Writes key.toText.toList text.toList ∨
        Hex.Writes key.toTextWithLead.toList text.toList → PublicKey.parse text = .ok key) ∧
    ∀ (key : PrivateKey) (text : String),
      (Hex.Writes (privateKeyLead ++ Hex.encodeChars key.toBytes) text.toList →
        PrivateKey.parse text = .ok key) ∧
      (Hex.Writes (Hex.encodeChars key.toBytes) text.toList →
        (¬ privateKeyLead <+: Hex.encodeChars key.toBytes → PrivateKey.parse text = .ok key) ∧
        (privateKeyLead <+: Hex.encodeChars key.toBytes →
          PrivateKey.parse text = .error (.invalidPrivateKey cryptographicFault))) := by
  constructor
  · rintro key text (plain | led)
    · exact PublicKey.parse_of_writes plain
    · exact PublicKey.parse_of_writes_led led
  · intro key text
    refine ⟨PrivateKey.parse_of_writes_led, fun plain => ⟨?_, ?_⟩⟩
    · exact PrivateKey.parse_of_writes plain
    · exact PrivateKey.parse_of_writes_begun plain

/-- The key of the point opposite to the generator of the curve. -/
def oddKey : PublicKey :=
  ⟨generator.x, true, by decide +kernel⟩

/-- A key of few digits. -/
def smallKey : PrivateKey :=
  ⟨0xabcdef, by decide, by decide⟩

/-- A key whose digits begin like the fixed beginning. -/
def begunKey : PrivateKey :=
  ⟨0x3030020100300706052b8104000a042204200000000000000000000000000001, by decide,
    by decide⟩

theorem writes_parse_mixed :
    PublicKey.parse ("\u00a0" ++ ("0x" ++ ("302D300706052b8104000A032200" ++
        "0379BE667EF9DCBBAC55A06295ce870b07029bfcdb2dce28d959f2815b16f81798")) ++ "\n") =
        .ok oddKey ∧
      PrivateKey.parse (" " ++ ("" ++ ("3030020100300706052B8104000a04220420" ++
        "0000000000000000000000000000000000000000000000000000000000aBcDeF")) ++ "") =
        .ok smallKey ∧
      PrivateKey.parse ("" ++ ("0x" ++
        "0000000000000000000000000000000000000000000000000000000000ABCDEF") ++ "\t") =
        .ok smallKey ∧
      PrivateKey.parse ("" ++ ("" ++
        "3030020100300706052b8104000a042204200000000000000000000000000001") ++ "") =
        .error (.invalidPrivateKey cryptographicFault) := by
  refine ⟨writes_parse.1 _ _ (.inr ?_), (writes_parse.2 _ _).1 ?_,
    ((writes_parse.2 _ _).2 ?_).1 (by decide +kernel),
    ((writes_parse.2 begunKey _).2 ?_).2 (by decide +kernel)⟩ <;>
    simp only [String.toList_append]
  · exact .within (List.all_eq_true.1 (by decide)) (.inr rfl) (by decide +kernel)
      (List.all_eq_true.1 (by decide))
  · exact .within (List.all_eq_true.1 (by decide)) (.inl rfl) (by decide +kernel) nofun
  · exact .within nofun (.inr rfl) (by decide +kernel) (List.all_eq_true.1 (by decide))
  · exact .within nofun (.inl rfl) (by decide +kernel) nofun

end Key

end LedgerAgent
