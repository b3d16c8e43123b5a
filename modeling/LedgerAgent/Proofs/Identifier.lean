/-
Module: LedgerAgent.Proofs.Identifier
Purpose: Identifiers read back from their canonical spelling, and what holds of
  every identifier that was read.
Main exports: EntityId.parse_toText, TransactionId.parse_toText, Instant.WithinSecond,
  TransactionId.withinSecond_of_parse
-/
import Mathlib.Data.List.DropRight
import LedgerAgent.Entity
import LedgerAgent.Proofs.Numeral

namespace LedgerAgent

namespace Text

/-! ### Cutting and trimming -/

/-- Text without white space has none around it. -/
theorem trimmed_of_not_blank {cs : List Char} (h : ∀ c ∈ cs, isBlank c = false) :
    trimmed cs = cs := by
  have keep : ∀ {xs : List Char}, (∀ c ∈ xs, isBlank c = false) →
      xs.dropWhile isBlank = xs := by
    intro xs notBlank
    cases xs with
    | nil => rfl
    | cons x xs => simp [notBlank x (by simp)]
  rw [trimmed, keep h, keep (by simpa using h), List.reverse_reverse]

/-- Trimmed text has no white space around it to trim. -/
theorem trimmed_trimmed (cs : List Char) : trimmed (trimmed cs) = trimmed cs := by
  have front : (trimmed cs).dropWhile isBlank = trimmed cs := by
    rw [List.dropWhile_eq_self_iff]
    intro nonempty
    have lead : trimmed cs <+: cs.dropWhile isBlank := List.rdropWhile_prefix isBlank _
    obtain ⟨rest, whole⟩ := lead
    have nonempty' : 0 < (cs.dropWhile isBlank).length := by
      rw [← whole, List.length_append]
      omega
    have first : (trimmed cs)[0] = (cs.dropWhile isBlank)[0] := by
      simp only [← whole, List.getElem_append_left nonempty]
    rw [first]
    exact List.dropWhile_get_zero_not _ _ _
  conv_lhs => rw [trimmed, front]
  exact List.rdropWhile_idempotent isBlank (cs.dropWhile isBlank)

theorem trimmed_trim (text : String) : trimmed (trim text).toList = trimmed text.toList := by
  rw [trim, String.toList_ofList, trimmed_trimmed]

theorem trim_trim (text : String) : trim (trim text) = trim text :=
  congrArg String.ofList (trimmed_trim text)

/-- A part that does not hold the separator is cut off whole. -/
theorem cutAt_append {sep : Char} {before : List Char} (after : List Char)
    (h : sep ∉ before) : cutAt sep (before ++ sep :: after) = some (before, after) := by
  induction before with
  | nil => simp [cutAt]
  | cons c before inductionHypothesis =>
      rw [List.mem_cons, not_or] at h
      simp [cutAt, Ne.symm h.1, inductionHypothesis h.2]

/-- Text is put together around a separator in one way only, if its front does not hold it. -/
theorem append_sep_inj {sep : Char} {front front' rest rest' : List Char} (h : sep ∉ front)
    (h' : sep ∉ front') :
    front ++ sep :: rest = front' ++ sep :: rest' ↔ front = front' ∧ rest = rest' := by
  constructor
  · intro same
    have cut := congrArg (cutAt sep) same
    rwa [cutAt_append _ h, cutAt_append _ h', Option.some.injEq, Prod.mk.injEq] at cut
  · rintro ⟨rfl, rfl⟩
    rfl

theorem cutAt_of_not_mem {sep : Char} {cs : List Char} (h : sep ∉ cs) : cutAt sep cs = none := by
  cases cut : cutAt sep cs with
  | none => rfl
  | some parts =>
      rw [eq_of_cutAt cut] at h
      simp at h

theorem fields_of_not_mem {sep : Char} {part : List Char} (h : sep ∉ part) :
    fields sep part = [part] := by
  induction part with
  | nil => rfl
  | cons c part inductionHypothesis =>
      rw [List.mem_cons, not_or] at h
      simp [fields, Ne.symm h.1, inductionHypothesis h.2]

/-- The fields of text that is put together around a separator are the fields of its two halves. -/
theorem fields_append_sep (sep : Char) (front rest : List Char) :
    fields sep (front ++ sep :: rest) = fields sep front ++ fields sep rest := by
  induction front with
  | nil => simp [fields]
  | cons c front inductionHypothesis =>
      rw [List.cons_append, fields, fields, inductionHypothesis]
      split
      · rfl
      · cases parts : fields sep front with
        | nil => exact absurd parts (fields_ne_nil sep front)
        | cons first others => rfl

/-- No field holds the separator. -/
theorem not_mem_of_mem_fields {sep : Char} {text part : List Char} (field : part ∈ fields sep text) :
    sep ∉ part := by
  induction text generalizing part with
  | nil =>
      rw [fields, List.mem_singleton] at field
      rw [field]
      exact List.not_mem_nil
  | cons c rest inductionHypothesis =>
      rw [fields] at field
      split at field
      · rcases List.mem_cons.1 field with rfl | later
        · exact List.not_mem_nil
        · exact inductionHypothesis later
      · next other =>
        split at field
        · next none => exact absurd none (fields_ne_nil sep rest)
        · next first others cut =>
          rw [cut, List.forall_mem_cons] at inductionHypothesis
          rcases List.mem_cons.1 field with rfl | later
          · rw [List.mem_cons, not_or]
            exact ⟨Ne.symm other, inductionHypothesis.1⟩
          · exact inductionHypothesis.2 part later

/-- The first field is what stands before the first separator. -/
theorem fields_append {sep : Char} {part : List Char} (rest : List Char) (h : sep ∉ part) :
    fields sep (part ++ sep :: rest) = part :: fields sep rest := by
  rw [fields_append_sep, fields_of_not_mem h, List.singleton_append]

namespace Numeral

theorem not_mem_digits {c : Char} (h : isDigit c = false) (n : Nat) : c ∉ digits n := by
  intro member
  rw [isDigit_of_mem_digits member] at h
  cases h

theorem isBlank_of_isDigit {c : Char} (h : isDigit c = true) : isBlank c = false := by
  have range := isDigit_iff.1 h
  simp only [isBlank, Bool.or_eq_false_iff, Bool.and_eq_false_iff, decide_eq_false_iff_not,
    beq_eq_false_iff_ne]
  omega

theorem isBlank_of_mem_digits {n : Nat} {c : Char} (h : c ∈ digits n) : isBlank c = false :=
  isBlank_of_isDigit (isDigit_of_mem_digits h)

theorem isBlank_of_mem_padded {width n : Nat} {c : Char} (h : c ∈ padded width n) :
    isBlank c = false :=
  isBlank_of_isDigit (isDigit_of_mem_padded h)

end Numeral

end Text

open Text

namespace EntityId

variable {kind : EntityKind}

/-- A spelled identifier is made of digits and points. -/
theorem mem_chars {id : EntityId kind} {c : Char} (h : c ∈ id.chars) :
    c = '.' ∨ ∃ n, c ∈ Numeral.digits n := by
  simp only [chars, List.mem_append, List.mem_cons] at h
  rcases h with (shard | rfl | realm) | rfl | num
  · exact Or.inr ⟨_, shard⟩
  · exact Or.inl rfl
  · exact Or.inr ⟨_, realm⟩
  · exact Or.inl rfl
  · exact Or.inr ⟨_, num⟩

theorem isBlank_of_mem_chars {id : EntityId kind} {c : Char} (h : c ∈ id.chars) :
    isBlank c = false := by
  rcases mem_chars h with rfl | ⟨n, digit⟩
  · decide
  · exact Numeral.isBlank_of_mem_digits digit

/-- The canonical spelling is read as the identifier itself. -/
theorem ofChars?_chars (id : EntityId kind) : ofChars? id.chars = some id := by
  have point : ∀ n, '.' ∉ Numeral.digits n := Numeral.not_mem_digits (by decide)
  have parts : fields '.' id.chars =
      [Numeral.digits id.shard.toNat, Numeral.digits id.realm.toNat,
        Numeral.digits id.num.toNat] := by
    rw [chars, List.append_assoc, List.cons_append, fields_append _ (point _),
      fields_append _ (point _), fields_of_not_mem (point _)]
  simp [ofChars?, trimmed_of_not_blank fun c => isBlank_of_mem_chars, parts,
    Numeral.uint64_digits]

/-- An entity's text spells it again. -/
theorem parse_toText (id : EntityId kind) : parse id.toText = .ok id := by
  simp [parse, toText, ofChars?_chars]

/-- Entities are told apart by their texts. -/
theorem chars_inj {id id' : EntityId kind} (h : id.chars = id'.chars) : id = id' := by
  have read : some id = some id' := by
    rw [← ofChars?_chars id, h, ofChars?_chars]
  exact Option.some.inj read

end EntityId

/-- The nanoseconds are those of one second.  A clock tells no other instants. -/
def Instant.WithinSecond (i : Instant) : Prop :=
  i.nanos.toNat < 10 ^ 9

instance (i : Instant) : Decidable i.WithinSecond :=
  inferInstanceAs (Decidable (_ < _))

namespace TransactionId

theorem byteLength_cons (c : Char) (cs : List Char) :
    byteLength (c :: cs) = c.utf8Size + byteLength cs :=
  rfl

theorem length_le_byteLength (cs : List Char) : cs.length ≤ byteLength cs := by
  induction cs with
  | nil => exact Nat.le_refl 0
  | cons c cs inductionHypothesis =>
      have positive := c.utf8Size_pos
      rw [byteLength_cons, List.length_cons]
      omega

/-- Characters of one byte each take as many bytes as they are. -/
theorem byteLength_of_ascii {cs : List Char} (h : ∀ c ∈ cs, c.utf8Size = 1) :
    byteLength cs = cs.length := by
  induction cs with
  | nil => rfl
  | cons c cs inductionHypothesis =>
      rw [byteLength_cons, h c (by simp),
        inductionHypothesis fun d member => h d (List.mem_cons_of_mem c member),
        List.length_cons, Nat.add_comm]

theorem byteLength_of_digital {cs : List Char} (digital : ∀ c ∈ cs, Numeral.isDigit c = true) :
    byteLength cs = cs.length := by
  apply byteLength_of_ascii
  intro c member
  have range := Numeral.isDigit_iff.1 (digital c member)
  rw [Char.utf8Size_eq_one_iff, UInt32.le_iff_toNat_le]
  exact Nat.le_trans range.2 (by decide)

/-- A fraction of at most nine digits, taken to nine places, is less than a second.
A sign in front would take a place from the digits. -/
theorem nanos?_lt {cs : List Char} {nanos : UInt32} (h : nanos? cs = some nanos) :
    nanos.toNat < 10 ^ 9 := by
  unfold nanos? at h
  split at h
  · cases h
  · rename_i fits
    have short : cs.length ≤ 9 := by
      simp only [Bool.or_eq_true, decide_eq_true_eq, not_or, Nat.not_lt] at fits
      exact Nat.le_trans (length_le_byteLength cs) fits.2
    have length : (Numeral.padRight 9 cs).length = 9 := by
      simp only [Numeral.padRight, List.length_append, List.length_replicate]
      omega
    cases read : Numeral.unsigned (Nat.pow 2 32) (Numeral.padRight 9 cs) with
    | error e => simp only [Numeral.uint32, read, Except.map, Except.toOption, reduceCtorEq] at h
    | ok n =>
        simp only [Numeral.uint32, read, Except.map, Except.toOption, Option.some.injEq] at h
        have bound := Numeral.lt_of_unsigned (by decide) read
        rw [length] at bound
        rw [← h, UInt32.toNat_ofNat_of_lt' (Nat.lt_trans bound (by decide))]
        exact bound

/-- Nine digits are a whole fraction. -/
theorem nanos?_padded {nanos : UInt32} (h : nanos.toNat < 10 ^ 9) :
    nanos? (Numeral.padded 9 nanos.toNat) = some nanos := by
  have length := Numeral.length_padded (by decide) h
  have size : byteLength (Numeral.padded 9 nanos.toNat) = 9 := by
    rw [byteLength_of_digital fun c => Numeral.isDigit_of_mem_padded, length]
  have nonempty : (Numeral.padded 9 nanos.toNat).isEmpty = false := by
    rw [List.isEmpty_eq_false_iff, ← List.length_pos_iff, length]
    decide
  rw [nanos?, size, nonempty, Numeral.padRight_of_le (by omega), Numeral.uint32,
    Numeral.unsigned_padded nanos.toNat_lt]
  simp [Except.map, Except.toOption]

/-- A spelled time: sign and digits of the seconds. -/
def secondsChars (seconds : Int64) : List Char :=
  (if seconds.toInt < 0 then ['-'] else []) ++ Numeral.digits seconds.toInt.natAbs

theorem mem_secondsChars {seconds : Int64} {c : Char} (h : c ∈ secondsChars seconds) :
    c = '-' ∨ ∃ n, c ∈ Numeral.digits n := by
  rcases List.mem_append.1 h with sign | digit
  · split at sign
    · exact Or.inl (List.mem_singleton.1 sign)
    · cases sign
  · exact Or.inr ⟨_, digit⟩

/-- The text of an identity, part by part. -/
theorem chars_eq (id : TransactionId) :
    id.chars = id.account.chars ++ '@' :: (secondsChars id.validStart.seconds ++
      '.' :: Numeral.padded 9 id.validStart.nanos.toNat) := by
  simp [chars, secondsChars]

theorem isBlank_of_mem_chars {id : TransactionId} {c : Char} (h : c ∈ id.chars) :
    isBlank c = false := by
  rw [chars_eq, List.mem_append, List.mem_cons, List.mem_append, List.mem_cons] at h
  rcases h with account | rfl | seconds | rfl | nanos
  · exact EntityId.isBlank_of_mem_chars account
  · decide
  · rcases mem_secondsChars seconds with rfl | ⟨n, digit⟩
    · decide
    · exact Numeral.isBlank_of_mem_digits digit
  · decide
  · exact Numeral.isBlank_of_mem_padded nanos

theorem at_not_mem_account (id : TransactionId) : '@' ∉ id.account.chars := by
  intro member
  rcases EntityId.mem_chars member with point | ⟨n, digit⟩
  · exact absurd point (by decide)
  · exact Numeral.not_mem_digits (by decide) n digit

theorem point_not_mem_secondsChars (seconds : Int64) : '.' ∉ secondsChars seconds := by
  intro member
  rcases mem_secondsChars member with minus | ⟨n, digit⟩
  · exact absurd minus (by decide)
  · exact Numeral.not_mem_digits (by decide) n digit

theorem int64_secondsChars (seconds : Int64) :
    Numeral.int64 (secondsChars seconds) = .ok seconds :=
  Numeral.int64_spelled seconds

/-- The canonical spelling is read as the identifier itself. -/
theorem ofChars?_chars {id : TransactionId} (h : id.validStart.WithinSecond) :
    ofChars? id.chars = some id := by
  rw [ofChars?, trimmed_of_not_blank fun c => isBlank_of_mem_chars, chars_eq,
    cutAt_append _ id.at_not_mem_account]
  simp [cutAt_append _ (point_not_mem_secondsChars _), nanos?_padded h, EntityId.ofChars?_chars,
    int64_secondsChars, Except.toOption]

/-- An identity's text spells it again, if its time is within a second. -/
theorem parse_toText {id : TransactionId} (h : id.validStart.WithinSecond) :
    parse id.toText = .ok id := by
  simp [parse, toText, ofChars?_chars h]

/-- Spellings tell identifiers apart, even those out of range that no text is read as. -/
theorem chars_inj {id id' : TransactionId} (h : id.chars = id'.chars) : id = id' := by
  rw [chars_eq, chars_eq, append_sep_inj id.at_not_mem_account id'.at_not_mem_account,
    append_sep_inj (point_not_mem_secondsChars _) (point_not_mem_secondsChars _)] at h
  obtain ⟨account, seconds, nanos⟩ := h
  have seconds := congrArg Numeral.int64 seconds
  rw [int64_secondsChars, int64_secondsChars, Except.ok.injEq] at seconds
  have nanos := congrArg (Numeral.unsigned (Nat.pow 2 32)) nanos
  rw [Numeral.unsigned_padded (UInt32.toNat_lt _), Numeral.unsigned_padded (UInt32.toNat_lt _),
    Except.ok.injEq] at nanos
  obtain ⟨_, _, _⟩ := id
  obtain ⟨_, _, _⟩ := id'
  simp only at account seconds nanos
  rw [EntityId.chars_inj account, seconds, UInt32.toNat_inj.1 nanos]

/-- Whatever text spells an identity, its time is within a second. -/
theorem withinSecond_of_ofChars? {cs : List Char} {id : TransactionId}
    (h : ofChars? cs = some id) : id.validStart.WithinSecond := by
  simp only [ofChars?, Option.bind_eq_bind, Option.bind_eq_some_iff, Option.pure_def,
    Option.some.injEq, Prod.exists] at h
  obtain ⟨account, time, _, seconds, fraction, _, nanos, read, _, _, _, _, rfl⟩ := h
  exact nanos?_lt read

/-- Whatever text an identifier was read from, its nanoseconds are less than a second. -/
theorem withinSecond_of_parse {text : String} {id : TransactionId}
    (h : parse text = .ok id) : id.validStart.WithinSecond := by
  unfold parse at h
  split at h
  · rename_i id' read
    cases h
    exact withinSecond_of_ofChars? read
  · cases h

end TransactionId

end LedgerAgent
