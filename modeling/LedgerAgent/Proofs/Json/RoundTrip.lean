/-
Module: LedgerAgent.Proofs.Json.RoundTrip
Purpose: Rendered JSON values are read back as they were, whatever text follows them.
Main exports: Json.Follows, Json.Fits, Json.readString_escaped, Json.readNumber_natural,
  Json.readValue_chars, Json.readBytes_render, Json.bytes_render_inj
-/
import LedgerAgent.Json.Printer
import LedgerAgent.Json.Reader
import LedgerAgent.Proofs.Numeral
import Mathlib.Tactic.IntervalCases

namespace LedgerAgent.Json

open Text.Numeral

def symbols (cs : List Char) : List Symbol :=
  cs.map some

@[simp] theorem symbols_nil : symbols [] = [] := rfl

@[simp] theorem symbols_cons (c : Char) (cs : List Char) :
    symbols (c :: cs) = some c :: symbols cs := rfl

@[simp] theorem symbols_append (cs ds : List Char) :
    symbols (cs ++ ds) = symbols cs ++ symbols ds :=
  List.map_append

@[simp] theorem length_symbols (cs : List Char) : (symbols cs).length = cs.length :=
  List.length_map some

/-- A character that is no white space ends the white space before it. -/
theorem skipSpace_cons {c : Char} (rest : List Symbol) (h : isSpace c = false) :
    skipSpace (some c :: rest) = some c :: rest := by
  simp [skipSpace, h]

/-! ### Strings -/

/-- One step reads back one escaped character. -/
theorem stringStep_escapeChar (c : Char) (rest : List Symbol) :
    stringStep (symbols (escapeChar c) ++ rest) = .symbol (some c) rest := by
  by_cases quote : c = '"'
  · subst quote
    rfl
  · by_cases backslash : c = '\\'
    · subst backslash
      rfl
    · by_cases control : c.toNat < 32
      · obtain ⟨n, small, rfl⟩ : ∃ n, n < 32 ∧ c = Char.ofNat n :=
          ⟨c.toNat, control, (Char.ofNat_toNat c).symm⟩
        -- The escape's letter or digits depend on the control character.
        clear control quote backslash
        interval_cases n <;> rfl
      · simp only [escapeChar, quote, backslash, control, if_false, symbols_cons, symbols_nil,
          List.singleton_append]
        rw [stringStep] <;> simp_all

/-- An escaped string is read up to its closing quote. -/
theorem readStringFrom_escaped (cs : List Char) (found rest : List Symbol) {fuel : Nat}
    (h : cs.length < fuel) :
    readStringFrom found none fuel (symbols (cs.flatMap escapeChar) ++ some '"' :: rest) =
      ⟨.ofSymbols ((symbols cs).reverse ++ found) none none, some rest⟩ := by
  induction cs generalizing found fuel with
  | nil =>
      match fuel with
      | fuel + 1 => rfl
  | cons c cs inductionHypothesis =>
      match fuel with
      | fuel + 1 =>
          have short : cs.length < fuel := Nat.lt_of_succ_lt_succ h
          simp only [List.flatMap_cons, symbols_append, List.append_assoc, readStringFrom,
            stringStep_escapeChar, inductionHypothesis _ short]
          simp

/-- Symbols that are characters make a string without a fault. -/
theorem ofSymbols_symbols (cs : List Char) :
    StringRead.ofSymbols (symbols cs).reverse none none = ⟨cs, none, none⟩ := by
  have clean : (symbols cs).reverse.all Option.isSome = true := by
    simp [symbols]
  have plain : (symbols cs).filterMap id = cs := by
    simp [symbols]
  simp only [StringRead.ofSymbols, clean, List.reverse_reverse, plain, if_true]
  rfl

theorem length_le_length_escaped (cs : List Char) :
    cs.length ≤ (cs.flatMap escapeChar).length := by
  induction cs with
  | nil => exact Nat.le_refl 0
  | cons c cs inductionHypothesis =>
      have positive : 1 ≤ (escapeChar c).length := by
        unfold escapeChar
        repeat' split
        all_goals simp
      simp only [List.flatMap_cons, List.length_append, List.length_cons]
      omega

/-- A string is read back from behind its opening quote, and what follows is left. -/
theorem readString_escaped (s : String) (rest : List Symbol) :
    readString (symbols (s.toList.flatMap escapeChar) ++ some '"' :: rest) =
      ⟨⟨s.toList, none, none⟩, some rest⟩ := by
  have enough := length_le_length_escaped s.toList
  rw [readString, readStringFrom_escaped, List.append_nil, ofSymbols_symbols]
  simp only [List.length_append, length_symbols]
  omega

/-! ### Numbers -/

/-- What may stand behind a value: nothing, or a character that cannot go on a
number. -/
inductive Follows : List Symbol → Prop where
  | nothing : Follows []
  | comma (rest : List Symbol) : Follows (some ',' :: rest)
  | bracket (rest : List Symbol) : Follows (some ']' :: rest)
  | brace (rest : List Symbol) : Follows (some '\x7d' :: rest)

theorem spanDigits_of_follows {rest : List Symbol} (h : Follows rest) :
    spanDigits rest = ([], rest) := by
  cases h <;> rfl

/-- A number's digits are split off from what follows it. -/
theorem spanDigits_symbols {ds : List Char} {rest : List Symbol}
    (digital : ∀ c ∈ ds, isDigit c = true) (h : Follows rest) :
    spanDigits (symbols ds ++ rest) = (ds, rest) := by
  induction ds with
  | nil => exact spanDigits_of_follows h
  | cons d ds inductionHypothesis =>
      have tail := inductionHypothesis fun c member => digital c (List.mem_cons_of_mem d member)
      have first : Option.any isDigit (some d) = true := digital d (List.mem_cons_self ..)
      simp only [spanDigits, Prod.mk.injEq] at tail ⊢
      rw [symbols_cons, List.cons_append, List.takeWhile_cons_of_pos first,
        List.dropWhile_cons_of_pos first]
      exact ⟨congrArg (d :: ·) tail.1, tail.2⟩

/-- The digits of a natural number are the whole of a number's text.  A zero is read
apart from other digits, since no digit may follow it. -/
theorem readNumberParts_digits (negative : Bool) (n : Nat) {rest : List Symbol}
    (h : Follows rest) :
    readNumberParts negative (symbols (digits n) ++ rest) =
      .ok (⟨negative, digits n, none, none⟩, rest) := by
  have span := spanDigits_symbols (fun c => isDigit_of_mem_digits (n := n)) h
  obtain ⟨d, ds, spelled, _, zero⟩ := head_digits n
  rw [spelled, symbols_cons, List.cons_append] at span ⊢
  by_cases isZero : d = '0'
  · subst isZero
    rw [zero rfl]
    cases h <;> rfl
  · unfold readNumberParts
    rw [span]
    split
    · contradiction
    · simp_all
    · cases h <;> rfl

/-- The digits of a number have its value. -/
theorem digitsValue_digits (n : Nat) : digitsValue (digits n) = n := by
  have agree : digitsValue (digits n) = Nat.ofDigitChars 10 (digits n) 0 := by
    rw [Nat.ofDigitChars_eq_foldl, digitsValue]
    congr
    funext value c
    rw [Nat.mul_comm]
    rfl
  rw [agree, ofDigitChars_digits]

/-- A number that is an integer, in the class that its text goes to. -/
def Number.Integral : Number → Prop
  | .natural _ => True
  | .negative n => n.toInt < 0
  | .real _ => False

/-- A number behind its sign is read back. -/
theorem readNumber_natural (n : UInt64) {rest : List Symbol} (h : Follows rest) :
    readNumber false (symbols (digits n.toNat) ++ rest) = ⟨.number (.natural n), some rest⟩ := by
  have bound : n.toNat < Nat.pow 2 64 := n.toNat_lt
  have number : NumberParts.toNumber? ⟨false, digits n.toNat, none, none⟩ =
      some (.natural n) := by
    simp only [NumberParts.toNumber?, digitsValue_digits, Bool.not_false, Bool.true_and,
      decide_eq_true bound, if_true, UInt64.ofNat_toNat]
  simp [readNumber, readNumberParts_digits _ _ h, number]

/-- A negative number is read from its digits, the sign taken off. -/
theorem readNumber_negative {n : Int64} (negative : n.toInt < 0) {rest : List Symbol}
    (h : Follows rest) :
    readNumber true (symbols (digits n.toInt.natAbs) ++ rest) =
      ⟨.number (.negative n), some rest⟩ := by
  have low := n.le_toInt
  have positive : 0 < n.toInt.natAbs := by omega
  have bound : n.toInt.natAbs ≤ Nat.pow 2 63 := by
    rw [Nat.pow_eq]
    omega
  have value : -(n.toInt.natAbs : Int) = n.toInt := by omega
  have number : NumberParts.toNumber? ⟨true, digits n.toInt.natAbs, none, none⟩ =
      some (.negative n) := by
    simp only [NumberParts.toNumber?, digitsValue_digits, Bool.not_true, Bool.false_and,
      Bool.false_eq_true, if_false, Bool.true_and, decide_eq_true positive,
      decide_eq_true bound, if_true, value, Int64.ofInt_toInt]
  simp [readNumber, readNumberParts_digits _ _ h, number]

/-! ### Values

A value may stand `room` levels of nesting below the deepest one that is read. -/

mutual

/-- A value that is read back where `room` more levels of nesting are allowed: it is
no deeper than that, and its numbers are integers. -/
def Fits : Nat → Json → Prop
  | _, .null => True
  | _, .bool _ => True
  | _, .number n => n.Integral
  | _, .string _ => True
  | 0, .array _ => False
  | room + 1, .array items => ItemsFit room items
  | 0, .object _ => False
  | room + 1, .object members => MembersFit room members

/-- Items that are read back with `room` levels allowed in each. -/
def ItemsFit : Nat → List Json → Prop
  | _, [] => True
  | room, item :: rest => Fits room item ∧ ItemsFit room rest

/-- Members whose values are read back with `room` levels allowed in each. -/
def MembersFit : Nat → List (String × Json) → Prop
  | _, [] => True
  | room, (_, value) :: rest => Fits room value ∧ MembersFit room rest

end

theorem fits_string {room : Nat} (s : String) : Fits room (.string s) := by
  simp [Fits]

/-- A text that goes on with an item: no white space and no closing bracket is next. -/
def Begins (cs : List Symbol) : Prop :=
  ∃ c rest, cs = some c :: rest ∧ isSpace c = false ∧ c ≠ ']'

theorem isSpace_of_isDigit {c : Char} (h : isDigit c = true) : isSpace c = false := by
  have range := isDigit_iff.1 h
  simp only [isSpace, Bool.or_eq_false_iff, decide_eq_false_iff_not]
  refine ⟨⟨⟨?_, ?_⟩, ?_⟩, ?_⟩ <;> (rintro rfl; revert range; decide)

/-- A value begins with no white space, and with nothing that would close something. -/
theorem begins_chars {room : Nat} {v : Json} (fits : Fits room v) (rest : List Symbol) :
    Begins (symbols v.chars ++ rest) := by
  cases v with
  | null => exact ⟨'n', _, rfl, by decide, by decide⟩
  | bool b =>
      cases b with
      | false => exact ⟨'f', _, rfl, by decide, by decide⟩
      | true => exact ⟨'t', _, rfl, by decide, by decide⟩
  | number n =>
      cases n with
      | natural n =>
          obtain ⟨d, ds, spelled, digital, _⟩ := head_digits n.toNat
          refine ⟨d, symbols ds ++ rest, ?_, isSpace_of_isDigit digital, ?_⟩
          · rw [chars, Number.chars, show Nat.toDigits 10 n.toNat = d :: ds from spelled,
              symbols_cons, List.cons_append]
          · rintro rfl
            exact absurd digital (by decide)
      | negative n => exact ⟨'-', _, rfl, by decide, by decide⟩
      | real x => exact False.elim fits
  | string s => exact ⟨'"', _, rfl, by decide, by decide⟩
  | array items => exact ⟨'[', _, rfl, by decide, by decide⟩
  | object members => exact ⟨'\x7b', _, rfl, by decide, by decide⟩

theorem one_le_length_chars {room : Nat} {v : Json} (fits : Fits room v) :
    1 ≤ v.chars.length := by
  obtain ⟨c, rest, spelled, _⟩ := begins_chars fits []
  have length := congrArg List.length spelled
  simp only [List.append_nil, length_symbols, List.length_cons] at length
  omega

theorem begins_itemsChars {room : Nat} {item : Json} (fits : Fits room item)
    (others : List Json) (rest : List Symbol) :
    Begins (symbols (itemsChars (item :: others)) ++ rest) := by
  cases others with
  | nil => exact begins_chars fits rest
  | cons next others =>
      rw [itemsChars, symbols_append, List.append_assoc]
      exact begins_chars fits _

/-! The first character decides how a text is read on. -/

theorem readWord_symbols (word : List Char) (value : Reading) (rest : List Symbol) :
    readWord word value (symbols word ++ rest) = ⟨value, some rest⟩ := by
  induction word with
  | nil => simp [readWord]
  | cons c word inductionHypothesis => simp [readWord, inductionHypothesis]

theorem readValue_null (depth fuel : Nat) (rest : List Symbol) :
    readValue depth (fuel + 1) (symbols ['n', 'u', 'l', 'l'] ++ rest) = ⟨.null, some rest⟩ := by
  rw [symbols_cons, List.cons_append, readValue, skipSpace_cons _ (by decide)]
  exact readWord_symbols _ _ _

theorem readValue_true (depth fuel : Nat) (rest : List Symbol) :
    readValue depth (fuel + 1) (symbols ['t', 'r', 'u', 'e'] ++ rest) =
      ⟨.bool true, some rest⟩ := by
  rw [symbols_cons, List.cons_append, readValue, skipSpace_cons _ (by decide)]
  exact readWord_symbols _ _ _

theorem readValue_false (depth fuel : Nat) (rest : List Symbol) :
    readValue depth (fuel + 1) (symbols ['f', 'a', 'l', 's', 'e'] ++ rest) =
      ⟨.bool false, some rest⟩ := by
  rw [symbols_cons, List.cons_append, readValue, skipSpace_cons _ (by decide)]
  exact readWord_symbols _ _ _

theorem readValue_minus (depth fuel : Nat) (rest : List Symbol) :
    readValue depth (fuel + 1) (some '-' :: rest) = readNumber true rest := by
  rw [readValue, skipSpace_cons _ (by decide)]
  rfl

theorem readValue_digit {d : Char} (digital : isDigit d = true) (depth fuel : Nat)
    (rest : List Symbol) :
    readValue depth (fuel + 1) (some d :: rest) = readNumber false (some d :: rest) := by
  rw [readValue, skipSpace_cons _ (isSpace_of_isDigit digital)]
  split
  case h_9 =>
    rename_i same
    cases same
    simp [digital]
  all_goals
    rename_i same
    cases same <;> exact absurd digital (by decide)

theorem readValue_quote (depth fuel : Nat) (rest : List Symbol) :
    readValue depth (fuel + 1) (some '"' :: rest) =
      ⟨(readString rest).part.toReading, (readString rest).rest⟩ := by
  rw [readValue, skipSpace_cons _ (by decide)]
  rfl

/-- An array is read if its items are. -/
theorem readValue_bracket {depth fuel : Nat} {items : List Reading} {text rest : List Symbol}
    (shallow : depth < maxDepth)
    (h : readItems (depth + 1) fuel true text = ⟨(items, none), some rest⟩) :
    readValue depth (fuel + 1) (some '[' :: text) = ⟨.array items none, some rest⟩ := by
  rw [readValue, skipSpace_cons _ (by decide)]
  simp [h, atDepth, shallow]

/-- An object is read if its members are. -/
theorem readValue_brace {depth fuel : Nat} {members : List (String × Reading)}
    {text rest : List Symbol} (shallow : depth < maxDepth)
    (opens : opensObject (skipSpace text) = true)
    (h : readMembers (depth + 1) fuel true text = ⟨(members, none), some rest⟩) :
    readValue depth (fuel + 1) (some '\x7b' :: text) = ⟨.object members none, some rest⟩ := by
  rw [readValue, skipSpace_cons _ (by decide)]
  simp [h, atDepth, shallow, opens]

theorem readItems_first {text : List Symbol} (begins : Begins text) (depth fuel : Nat) :
    readItems depth (fuel + 1) true text = readItem depth fuel text := by
  obtain ⟨c, rest, rfl, space, open_⟩ := begins
  rw [readItems, skipSpace_cons _ space]
  split <;> simp_all

theorem readItems_comma {text : List Symbol} (begins : Begins text) (depth fuel : Nat) :
    readItems depth (fuel + 1) false (some ',' :: text) = readItem depth fuel text := by
  obtain ⟨c, rest, rfl, space, open_⟩ := begins
  rw [readItems, skipSpace_cons _ (by decide)]
  split
  · contradiction
  · rename_i same
    simp at same
  · rename_i same
    cases same
    simp only [skipSpace_cons _ space]
    split <;> simp_all

theorem readItems_end (depth fuel : Nat) (first : Bool) (rest : List Symbol) :
    readItems depth (fuel + 1) first (some ']' :: rest) = ⟨([], none), some rest⟩ := by
  rw [readItems, skipSpace_cons _ (by decide)]
  rfl

theorem readMembers_first (depth fuel : Nat) (rest : List Symbol) :
    readMembers depth (fuel + 1) true (some '"' :: rest) =
      readMember depth fuel (some '"' :: rest) := by
  rw [readMembers, skipSpace_cons _ (by decide)]
  rfl

theorem readMembers_comma (depth fuel : Nat) (rest : List Symbol) :
    readMembers depth (fuel + 1) false (some ',' :: some '"' :: rest) =
      readMember depth fuel (some '"' :: rest) := by
  rw [readMembers, skipSpace_cons _ (by decide)]
  split
  · contradiction
  · rename_i same
    simp at same
  · rename_i same
    cases same
    simp only [skipSpace_cons _ (show isSpace '"' = false by decide)]
    split <;> simp_all

theorem readMembers_end (depth fuel : Nat) (first : Bool) (rest : List Symbol) :
    readMembers depth (fuel + 1) first (some '\x7d' :: rest) = ⟨([], none), some rest⟩ := by
  rw [readMembers, skipSpace_cons _ (by decide)]
  rfl

/-- Members begin with the quote of the first key. -/
theorem membersChars_quote (member : String × Json) (others : List (String × Json))
    (rest : List Symbol) :
    ∃ more, symbols (membersChars (member :: others)) ++ rest = some '"' :: more := by
  cases others with
  | nil => exact ⟨_, rfl⟩
  | cons next others => exact ⟨_, rfl⟩

/-- A key, its colon and its value are read as a member, and then the other members. -/
theorem readMember_key {depth fuel : Nat} {key : String} {value : Reading}
    {text rest : List Symbol} (h : readValue depth fuel text = ⟨value, some rest⟩) :
    readMember depth (fuel + 1) (symbols (stringChars key) ++ some ':' :: text) =
      ⟨((key, value) :: (readMembers depth fuel false rest).part.1,
        (readMembers depth fuel false rest).part.2), (readMembers depth fuel false rest).rest⟩ := by
  have string := readString_escaped key (some ':' :: text)
  rw [stringChars, List.cons_append, symbols_cons, symbols_append, symbols_cons, symbols_nil,
    List.cons_append, List.append_assoc, List.singleton_append, readMember, string]
  simp only [skipSpace_cons _ (show isSpace ':' = false by decide), h]
  simp [StringRead.member]

mutual

/-- A value is read back, and what follows it is left. -/
theorem readValue_chars :
    ∀ (v : Json) {room : Nat} (depth fuel : Nat) {rest : List Symbol}, Fits room v →
      depth + room ≤ maxDepth → Follows rest → 3 * v.chars.length ≤ fuel →
        readValue depth fuel (symbols v.chars ++ rest) = ⟨v.toReading, some rest⟩
  | .null, _, depth, fuel + 1, rest, _, _, _, _ => readValue_null depth fuel rest
  | .bool true, _, depth, fuel + 1, rest, _, _, _, _ => readValue_true depth fuel rest
  | .bool false, _, depth, fuel + 1, rest, _, _, _, _ => readValue_false depth fuel rest
  | .number (.natural n), _, depth, fuel + 1, rest, _, _, follows, _ => by
      obtain ⟨d, ds, spelled, digital, _⟩ := head_digits n.toNat
      have number := readNumber_natural n follows
      rw [spelled] at number
      rw [chars, Number.chars, show Nat.toDigits 10 n.toNat = d :: ds from spelled, symbols_cons,
        List.cons_append, readValue_digit digital, toReading]
      exact number
  | .number (.negative n), _, depth, fuel + 1, rest, fits, _, follows, _ => by
      rw [chars, Number.chars, symbols_cons, List.cons_append, readValue_minus, toReading]
      exact readNumber_negative fits follows
  | .string s, _, depth, fuel + 1, rest, _, _, _, _ => by
      rw [chars, stringChars, List.cons_append, symbols_cons, symbols_append, symbols_cons,
        symbols_nil, List.cons_append, List.append_assoc, List.singleton_append,
        readValue_quote, readString_escaped, toReading]
      simp [StringRead.toReading]
  | .array [], room + 1, depth, fuel, rest, _, deep, _, enough => by
      obtain ⟨fuel, rfl⟩ : ∃ k, fuel = k + 2 := ⟨fuel - 2, by simp [chars] at enough; omega⟩
      rw [toReading, itemReadings]
      exact readValue_bracket (by omega) (readItems_end _ _ _ _)
  | .array (item :: others), room + 1, depth, fuel, rest, fits, deep, _, enough => by
      have shown : symbols (chars (.array (item :: others))) ++ rest =
          some '[' :: (symbols (itemsChars (item :: others)) ++ some ']' :: rest) := by
        simp [chars]
      have length : (chars (.array (item :: others))).length =
          (itemsChars (item :: others)).length + 2 := by
        simp [chars]
      obtain ⟨fuel, rfl⟩ : ∃ k, fuel = k + 2 := ⟨fuel - 2, by omega⟩
      have items := readItem_chars (item :: others) (depth + 1) fuel rest (by simp) fits
        (by omega) (by omega)
      rw [shown, toReading]
      refine readValue_bracket (by omega) ?_
      rw [readItems_first (begins_itemsChars fits.1 others _), items]
  | .object [], room + 1, depth, fuel, rest, _, deep, _, enough => by
      obtain ⟨fuel, rfl⟩ : ∃ k, fuel = k + 2 := ⟨fuel - 2, by simp [chars] at enough; omega⟩
      rw [toReading, memberReadings]
      exact readValue_brace (by omega) rfl (readMembers_end _ _ _ _)
  | .object (member :: others), room + 1, depth, fuel, rest, fits, deep, _, enough => by
      have shown : symbols (chars (.object (member :: others))) ++ rest =
          some '\x7b' :: (symbols (membersChars (member :: others)) ++ some '\x7d' :: rest) := by
        simp [chars]
      have length : (chars (.object (member :: others))).length =
          (membersChars (member :: others)).length + 2 := by
        simp [chars]
      obtain ⟨fuel, rfl⟩ : ∃ k, fuel = k + 2 := ⟨fuel - 2, by omega⟩
      have members := readMember_chars (member :: others) (depth + 1) fuel rest (by simp) fits
        (by omega) (by omega)
      obtain ⟨more, quote⟩ := membersChars_quote member others
        (some '\x7d' :: rest)
      rw [shown, toReading]
      rw [quote] at members ⊢
      refine readValue_brace (by omega) rfl ?_
      rw [readMembers_first, members]
  | v, room, _, 0, _, fits, _, _, enough => by
      have := one_le_length_chars fits
      omega

/-- Items are read back from the first of them to the bracket behind the last. -/
theorem readItem_chars :
    ∀ (items : List Json) {room : Nat} (depth fuel : Nat) (rest : List Symbol), items ≠ [] →
      ItemsFit room items → depth + room ≤ maxDepth → 3 * (itemsChars items).length < fuel →
        readItem depth fuel (symbols (itemsChars items) ++ some ']' :: rest) =
          ⟨(itemReadings items, none), some rest⟩
  | [], _, _, _, _, nonempty, _, _, _ => absurd rfl nonempty
  | [item], room, depth, fuel, rest, _, fits, deep, enough => by
      have positive := one_le_length_chars fits.1
      rw [itemsChars] at enough ⊢
      obtain ⟨fuel, rfl⟩ : ∃ k, fuel = k + 2 := ⟨fuel - 2, by omega⟩
      have value := readValue_chars item depth (fuel + 1) fits.1 deep (.bracket rest) (by omega)
      rw [readItem, value]
      simp [readItems_end, itemReadings]
  | item :: next :: others, room, depth, fuel, rest, _, fits, deep, enough => by
      simp only [itemsChars, List.length_append, List.length_cons] at enough
      obtain ⟨fuel, rfl⟩ : ∃ k, fuel = k + 2 := ⟨fuel - 2, by omega⟩
      have value := readValue_chars item depth (fuel + 1) fits.1 deep
        (.comma (symbols (itemsChars (next :: others)) ++ some ']' :: rest)) (by omega)
      have items := readItem_chars (next :: others) depth fuel rest (by simp) fits.2 deep
        (by omega)
      rw [itemsChars, symbols_append, symbols_cons, List.append_assoc, List.cons_append,
        readItem, value]
      simp only [readItems_comma (begins_itemsChars fits.2.1 others _), items]
      rfl

/-- Members are read back from the first of them to the brace behind the last. -/
theorem readMember_chars :
    ∀ (members : List (String × Json)) {room : Nat} (depth fuel : Nat) (rest : List Symbol),
      members ≠ [] → MembersFit room members → depth + room ≤ maxDepth →
        3 * (membersChars members).length < fuel →
          readMember depth fuel (symbols (membersChars members) ++ some '\x7d' :: rest) =
            ⟨(memberReadings members, none), some rest⟩
  | [], _, _, _, _, nonempty, _, _, _ => absurd rfl nonempty
  | [(key, v)], room, depth, fuel, rest, _, fits, deep, enough => by
      simp only [membersChars, List.length_append, List.length_cons] at enough
      obtain ⟨fuel, rfl⟩ : ∃ k, fuel = k + 2 := ⟨fuel - 2, by omega⟩
      have value := readValue_chars v depth (fuel + 1) fits.1 deep (.brace rest) (by omega)
      rw [membersChars, symbols_append, symbols_cons, List.append_assoc, List.cons_append,
        readMember_key value]
      simp [readMembers_end, memberReadings]
  | (key, v) :: next :: others, room, depth, fuel, rest, _, fits, deep, enough => by
      simp only [membersChars, List.length_append, List.length_cons] at enough
      obtain ⟨fuel, rfl⟩ : ∃ k, fuel = k + 2 := ⟨fuel - 2, by omega⟩
      obtain ⟨more, quote⟩ := membersChars_quote next others (some '\x7d' :: rest)
      have value := readValue_chars v depth (fuel + 1) fits.1 deep
        (.comma (symbols (membersChars (next :: others)) ++ some '\x7d' :: rest)) (by omega)
      have members := readMember_chars (next :: others) depth fuel rest (by simp) fits.2 deep
        (by omega)
      rw [membersChars, symbols_append, symbols_append, symbols_cons, symbols_cons,
        List.append_assoc, List.append_assoc, List.cons_append, List.cons_append,
        readMember_key value]
      rw [quote] at members ⊢
      rw [readMembers_comma, members]
      rfl

end

/-! ### Whole texts -/

/-- The text of a value that is not too deep is the document of that value. -/
theorem read_render {v : Json} (fits : Fits maxDepth v) : read v.render = ⟨v.toReading, none⟩ := by
  have value := readValue_chars v 0 (3 * v.chars.length + 3) fits (by simp) .nothing (by omega)
  rw [List.append_nil] at value
  simp only [read, render, String.toList_ofList, readSymbols, List.length_map]
  rw [show v.chars.map some = symbols v.chars from rfl, value]
  rfl

/-- A value is read from its own text in bytes. -/
theorem readBytes_render {v : Json} (fits : Fits maxDepth v) :
    readBytes (Text.bytes v.render) = ⟨v.toReading, none⟩ := by
  rw [readBytes, Text.ofBytes?_bytes]
  exact read_render fits

/-! ### Values told apart by their texts -/

mutual

/-- Values are told apart by how they are read. -/
theorem toReading_inj : ∀ {v w : Json}, v.toReading = w.toReading → v = w
  | .null, w, h => by cases w <;> simp [toReading] at h ⊢
  | .bool _, w, h => by cases w <;> simp [toReading] at h ⊢; exact h
  | .number _, w, h => by cases w <;> simp [toReading] at h ⊢; exact h
  | .string _, w, h => by cases w <;> simp [toReading] at h ⊢; exact h
  | .array _, w, h => by
      cases w with
      | array items => exact congrArg Json.array (itemReadings_inj (by simpa [toReading] using h))
      | _ => simp [toReading] at h
  | .object _, w, h => by
      cases w with
      | object members =>
          exact congrArg Json.object (memberReadings_inj (by simpa [toReading] using h))
      | _ => simp [toReading] at h

theorem itemReadings_inj : ∀ {xs ys : List Json}, itemReadings xs = itemReadings ys → xs = ys
  | [], [], _ => rfl
  | x :: xs, y :: ys, h => by
      simp only [itemReadings, List.cons.injEq] at h
      rw [toReading_inj h.1, itemReadings_inj h.2]

theorem memberReadings_inj :
    ∀ {xs ys : List (String × Json)}, memberReadings xs = memberReadings ys → xs = ys
  | [], [], _ => rfl
  | (_, x) :: xs, (_, y) :: ys, h => by
      simp only [memberReadings, List.cons.injEq, Prod.mk.injEq] at h
      rw [h.1.1, toReading_inj h.1.2, memberReadings_inj h.2]

end

/-- Values that are not too deep are the same if their texts are, byte for byte. -/
theorem bytes_render_inj {v w : Json} (fits : Fits maxDepth v) (fits' : Fits maxDepth w)
    (h : Text.bytes v.render = Text.bytes w.render) : v = w := by
  have read : (⟨v.toReading, none⟩ : Document) = ⟨w.toReading, none⟩ := by
    rw [← readBytes_render fits, h, readBytes_render fits']
  exact toReading_inj (congrArg Document.root read)

end LedgerAgent.Json
