/-
Module: LedgerAgent.Proofs.Text.Base64
Purpose: Bytes read back from their base64 text.
Main exports: Text.Base64.sextets, Text.Base64.pack_sextets, Text.Base64.decode_encode
-/
import LedgerAgent.Proofs.KeySpelling
import LedgerAgent.Text.Base64

namespace LedgerAgent.Text.Base64

/-- The values that bytes become the symbols of. -/
def sextets : List UInt8 → List Nat
  | [] => []
  | [a] => [a.toNat / 4, a.toNat % 4 * 16]
  | [a, b] => [a.toNat / 4, a.toNat % 4 * 16 + b.toNat / 16, b.toNat % 16 * 4]
  | a :: b :: c :: rest =>
    a.toNat / 4 :: (a.toNat % 4 * 16 + b.toNat / 16) :: (b.toNat % 16 * 4 + c.toNat / 64) ::
      c.toNat % 64 :: sextets rest

def symbolByte (n : Nat) : UInt8 :=
  UInt8.ofNat (symbol n).toNat

theorem symbol_ascii : ∀ n < 64, (symbol n).toNat < 128 := by
  decide

/-- A symbol has the value that it stands for. -/
theorem value?_symbolByte : ∀ n < 64, value? (symbolByte n) = some n := by
  decide

theorem symbolByte_ne_padding : ∀ n < 64, symbolByte n ≠ 61 := by
  decide

theorem lt_of_mem_sextets {bs : List UInt8} : ∀ n ∈ sextets bs, n < 64 := by
  induction bs using sextets.induct with
  | case1 => simp [sextets]
  | case2 a =>
      have := a.toNat_lt
      simp only [sextets, List.mem_cons, List.not_mem_nil, or_false]
      rintro n (rfl | rfl) <;> omega
  | case3 a b =>
      have := a.toNat_lt
      have := b.toNat_lt
      simp only [sextets, List.mem_cons, List.not_mem_nil, or_false]
      rintro n (rfl | rfl | rfl) <;> omega
  | case4 a b c rest inductionHypothesis =>
      have := a.toNat_lt
      have := b.toNat_lt
      have := c.toNat_lt
      simp only [sextets, List.mem_cons]
      rintro n (rfl | rfl | rfl | rfl | later)
      · omega
      · omega
      · omega
      · omega
      · exact inductionHypothesis n later

/-- Bytes are put together again from the values that they were cut into. -/
theorem pack_sextets (bs : List UInt8) : pack (sextets bs) = bs := by
  have byte : ∀ (b : UInt8) (n : Nat), n = b.toNat → UInt8.ofNat n = b := by
    rintro b n rfl
    exact UInt8.ofNat_toNat
  induction bs using sextets.induct with
  | case1 => rfl
  | case2 a =>
      have := a.toNat_lt
      rw [sextets, pack, byte a _ (by omega)]
  | case3 a b =>
      have := a.toNat_lt
      have := b.toNat_lt
      rw [sextets, pack, byte a _ (by omega), byte b _ (by omega)]
  | case4 a b c rest inductionHypothesis =>
      have := a.toNat_lt
      have := b.toNat_lt
      have := c.toNat_lt
      rw [sextets, pack, inductionHypothesis, byte a _ (by omega), byte b _ (by omega),
        byte c _ (by omega)]

/-- The four values of three bytes that are taken as one number. -/
theorem sextets_of_number (a : Nat) {b c : Nat} (hb : b < 256) (hc : c < 256) :
    let n := a * 65536 + b * 256 + c
    n / 262144 = a / 4 ∧ n / 4096 % 64 = a % 4 * 16 + b / 16 ∧
      n / 64 % 64 = b % 16 * 4 + c / 64 ∧ n % 64 = c % 64 := by
  refine ⟨?_, ?_, ?_, ?_⟩ <;> omega

/-! ### Whole groups -/

/-- Bytes in whole groups of three are encoded without padding. -/
theorem encodeChars_of_whole {bs : List UInt8} (whole : bs.length % 3 = 0) :
    encodeChars bs = (sextets bs).map symbol := by
  induction bs using sextets.induct with
  | case1 => rfl
  | case2 a => cases whole
  | case3 a b => cases whole
  | case4 a b c rest inductionHypothesis =>
      simp only [List.length_cons] at whole
      obtain ⟨first, second, third, fourth⟩ :=
        sextets_of_number a.toNat b.toNat_lt c.toNat_lt
      simp only [encodeChars, sextets, List.map_cons, inductionHypothesis (by omega), first,
        second, third, fourth]

/-- Groups of three bytes become groups of four values. -/
theorem length_sextets_of_whole {bs : List UInt8} (whole : bs.length % 3 = 0) :
    (sextets bs).length % 4 = 0 := by
  induction bs using sextets.induct with
  | case1 => rfl
  | case2 a => cases whole
  | case3 a b => cases whole
  | case4 a b c rest inductionHypothesis =>
      simp only [List.length_cons] at whole
      have := inductionHypothesis (by omega)
      simp only [sextets, List.length_cons]
      omega

/-- Bytes behind whole groups are encoded by themselves. -/
theorem encodeChars_append {front : List UInt8} (whole : front.length % 3 = 0)
    (last : List UInt8) : encodeChars (front ++ last) = encodeChars front ++ encodeChars last := by
  induction front using sextets.induct with
  | case1 => rfl
  | case2 a => cases whole
  | case3 a b => cases whole
  | case4 a b c rest inductionHypothesis =>
      simp only [List.length_cons] at whole
      simp [encodeChars, inductionHypothesis (by omega)]

/-- The values of symbols are read again, wherever they are counted from. -/
theorem values_symbols {ns : List Nat} (small : ∀ n ∈ ns, n < 64) (offset : Nat) :
    values offset (ns.map symbolByte) = .ok ns := by
  induction ns generalizing offset with
  | nil => rfl
  | cons n ns inductionHypothesis =>
      rw [List.forall_mem_cons] at small
      rw [List.map_cons, values, value?_symbolByte n small.1]
      simp [inductionHypothesis small.2, Except.map]

/-! ### The last group -/

/-- A last group goes on as long as symbols follow. -/
theorem lastGroup_symbols {ns : List Nat} (small : ∀ n ∈ ns, n < 64) (start index : Nat)
    (found : List Nat) (rest : List UInt8) :
    lastGroup start index found 0 (ns.map symbolByte ++ rest) =
      lastGroup start (index + ns.length) (found ++ ns) 0 rest := by
  induction ns generalizing index found with
  | nil => simp
  | cons n ns inductionHypothesis =>
      rw [List.forall_mem_cons] at small
      rw [List.map_cons, List.cons_append, lastGroup, if_neg (symbolByte_ne_padding n small.1),
        if_neg (by omega), value?_symbolByte n small.1]
      simp [inductionHypothesis small.2, Nat.add_assoc, Nat.add_comm 1]

/-- One to three bytes, in symbols and filled up to four of them. -/
def lastBytes (bs : List UInt8) : List UInt8 :=
  (sextets bs).map symbolByte ++ List.replicate (3 - bs.length) 61

/-- The last bytes are read from their symbols and padding. -/
theorem lastGroup_lastBytes {bs : List UInt8} (some : 1 ≤ bs.length) (few : bs.length ≤ 3)
    (start : Nat) :
    lastGroup start 0 [] 0 (lastBytes bs) = .ok (sextets bs, 3 - bs.length) := by
  rw [lastBytes, lastGroup_symbols lt_of_mem_sextets]
  match bs, some, few with
  | [a], _, _ => rfl
  | [a, b], _, _ => rfl
  | [a, b, c], _, _ => rfl

theorem length_sextets {bs : List UInt8} (some : 1 ≤ bs.length) (few : bs.length ≤ 3) :
    (sextets bs).length = bs.length + 1 := by
  match bs, some, few with
  | [a], _, _ => rfl
  | [a, b], _, _ => rfl
  | [a, b, c], _, _ => rfl

/-- No bits are left over of whole bytes. -/
theorem leftover_sextets {bs : List UInt8} (few : bs.length ≤ 3) : leftover (sextets bs) = 0 := by
  match bs, few with
  | [], _ => rfl
  | [a], _ =>
      simp only [sextets, leftover]
      omega
  | [a, b], _ =>
      simp only [sextets, leftover]
      omega
  | [a, b, c], _ => rfl

/-- The last bytes are written as their symbols, padded to four. -/
theorem encodeChars_last {bs : List UInt8} (some : 1 ≤ bs.length) (few : bs.length ≤ 3) :
    encodeChars bs = (sextets bs).map symbol ++ List.replicate (3 - bs.length) '=' := by
  match bs, some, few with
  | [a], _, _ =>
      obtain ⟨first, second, -, -⟩ := sextets_of_number a.toNat
        (by decide : 0 < 256) (by decide : 0 < 256)
      simp only [Nat.zero_mul, Nat.zero_div, Nat.add_zero] at first second
      simp [encodeChars, sextets, first, second]
  | [a, b], _, _ =>
      obtain ⟨first, second, third, -⟩ := sextets_of_number a.toNat b.toNat_lt
        (by decide : 0 < 256)
      simp only [Nat.zero_div, Nat.add_zero] at first second third
      simp [encodeChars, sextets, first, second, third]
  | [a, b, c], _, _ =>
      rw [encodeChars_of_whole (by simp)]
      simp

/-! ### All bytes -/

/-- The bytes of a text of ASCII symbols and padding. -/
theorem map_symbols (ns : List Nat) :
    (ns.map symbol).map (fun c => UInt8.ofNat c.toNat) = ns.map symbolByte := by
  simp [symbolByte, Function.comp_def]

/-- Bytes behind whole groups are read from their text as they were. -/
theorem decode_append {front last : List UInt8} (whole : front.length % 3 = 0)
    (some : 1 ≤ last.length) (few : last.length ≤ 3) :
    decode ((sextets front).map symbolByte ++ lastBytes last) = .ok (front ++ last) := by
  have count := length_sextets some few
  have groups := length_sextets_of_whole whole
  have four : (lastBytes last).length = 4 := by
    rw [lastBytes, List.length_append, List.length_map, count, List.length_replicate]
    omega
  have length : ((sextets front).map symbolByte ++ lastBytes last).length =
      (sextets front).length + 4 := by
    rw [List.length_append, List.length_map, four]
  have full : ((sextets front).length + 4) % 4 = 0 := by omega
  have start : (sextets front).length + 4 - 4 = ((sextets front).map symbolByte).length := by
    rw [List.length_map, Nat.add_sub_cancel]
  have filled : (3 - last.length + (sextets last).length) % 4 = 0 := by omega
  have nonempty : (sextets front).map symbolByte ++ lastBytes last ≠ [] :=
    List.ne_nil_of_length_pos (by omega)
  simp only [decode, length, full, if_true, start, List.take_left', List.drop_left',
    values_symbols lt_of_mem_sextets, lastGroup_lastBytes some few]
  rw [if_neg (fun single => absurd single.1 (by decide))]
  change (if _ then _ else _) = _
  rw [if_neg nonempty, if_neg (show ¬ (sextets last).length < 2 by omega),
    if_neg (fun odd => odd filled), if_neg (fun odd => odd (leftover_sextets few)), pack_sextets,
    pack_sextets]
  rfl

/-- Bytes read back from their base64 text. -/
theorem decode_encode (bs : List UInt8) : decode (Text.bytes (encode bs)) = .ok bs := by
  by_cases nonempty : bs = []
  · rw [nonempty]
    rfl
  · -- the last group has one to three bytes, whole groups stand before it
    have length := List.length_pos_iff.2 nonempty
    have split := List.take_append_drop ((bs.length - 1) / 3 * 3) bs
    generalize front_eq : bs.take ((bs.length - 1) / 3 * 3) = front at split
    generalize last_eq : bs.drop ((bs.length - 1) / 3 * 3) = last at split
    have whole : front.length % 3 = 0 := by
      rw [← front_eq, List.length_take]
      omega
    have some : 1 ≤ last.length := by
      rw [← last_eq, List.length_drop]
      omega
    have few : last.length ≤ 3 := by
      rw [← last_eq, List.length_drop]
      omega
    rw [← split]
    have chars : encodeChars (front ++ last) = (sextets front).map symbol ++
        ((sextets last).map symbol ++ List.replicate (3 - last.length) '=') := by
      rw [encodeChars_append whole, encodeChars_of_whole whole, encodeChars_last some few]
    have ascii : ∀ c ∈ encodeChars (front ++ last), c.toNat < 128 := by
      rw [chars]
      intro c member
      simp only [List.mem_append, List.mem_map, List.mem_replicate] at member
      obtain ⟨n, among, rfl⟩ | ⟨n, among, rfl⟩ | ⟨-, rfl⟩ := member
      · exact symbol_ascii n (lt_of_mem_sextets n among)
      · exact symbol_ascii n (lt_of_mem_sextets n among)
      · decide
    rw [encode, bytes_ofList_of_ascii ascii, chars, List.map_append, List.map_append,
      map_symbols, map_symbols, List.map_replicate]
    exact decode_append whole some few

end LedgerAgent.Text.Base64
