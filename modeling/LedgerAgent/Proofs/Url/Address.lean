/-
Module: LedgerAgent.Proofs.Url.Address
Purpose: Addresses read back from the way they are written, and what holds of every address
  that was read.
Main exports: Url.radixValue?_toDigits, Url.parseIpv4_chars, Url.parseIpv6_ipv6Chars,
  Url.lt_of_parseIpv4, Url.proper_of_parseIpv6
-/
import Mathlib.Data.List.TakeWhile
import LedgerAgent.Proofs.Identifier
import LedgerAgent.Proofs.Url.Domain
import LedgerAgent.Url.Host

namespace LedgerAgent.Url

open Text (fields cutAtText)

/-! ### Numbers in a radix -/

theorem radixDigit?_digitChar {radix d : Nat} (least : radix ≤ 16) (digit : d < radix) :
    radixDigit? radix d.digitChar = some d := by
  have all : ∀ n < 16, hexDigit? n.digitChar = some n := by decide
  rw [radixDigit?, all d (by omega)]
  exact if_pos digit

theorem lt_of_radixDigit? {radix d : Nat} {c : Char} (read : radixDigit? radix c = some d) :
    d < radix := by
  rw [radixDigit?] at read
  split at read
  · split at read
    · next below =>
      cases read
      exact below
    · cases read
  · cases read

/-- One more digit behind those of a value. -/
def radixStep (radix : Nat) (value : Option Nat) (c : Char) : Option Nat :=
  match value, radixDigit? radix c with
  | some n, some d => some (n * radix + d)
  | _, _ => none

theorem radixValue?_eq (radix : Nat) (ds : List Char) :
    radixValue? radix ds = ds.foldl (radixStep radix) (some 0) :=
  rfl

theorem radixStep_digitChar {radix d : Nat} (least : radix ≤ 16) (digit : d < radix) (n : Nat) :
    radixStep radix (some n) d.digitChar = some (n * radix + d) := by
  simp only [radixStep, radixDigit?_digitChar least digit]

/-- A written number is read back. -/
theorem radixValue?_toDigits {radix : Nat} (many : 1 < radix) (least : radix ≤ 16) (n : Nat) :
    radixValue? radix (Nat.toDigits radix n) = some n := by
  rw [radixValue?_eq]
  induction n using Nat.strongRecOn with
  | ind n inductionHypothesis =>
      by_cases small : n < radix
      · rw [Nat.toDigits_of_lt_base small, List.foldl_cons, List.foldl_nil,
          radixStep_digitChar least small, Nat.zero_mul, Nat.zero_add]
      · have fewer : n / radix < n := Nat.div_lt_self (by omega) many
        rw [Nat.toDigits_of_base_le many (by omega), List.foldl_append,
          inductionHypothesis (n / radix) fewer, List.foldl_cons, List.foldl_nil,
          radixStep_digitChar least (Nat.mod_lt n (by omega)), Nat.div_add_mod']

theorem foldl_radixStep_none (radix : Nat) (ds : List Char) :
    ds.foldl (radixStep radix) none = none := by
  induction ds with
  | nil => rfl
  | cons c rest inductionHypothesis => exact inductionHypothesis

/-- Digits spell less than the radix to the power of their number. -/
theorem lt_of_foldl_radixStep {radix value n : Nat} {ds : List Char}
    (read : ds.foldl (radixStep radix) (some value) = some n) :
    n < (value + 1) * radix ^ ds.length := by
  induction ds generalizing value with
  | nil =>
      cases read
      simp
  | cons c rest inductionHypothesis =>
      cases digit : radixDigit? radix c with
      | none =>
          simp only [List.foldl_cons, radixStep, digit, foldl_radixStep_none] at read
          cases read
      | some d =>
          simp only [List.foldl_cons, radixStep, digit] at read
          have below := lt_of_radixDigit? digit
          have more := inductionHypothesis read
          calc n < (value * radix + d + 1) * radix ^ rest.length := more
            _ ≤ ((value + 1) * radix) * radix ^ rest.length := by
                apply Nat.mul_le_mul_right
                rw [Nat.succ_mul]
                omega
            _ = (value + 1) * radix ^ (c :: rest).length := by
                rw [List.length_cons, Nat.pow_succ, Nat.mul_assoc, Nat.mul_comm radix]

/-- So many digits make no more than so many digits can. -/
theorem lt_of_radixValue? {radix n : Nat} {ds : List Char}
    (read : radixValue? radix ds = some n) : n < radix ^ ds.length := by
  have bound := lt_of_foldl_radixStep (radixValue?_eq radix ds ▸ read)
  simpa using bound

/-! ### Parts between separators -/

theorem fields_intercalate {sep : Char} {parts : List (List Char)} (some_of_it : parts ≠ [])
    (bare : ∀ part ∈ parts, sep ∉ part) : fields sep ([sep].intercalate parts) = parts := by
  induction parts with
  | nil => exact absurd rfl some_of_it
  | cons part rest inductionHypothesis =>
      rw [List.forall_mem_cons] at bare
      cases rest with
      | nil =>
          rw [List.intercalate_singleton]
          exact Text.fields_of_not_mem bare.1
      | cons next rest =>
          rw [List.intercalate_cons_cons, List.append_assoc, List.singleton_append,
            Text.fields_append _ bare.1, inductionHypothesis (List.cons_ne_nil _ _) bare.2]

/-! ### IPv4 -/

/-- The four numbers of an address. -/
def quads (n : Nat) : List Nat :=
  [n / 16777216, n / 65536 % 256, n / 256 % 256, n % 256]

/-- A piece of an address is read from its decimal digits. -/
theorem ipv4Number?_digits (n : Nat) : ipv4Number? (Nat.toDigits 10 n) = some n := by
  have value := radixValue?_toDigits (by decide) (show 10 ≤ 16 by decide) n
  obtain ⟨d, rest, spelled, -, zero⟩ := Text.Numeral.head_digits n
  rw [Text.Numeral.digits] at spelled
  rw [spelled] at value ⊢
  by_cases first : d = '0'
  · rw [zero first, first] at value ⊢
    exact value
  · rw [← value]
    unfold ipv4Number?
    split <;> simp_all

theorem point_not_mem_digits (n : Nat) : '.' ∉ Nat.toDigits 10 n :=
  Text.Numeral.not_mem_digits (by decide) n

/-- The pieces of an address are what stands between its points. -/
theorem fields_quads (n : Nat) :
    fields '.' (Host.ipv4 n).chars = (quads n).map (Nat.toDigits 10) := by
  have bare : ∀ part ∈ (quads n).map (Nat.toDigits 10), '.' ∉ part := by
    intro part member
    obtain ⟨quad, -, rfl⟩ := List.mem_map.1 member
    exact point_not_mem_digits quad
  exact fields_intercalate (List.cons_ne_nil _ _) bare

theorem nameParts_quads (n : Nat) :
    nameParts (Host.ipv4 n).chars = (quads n).map (Nat.toDigits 10) := by
  simp [nameParts, fields_quads, quads]

theorem endsInNumber_quads (n : Nat) : endsInNumber (Host.ipv4 n).chars = true := by
  have last : (nameParts (Host.ipv4 n).chars).getLast? = some (Nat.toDigits 10 (n % 256)) := by
    rw [nameParts_quads]
    rfl
  rw [endsInNumber, last]
  simp [ipv4Number?_digits]

theorem mapM_quads (n : Nat) :
    ((quads n).map (Nat.toDigits 10)).mapM ipv4Number? = some (quads n) := by
  simp [quads, ipv4Number?_digits]

/-- A number put before the others of an address, by its place. -/
def placed (part : Nat × Nat) (sum : Nat) : Nat :=
  part.1 * Nat.pow 256 (3 - part.2) + sum

/-- The address that numbers make: the last fills what the others leave. -/
def weigh (numbers : List Nat) : Nat :=
  numbers.dropLast.zipIdx.foldr placed (numbers.getLast?.getD 0)

/-- An address is weighed together of its four pieces. -/
theorem weigh_quads (n : Nat) : weigh (quads n) = n := by
  have parts : (quads n).dropLast.zipIdx =
      [(n / 16777216, 0), (n / 65536 % 256, 1), (n / 256 % 256, 2)] := rfl
  have last : (quads n).getLast?.getD 0 = n % 256 := rfl
  have first (a sum : Nat) : placed (a, 0) sum = a * 16777216 + sum := rfl
  have second (a sum : Nat) : placed (a, 1) sum = a * 65536 + sum := rfl
  have third (a sum : Nat) : placed (a, 2) sum = a * 256 + sum := rfl
  rw [weigh, parts, last, List.foldr_cons, List.foldr_cons, List.foldr_cons, List.foldr_nil,
    first, second, third]
  omega

/-- Numbers in their places make less than there is room for. -/
theorem foldr_placed_lt {others : List Nat} {place last : Nat}
    (small : ∀ number ∈ others, number ≤ 255)
    (filling : last < Nat.pow 256 (4 - (place + others.length)))
    (few : place + others.length ≤ 3) :
    (others.zipIdx place).foldr placed last < Nat.pow 256 (4 - place) := by
  induction others generalizing place with
  | nil => exact filling
  | cons number others inductionHypothesis =>
      rw [List.forall_mem_cons] at small
      rw [List.length_cons, Nat.add_comm others.length, ← Nat.add_assoc] at filling few
      have behind := inductionHypothesis small.2 filling few
      have unit : Nat.pow 256 (4 - place) = 256 * Nat.pow 256 (3 - place) := by
        rw [show 4 - place = (3 - place) + 1 by omega, Nat.mul_comm]
        rfl
      rw [show 4 - (place + 1) = 3 - place by omega] at behind
      rw [List.zipIdx_cons, List.foldr_cons, placed, unit]
      have weighed := Nat.mul_le_mul_right (Nat.pow 256 (3 - place)) small.1
      dsimp only
      omega

/-- A name is read as an address if its parts are at most four numbers of the right sizes. -/
theorem parseIpv4_eq_ok {name : List Char} {n : Nat} :
    parseIpv4 name = .ok n ↔
      ∃ numbers, (nameParts name).mapM ipv4Number? = some numbers ∧ numbers.length ≤ 4 ∧
        numbers.getLast?.getD 0 < Nat.pow 256 (4 - numbers.dropLast.length) ∧
        (∀ number ∈ numbers.dropLast, number ≤ 255) ∧ weigh numbers = n := by
  rw [parseIpv4]
  dsimp only
  cases found : (nameParts name).mapM ipv4Number? with
  | none => simp
  | some numbers =>
      have length := (forall₂_of_mapM found).length_eq
      have sized : numbers.dropLast.any (255 < ·) = true ↔
          ¬ ∀ number ∈ numbers.dropLast, number ≤ 255 := by
        simp
      dsimp only
      constructor
      · intro read
        split at read
        · cases read
        · split at read
          · cases read
          · next fitting =>
            rw [sized, not_or, not_not, Nat.not_le] at fitting
            exact ⟨numbers, rfl, by omega, fitting.1, fitting.2, Except.ok.inj read⟩
      · rintro ⟨_, ⟨⟩, few, last, others, rfl⟩
        have fitting := not_or.2 ⟨Nat.not_le.2 last, mt sized.1 (not_not.2 others)⟩
        rw [if_neg (by omega), if_neg fitting]
        rfl

/-- An address with four numbers is read back. -/
theorem parseIpv4_chars {n : Nat} (below : n < 2 ^ 32) :
    parseIpv4 (Host.ipv4 n).chars = .ok n := by
  rw [parseIpv4_eq_ok, nameParts_quads]
  refine ⟨quads n, mapM_quads n, Nat.le_refl 4, Nat.mod_lt n (by decide), ?_, weigh_quads n⟩
  intro number member
  have among : number ∈ [n / 16777216, n / 65536 % 256, n / 256 % 256] := member
  simp only [List.mem_cons, List.not_mem_nil, or_false] at among
  omega

/-- An address that was read has 32 bits. -/
theorem lt_of_parseIpv4 {name : List Char} {n : Nat} (read : parseIpv4 name = .ok n) :
    n < 2 ^ 32 := by
  obtain ⟨numbers, -, few, last, others, rfl⟩ := parseIpv4_eq_ok.1 read
  rw [weigh]
  apply foldr_placed_lt others
  · rw [Nat.zero_add]
    exact last
  · rw [List.length_dropLast]
    omega

/-! ### IPv6 -/

/-- The pieces of an address, or of one side of it, between colons. -/
def colonized (ns : List Nat) : List Char :=
  [':'].intercalate (ns.map (Nat.toDigits 16))

theorem mem_hex {n : Nat} {c : Char} (member : c ∈ Nat.toDigits 16 n) :
    c ∈ "0123456789abcdef".toList := by
  induction n using Nat.strongRecOn with
  | ind n inductionHypothesis =>
      have digit : ∀ d < 16, d.digitChar ∈ "0123456789abcdef".toList := by decide
      by_cases small : n < 16
      · rw [Nat.toDigits_of_lt_base small, List.mem_singleton] at member
        rw [member]
        exact digit n small
      · rw [Nat.toDigits_of_base_le (by decide) (by omega), List.mem_append,
          List.mem_singleton] at member
        rcases member with before | last
        · exact inductionHypothesis (n / 16) (by omega) before
        · rw [last]
          exact digit (n % 16) (by omega)

theorem not_mem_hex {c : Char} (other : c ∉ "0123456789abcdef".toList) (n : Nat) :
    c ∉ Nat.toDigits 16 n :=
  fun member => other (mem_hex member)

theorem mem_colonized {ns : List Nat} {c : Char} (member : c ∈ colonized ns) :
    c ∈ ":0123456789abcdef".toList := by
  rcases mem_of_mem_intercalate member with rfl | ⟨part, inside, here⟩
  · decide
  · obtain ⟨n, -, rfl⟩ := List.mem_map.1 inside
    exact List.mem_cons_of_mem ':' (mem_hex here)

/-- The pieces of an address are what stands between its colons. -/
theorem fields_colonized {ns : List Nat} (some_of_it : ns ≠ []) :
    fields ':' (colonized ns) = ns.map (Nat.toDigits 16) := by
  have bare : ∀ part ∈ ns.map (Nat.toDigits 16), ':' ∉ part := by
    intro part member
    obtain ⟨n, -, rfl⟩ := List.mem_map.1 member
    exact not_mem_hex (by decide) n
  exact fields_intercalate (by simpa using some_of_it) bare

theorem ipv6Piece?_toDigits {n : Nat} (below : n < 65536) :
    ipv6Piece? (Nat.toDigits 16 n) = some n := by
  have short : (Nat.toDigits 16 n).length ≤ 4 :=
    (Nat.length_toDigits_le_iff (by decide) (by decide)).2 below
  rw [ipv6Piece?, if_neg, radixValue?_toDigits (by decide) (by decide)]
  simpa using short

theorem ipv6Pieces?_map {ns : List Nat} (below : ∀ n ∈ ns, n < 65536) :
    ipv6Pieces? (ns.map (Nat.toDigits 16)) = some ns := by
  induction ns with
  | nil => rfl
  | cons n rest inductionHypothesis =>
      rw [List.forall_mem_cons] at below
      have piece := ipv6Piece?_toDigits below.1
      cases rest with
      | nil =>
          have unpointed : '.' ∉ Nat.toDigits 16 n := not_mem_hex (by decide) n
          simp [ipv6Pieces?, unpointed, piece]
      | cons next rest =>
          have others := inductionHypothesis below.2
          rw [List.map_cons] at others
          simp [ipv6Pieces?, piece, others]

theorem colonized_cons_cons (n next : Nat) (rest : List Nat) :
    colonized (n :: next :: rest) = Nat.toDigits 16 n ++ ':' :: colonized (next :: rest) := by
  rw [colonized, List.map_cons, List.map_cons, List.intercalate_cons_cons, List.append_assoc]
  rfl

/-- Pieces begin with a digit. -/
theorem head_colonized (n : Nat) (rest : List Nat) :
    ∃ d ds, colonized (n :: rest) = d :: ds ∧ d ≠ ':' := by
  obtain ⟨d, ds, spelled⟩ := List.exists_cons_of_ne_nil (Nat.toDigits_ne_nil (n := n) (b := 16))
  have digit : d ≠ ':' := by
    rintro rfl
    exact not_mem_hex (by decide) n (spelled ▸ List.mem_cons_self)
  cases rest with
  | nil => exact ⟨d, ds, by rw [colonized, List.map_cons, List.map_nil,
      List.intercalate_singleton, spelled], digit⟩
  | cons next rest => exact ⟨d, _, by rw [colonized_cons_cons, spelled, List.cons_append], digit⟩

theorem ipv6Side?_colonized {ns : List Nat} (below : ∀ n ∈ ns, n < 65536) :
    ipv6Side? (colonized ns) = some ns := by
  cases ns with
  | nil => rfl
  | cons n rest =>
      obtain ⟨d, ds, spelled, -⟩ := head_colonized n rest
      rw [ipv6Side?, if_neg (by simp [spelled]), fields_colonized (List.cons_ne_nil _ _),
        ipv6Pieces?_map below]

/-- The colons that stand for zeros are found behind a piece. -/
theorem cutAtText_append {part : List Char} (bare : ':' ∉ part) (tail : List Char) :
    cutAtText [':', ':'] (part ++ tail) =
      (cutAtText [':', ':'] tail).map fun cut => (part ++ cut.1, cut.2) := by
  induction part with
  | nil => exact Option.map_id'.symm
  | cons c part inductionHypothesis =>
      rw [List.mem_cons, not_or] at bare
      rw [List.cons_append, cutAtText]
      simp only [Text.dropLead, if_neg bare.1, inductionHypothesis bare.2, Option.map_map]
      rfl

theorem cutAtText_colon {d : Char} (digit : d ≠ ':') (tail : List Char) :
    cutAtText [':', ':'] (':' :: d :: tail) =
      (cutAtText [':', ':'] (d :: tail)).map fun cut => (':' :: cut.1, cut.2) := by
  rw [cutAtText]
  simp only [Text.dropLead, if_neg digit.symm]
  rfl

/-- The first two colons side by side are not among the pieces. -/
theorem cutAtText_colonized (ns : List Nat) (tail : List Char) :
    cutAtText [':', ':'] (colonized ns ++ tail) =
      (cutAtText [':', ':'] tail).map fun cut => (colonized ns ++ cut.1, cut.2) := by
  induction ns with
  | nil => exact Option.map_id'.symm
  | cons n rest inductionHypothesis =>
      have bare : ':' ∉ Nat.toDigits 16 n := not_mem_hex (by decide) n
      cases rest with
      | nil =>
          rw [colonized, List.map_cons, List.map_nil, List.intercalate_singleton]
          exact cutAtText_append bare tail
      | cons next rest =>
          obtain ⟨d, ds, spelled, digit⟩ := head_colonized next rest
          rw [colonized_cons_cons, List.append_assoc, cutAtText_append bare, List.cons_append]
          rw [spelled, List.cons_append] at inductionHypothesis ⊢
          rw [cutAtText_colon digit, inductionHypothesis, Option.map_map, Option.map_map]
          congr 1
          funext cut
          simp

/-- An address is written with its longest run of zeros left out. -/
theorem ipv6Chars_eq (ns : List Nat) :
    ipv6Chars ns =
      match longestZeroRun ns with
      | none => colonized ns
      | some (start, length) =>
        colonized (ns.take start) ++ ':' :: ':' :: colonized (ns.drop (start + length)) :=
  rfl

/-! #### The zeros that are left out -/

theorem eq_zeroRun_append (ns : List Nat) :
    ∃ rest, ns = List.replicate (zeroRun ns) 0 ++ rest := by
  have zeros : ns.takeWhile (· = 0) = List.replicate (zeroRun ns) 0 := by
    rw [List.eq_replicate_iff]
    exact ⟨rfl, fun n member => by simpa using List.mem_takeWhile_imp member⟩
  refine ⟨ns.dropWhile (· = 0), ?_⟩
  rw [← zeros]
  exact List.takeWhile_append_dropWhile.symm

/-- The longest of several runs is one of them. -/
theorem foldl_longer_mem (runs : List (Nat × Nat)) (best : Nat × Nat) :
    runs.foldl (fun b r => if b.2 < r.2 then r else b) best ∈ best :: runs := by
  induction runs generalizing best with
  | nil => exact List.mem_singleton_self best
  | cons run rest inductionHypothesis =>
      rw [List.foldl_cons]
      have among := inductionHypothesis (if best.2 < run.2 then run else best)
      rcases List.mem_cons.1 among with same | later
      · rw [same]
        split
        · exact List.mem_cons_of_mem best List.mem_cons_self
        · exact List.mem_cons_self
      · exact List.mem_cons_of_mem best (List.mem_cons_of_mem run later)

/-- What is left out is at least two zeros. -/
theorem longestZeroRun_spec {ns : List Nat} {start length : Nat}
    (found : longestZeroRun ns = some (start, length)) :
    2 ≤ length ∧ ∃ rest, ns.drop start = List.replicate length 0 ++ rest := by
  rw [longestZeroRun] at found
  split at found
  · cases found
  · next long =>
    have among := foldl_longer_mem
      ((List.range ns.length).map fun i => (i, zeroRun (ns.drop i))) (0, 0)
    rw [Option.some.inj found] at among long
    refine ⟨Nat.le_of_not_lt long, ?_⟩
    rcases List.mem_cons.1 among with none | one
    · cases none
      exact absurd (by decide) long
    · obtain ⟨i, -, same⟩ := List.mem_map.1 one
      cases same
      exact eq_zeroRun_append (ns.drop start)

/-- An address is put together from its pieces before and behind the zeros left out. -/
theorem eq_of_zeros {ns : List Nat} {start length : Nat} {rest : List Nat}
    (zeros : ns.drop start = List.replicate length 0 ++ rest) :
    ns = ns.take start ++ (List.replicate length 0 ++ ns.drop (start + length)) := by
  have behind : ns.drop (start + length) = rest := by
    rw [← List.drop_drop, zeros, List.drop_left' (List.length_replicate ..)]
  rw [behind, ← zeros, List.take_append_drop]

/-- An address with pieces is read back. -/
theorem parseIpv6_ipv6Chars {ns : List Nat} (eight : ns.length = 8)
    (below : ∀ n ∈ ns, n < 65536) : parseIpv6 (ipv6Chars ns) = .ok ns := by
  rw [parseIpv6, ipv6Chars_eq]
  cases found : longestZeroRun ns with
  | none =>
      have uncut : cutAtText [':', ':'] (colonized ns) = none := by
        have cut := cutAtText_colonized ns []
        rw [List.append_nil] at cut
        exact cut
      have some_of_it : ns ≠ [] := by
        rintro rfl
        cases eight
      simp only [uncut, fields_colonized some_of_it, ipv6Pieces?_map below, Option.bind_some,
        if_pos eight]
  | some run =>
      obtain ⟨start, length⟩ := run
      obtain ⟨long, rest, zeros⟩ := longestZeroRun_spec found
      have whole := eq_of_zeros zeros
      have cut : cutAtText [':', ':'] (colonized (ns.take start) ++
          ':' :: ':' :: colonized (ns.drop (start + length))) =
          some (colonized (ns.take start), colonized (ns.drop (start + length))) := by
        rw [cutAtText_colonized]
        simp [cutAtText, Text.dropLead]
      have left : ipv6Side? (colonized (ns.take start)) = some (ns.take start) :=
        ipv6Side?_colonized fun n member => below n (List.mem_of_mem_take member)
      have right : ipv6Side? (colonized (ns.drop (start + length))) =
          some (ns.drop (start + length)) :=
        ipv6Side?_colonized fun n member => below n (List.mem_of_mem_drop member)
      have unpointed : (colonized (ns.take start)).contains '.' = false := by
        rw [List.contains_eq_mem, decide_eq_false_iff_not]
        intro member
        exact absurd (mem_colonized member) (by decide)
      have total := congrArg List.length whole
      rw [List.length_append, List.length_append, List.length_replicate, eight] at total
      have filled : 8 - (ns.take start).length - (ns.drop (start + length)).length = length := by
        omega
      simp only [cut, unpointed, left, right, Bool.false_eq_true, if_false, Option.bind_eq_bind,
        Option.bind_some]
      rw [if_neg (by omega), filled, List.append_assoc, ← whole]
      rfl

theorem lt_of_ipv6Piece? {ds : List Char} {n : Nat} (read : ipv6Piece? ds = some n) :
    n < 65536 := by
  rw [ipv6Piece?] at read
  split at read
  · cases read
  · next short =>
    have few : ds.length ≤ 4 := by
      simp only [Bool.or_eq_true, not_or, decide_eq_true_eq, Nat.not_lt] at short
      exact short.2
    calc n < 16 ^ ds.length := lt_of_radixValue? read
      _ ≤ 16 ^ 4 := Nat.pow_le_pow_right (by decide) few

theorem lt_of_embeddedIpv4? {cs : List Char} {high low : Nat}
    (read : embeddedIpv4? cs = some (high, low)) : high < 65536 ∧ low < 65536 := by
  have byte {refused : Prop} [Decidable refused] {value? : Option Nat} {n : Nat}
      (read : (if refused then none else value?.bind fun n => if n < 256 then some n else none) =
        some n) : n < 256 := by
    split at read
    · cases read
    · obtain ⟨m, -, read⟩ := Option.bind_eq_some_iff.1 read
      split at read
      · next below =>
        cases read
        exact below
      · cases read
  rw [embeddedIpv4?] at read
  split at read
  · obtain ⟨a, first, read⟩ := Option.bind_eq_some_iff.1 read
    obtain ⟨b, second, read⟩ := Option.bind_eq_some_iff.1 read
    obtain ⟨c, third, read⟩ := Option.bind_eq_some_iff.1 read
    obtain ⟨d, fourth, read⟩ := Option.bind_eq_some_iff.1 read
    cases read
    have := byte first
    have := byte second
    have := byte third
    have := byte fourth
    omega
  · cases read

theorem lt_of_ipv6Pieces? {parts : List (List Char)} {ns : List Nat}
    (read : ipv6Pieces? parts = some ns) : ∀ n ∈ ns, n < 65536 := by
  induction parts generalizing ns with
  | nil =>
      cases read
      intro n member
      cases member
  | cons part rest inductionHypothesis =>
      cases rest with
      | nil =>
          rw [ipv6Pieces?] at read
          split at read
          · obtain ⟨⟨high, low⟩, embedded, rfl⟩ := Option.map_eq_some_iff.1 read
            simpa using lt_of_embeddedIpv4? embedded
          · obtain ⟨n, piece, rfl⟩ := Option.map_eq_some_iff.1 read
            simpa using lt_of_ipv6Piece? piece
      | cons next rest =>
          obtain ⟨n, piece, read⟩ := Option.bind_eq_some_iff.1 read
          obtain ⟨others, behind, read⟩ := Option.bind_eq_some_iff.1 read
          cases read
          rw [List.forall_mem_cons]
          exact ⟨lt_of_ipv6Piece? piece, inductionHypothesis behind⟩

theorem lt_of_ipv6Side? {cs : List Char} {ns : List Nat} (read : ipv6Side? cs = some ns) :
    ∀ n ∈ ns, n < 65536 := by
  rw [ipv6Side?] at read
  split at read
  · cases read
    intro n member
    cases member
  · exact lt_of_ipv6Pieces? read

/-- An address that was read has eight pieces of sixteen bits. -/
theorem proper_of_parseIpv6 {cs : List Char} {ns : List Nat} (read : parseIpv6 cs = .ok ns) :
    ns.length = 8 ∧ ∀ n ∈ ns, n < 65536 := by
  rw [parseIpv6] at read
  split at read
  · next found =>
    cases read
    split at found
    · obtain ⟨pieces, whole, found⟩ := Option.bind_eq_some_iff.1 found
      split at found
      · next eight =>
        cases found
        exact ⟨eight, lt_of_ipv6Pieces? whole⟩
      · cases found
    · next left right cut =>
      split at found
      · cases found
      · obtain ⟨before, leftRead, found⟩ := Option.bind_eq_some_iff.1 found
        obtain ⟨behind, rightRead, found⟩ := Option.bind_eq_some_iff.1 found
        split at found
        · cases found
        · next fewer =>
          cases found
          refine ⟨?_, ?_⟩
          · simp only [List.length_append, List.length_replicate]
            omega
          · intro n member
            rw [List.mem_append, List.mem_append] at member
            rcases member with (early | zero) | late
            · exact lt_of_ipv6Side? leftRead n early
            · rw [List.eq_of_mem_replicate zero]
              decide
            · exact lt_of_ipv6Side? rightRead n late
  · cases read

end LedgerAgent.Url
