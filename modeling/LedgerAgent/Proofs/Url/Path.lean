/-
Module: LedgerAgent.Proofs.Url.Path
Purpose: The segments that paths are read as, and that they are read as themselves again.
Main exports: Url.Dot, Url.Settled, Url.settled_followSegments, Url.followSegments_of_settled,
  Url.parsePath_chars
-/
import LedgerAgent.Proofs.Url.Authority
import LedgerAgent.Proofs.Url.Query

namespace LedgerAgent.Url

/-! ### Dots and their encoding -/

/-- A dot of a path, as it stands or encoded. -/
inductive Dot : List Char → Prop where
  | plain : Dot ['.']
  | encoded {e : Char} (letter : e = 'e' ∨ e = 'E') : Dot ['%', '2', e]

theorem ascii_of_isUpper {c : Char} (upper : c.isUpper = true) : c.toNat < 128 := by
  have last : c.toNat ≤ 90 := UInt32.le_iff_toNat_le.1 (of_decide_eq_true upper).2
  omega

theorem eq_of_toLower {c d : Char} (sign : d.isLower = false) (low : c.toLower = d) : c = d := by
  cases upper : c.isUpper with
  | false => exact (toLower_of_not_isUpper upper).symm.trans low
  | true =>
      have letter : c.isUpper = true → c.toLower.isLower = true :=
        forall_ascii (P := fun c => c.isUpper = true → c.toLower.isLower = true) (by decide)
          (ascii_of_isUpper upper)
      rw [← low, letter upper] at sign
      cases sign

theorem eq_e_of_toLower {c : Char} (low : c.toLower = 'e') : c = 'e' ∨ c = 'E' := by
  cases upper : c.isUpper with
  | false => exact .inl ((toLower_of_not_isUpper upper).symm.trans low)
  | true =>
      exact forall_ascii (P := fun c => c.toLower = 'e' → c = 'e' ∨ c = 'E') (by decide)
        (ascii_of_isUpper upper) low

/-- Text that is a dot but for its case begins with a dot. -/
theorem dot_of_map_toLower {segment rest : List Char}
    (low : segment.map Char.toLower = '.' :: rest ∨
      segment.map Char.toLower = '%' :: '2' :: 'e' :: rest) :
    ∃ dot behind, Dot dot ∧ segment = dot ++ behind ∧ behind.map Char.toLower = rest := by
  rcases low with plain | encoded
  · obtain ⟨point, behind, rfl, low, others⟩ := List.map_eq_cons_iff.1 plain
    rw [eq_of_toLower (by decide) low]
    exact ⟨_, behind, .plain, rfl, others⟩
  · obtain ⟨sign, behind, rfl, low, others⟩ := List.map_eq_cons_iff.1 encoded
    obtain ⟨two, behind, rfl, low', others⟩ := List.map_eq_cons_iff.1 others
    obtain ⟨letter, behind, rfl, low'', others⟩ := List.map_eq_cons_iff.1 others
    rw [eq_of_toLower (by decide) low, eq_of_toLower (by decide) low']
    exact ⟨_, behind, .encoded (eq_e_of_toLower low''), rfl, others⟩

/-- In lower case a dot is one of two texts. -/
theorem map_toLower_of_dot {dot : List Char} (is : Dot dot) :
    dot.map Char.toLower = ['.'] ∨ dot.map Char.toLower = ['%', '2', 'e'] := by
  cases is with
  | plain => exact .inl rfl
  | encoded letter =>
      rcases letter with rfl | rfl
      · exact .inr rfl
      · exact .inr rfl

theorem ofList_eq_iff {cs : List Char} {text : String} :
    String.ofList cs = text ↔ cs = text.toList := by
  rw [← String.toList_inj, String.toList_ofList]

theorem isSingleDot_iff {segment : List Char} : isSingleDot segment = true ↔ Dot segment := by
  simp only [isSingleDot, List.contains_iff_mem, List.mem_cons, List.not_mem_nil, or_false,
    ofList_eq_iff]
  constructor
  · intro low
    obtain ⟨dot, behind, is, rfl, others⟩ := @dot_of_map_toLower segment [] low
    rw [List.map_eq_nil_iff.1 others, List.append_nil]
    exact is
  · exact map_toLower_of_dot

/-- A segment means the one before it if it is two dots, each as it stands or encoded. -/
theorem isDoubleDot_iff {segment : List Char} : isDoubleDot segment = true ↔
    ∃ first second, Dot first ∧ Dot second ∧ segment = first ++ second := by
  simp only [isDoubleDot, List.contains_iff_mem, List.mem_cons, List.not_mem_nil, or_false,
    ofList_eq_iff]
  constructor
  · intro low
    obtain ⟨rest, front, last⟩ : ∃ rest,
        (segment.map Char.toLower = '.' :: rest ∨
          segment.map Char.toLower = '%' :: '2' :: 'e' :: rest) ∧
        (rest = ['.'] ∨ rest = ['%', '2', 'e']) := by
      rcases low with low | low | low | low
      · exact ⟨_, .inl low, .inl rfl⟩
      · exact ⟨_, .inr low, .inr rfl⟩
      · exact ⟨_, .inr low, .inl rfl⟩
      · exact ⟨_, .inl low, .inr rfl⟩
    obtain ⟨first, behind, is, rfl, others⟩ := dot_of_map_toLower front
    rw [← others] at last
    obtain ⟨second, behind, is', rfl, none⟩ := @dot_of_map_toLower behind [] last
    rw [List.map_eq_nil_iff.1 none, List.append_nil]
    exact ⟨first, second, is, is', rfl⟩
  · rintro ⟨first, second, is, is', rfl⟩
    rw [List.map_append]
    rcases map_toLower_of_dot is with low | low <;>
      rcases map_toLower_of_dot is' with low' | low' <;> rw [low, low'] <;> decide

/-! ### Encoding leaves no new dots -/

/-- An encoded character begins with the encoding of its first byte. -/
theorem exists_percentChar_eq (c : Char) : ∃ b bs, String.utf8EncodeChar c = b :: bs ∧
    percentChar c =
      '%' :: upperHex (b.toNat / 16) :: upperHex (b.toNat % 16) :: bs.flatMap percentByte := by
  obtain ⟨b, bs, bytes⟩ := List.exists_cons_of_ne_nil (String.utf8EncodeChar_ne_nil (c := c))
  refine ⟨b, bs, bytes, ?_⟩
  rw [percentChar, bytes]
  rfl

theorem percentEncode_eq_nil {set : EncodeSet} {cs : List Char}
    (encoded : percentEncode set cs = []) : cs = [] := by
  cases cs with
  | nil => rfl
  | cons c rest =>
      rw [percentEncode, List.flatMap_cons] at encoded
      obtain ⟨b, bs, -, spelled⟩ := exists_percentChar_eq c
      split at encoded
      · rw [spelled] at encoded
        cases encoded
      · cases encoded

/-- A character that begins no encoding was there before. -/
theorem percentEncode_eq_cons {set : EncodeSet} {cs rest : List Char} {d : Char}
    (sign : d ≠ '%') (encoded : percentEncode set cs = d :: rest) :
    ∃ behind, cs = d :: behind ∧ percentEncode set behind = rest := by
  cases cs with
  | nil => cases encoded
  | cons c behind =>
      rw [percentEncode, List.flatMap_cons, ← percentEncode] at encoded
      obtain ⟨b, bs, -, spelled⟩ := exists_percentChar_eq c
      split at encoded
      · rw [spelled] at encoded
        exact absurd (List.cons.inj encoded).1.symm sign
      · obtain ⟨rfl, rfl⟩ := List.cons.inj encoded
        exact ⟨behind, rfl, rfl⟩

/-- A dot is the only character whose bytes begin with that of a dot. -/
theorem eq_dot_of_utf8EncodeChar {c : Char} {bs : List UInt8}
    (bytes : String.utf8EncodeChar c = 46 :: bs) : c = '.' := by
  -- Past ASCII the first byte is above all of ASCII.
  have lead : ∀ n, n < 256 → UInt8.ofNat n = 46 → n = 46 := by
    intro n small same
    have byte := congrArg UInt8.toNat same
    rw [UInt8.toNat_ofNat', Nat.mod_eq_of_lt small] at byte
    exact byte
  simp only [String.utf8EncodeChar] at bytes
  apply Char.toNat_inj.1
  change c.val.toNat = 46
  split at bytes
  · exact lead _ (by omega) (List.cons.inj bytes).1
  · split at bytes
    · have first := lead _ (by omega) (List.cons.inj bytes).1
      omega
    · split at bytes
      · have first := lead _ (by omega) (List.cons.inj bytes).1
        omega
      · have first := lead _ (by omega) (List.cons.inj bytes).1
        omega

/-- A dot at the front of encoded text was there before: no character is encoded as one. -/
theorem percentEncode_eq_dot {dot cs rest : List Char} (is : Dot dot)
    (encoded : percentEncode .path cs = dot ++ rest) :
    ∃ behind, cs = dot ++ behind ∧ percentEncode .path behind = rest := by
  cases is with
  | plain => exact percentEncode_eq_cons (by decide) encoded
  | @encoded e letter =>
      cases cs with
      | nil => cases encoded
      | cons c behind =>
          rw [percentEncode, List.flatMap_cons, ← percentEncode] at encoded
          split at encoded
          · next encodes =>
            obtain ⟨b, bs, bytes, spelled⟩ := exists_percentChar_eq c
            have bound := b.toNat_lt
            rw [spelled] at encoded
            simp only [List.cons_append, List.nil_append, List.cons.injEq, true_and] at encoded
            have high := hexDigit?_upperHex (b.toNat / 16) (by omega)
            have low := hexDigit?_upperHex (b.toNat % 16) (by omega)
            rw [encoded.1] at high
            rw [encoded.2.1] at low
            have high' : b.toNat / 16 = 2 := Option.some.inj high.symm
            have low' : b.toNat % 16 = 14 := by
              rcases letter with rfl | rfl <;> exact Option.some.inj low.symm
            have byte : b.toNat = 46 := by omega
            rw [show b = 46 from UInt8.toNat_inj.1 byte] at bytes
            rw [eq_dot_of_utf8EncodeChar bytes] at encodes
            exact absurd encodes (by decide)
          · obtain ⟨rfl, digits⟩ := List.cons.inj encoded
            have sign : e ≠ '%' := by
              rcases letter with rfl | rfl <;> decide
            obtain ⟨behind, rfl, last⟩ := percentEncode_eq_cons (d := '2') (by decide) digits
            obtain ⟨behind, rfl, others⟩ := percentEncode_eq_cons sign last
            exact ⟨behind, rfl, others⟩

/-- Encoding makes no segment a dot. -/
theorem isSingleDot_percentEncode {segment : List Char}
    (single : isSingleDot (percentEncode .path segment) = true) : isSingleDot segment = true := by
  rw [isSingleDot_iff] at single ⊢
  obtain ⟨behind, whole, empty⟩ := percentEncode_eq_dot single (List.append_nil _).symm
  rw [percentEncode_eq_nil empty, List.append_nil] at whole
  rw [whole]
  exact single

theorem isDoubleDot_percentEncode {segment : List Char}
    (double : isDoubleDot (percentEncode .path segment) = true) : isDoubleDot segment = true := by
  rw [isDoubleDot_iff] at double ⊢
  obtain ⟨first, second, is, is', spelled⟩ := double
  obtain ⟨behind, rfl, rest⟩ := percentEncode_eq_dot is spelled
  obtain ⟨behind, rfl, empty⟩ := percentEncode_eq_dot is' (rest.trans (List.append_nil _).symm)
  rw [percentEncode_eq_nil empty, List.append_nil]
  exact ⟨first, second, is, is', rfl⟩

/-! ### Segments that are read as themselves -/

/-- A segment as parsing leaves it: nothing in it is encoded or parts segments, and it is no
dots. -/
structure Settled (segment : List Char) : Prop where
  unencoded : ∀ c ∈ segment, EncodeSet.path.encodes c = false
  unslashed : ∀ c ∈ segment, isSlash true c = false
  single : isSingleDot segment = false
  double : isDoubleDot segment = false

theorem settled_nil : Settled [] :=
  ⟨nofun, nofun, by decide, by decide⟩

theorem settled_percentEncode {segment : List Char}
    (unslashed : ∀ c ∈ segment, isSlash true c = false) (single : isSingleDot segment = false)
    (double : isDoubleDot segment = false) : Settled (percentEncode .path segment) where
  unencoded _ member := encodes_of_mem_percentEncode (by decide) member
  unslashed c member := by
    obtain ⟨d, own, here⟩ := List.mem_flatMap.1 member
    split at here
    · obtain ⟨b, -, here⟩ := List.mem_flatMap.1 here
      rcases mem_percentByte here with rfl | ⟨n, digit, rfl⟩
      · decide
      · have slashless : ∀ n < 16, isSlash true (upperHex n) = false := by decide
        exact slashless n digit
    · rw [List.mem_singleton.1 here]
      exact unslashed d own
  single := Bool.eq_false_iff.2 fun dot =>
    absurd (isSingleDot_percentEncode dot) (Bool.eq_false_iff.1 single)
  double := Bool.eq_false_iff.2 fun dots =>
    absurd (isDoubleDot_percentEncode dots) (Bool.eq_false_iff.1 double)

/-- A word of the characters that schemes are made of is settled, unless a dot begins it. -/
theorem settled_word {first : Char} {rest : List Char} (front : first ≠ '.')
    (word : ∀ c ∈ first :: rest, isSchemePart c = true) : Settled (first :: rest) := by
  have plain : ∀ c ∈ first :: rest,
      EncodeSet.path.encodes c = false ∧ isSlash true c = false := by
    intro c member
    refine forall_ascii (P := fun c => isSchemePart c = true →
      EncodeSet.path.encodes c = false ∧ isSlash true c = false) ?_
      (ascii_of_isSchemePart (word c member)) (word c member)
    decide
  have undotted {dot behind : List Char} (is : Dot dot) : first :: rest ≠ dot ++ behind := by
    intro same
    cases is with
    | plain => exact front (List.cons.inj same).1
    | encoded letter =>
        have sign := word first List.mem_cons_self
        rw [(List.cons.inj same).1] at sign
        exact absurd sign (by decide)
  refine ⟨fun c member => (plain c member).1, fun c member => (plain c member).2, ?_, ?_⟩
  · rw [Bool.eq_false_iff, Ne, isSingleDot_iff]
    exact fun is => undotted is (List.append_nil _).symm
  · rw [Bool.eq_false_iff, Ne, isDoubleDot_iff]
    rintro ⟨first, second, is, -, same⟩
    exact undotted is same

namespace Settled

variable {segment : List Char}

/-- What is settled is not encoded again. -/
theorem percentEncode_eq (settled : Settled segment) : percentEncode .path segment = segment := by
  have own : ∀ c ∈ segment,
      (if EncodeSet.path.encodes c then percentChar c else [c]) = [c] := by
    intro c member
    rw [settled.unencoded c member]
    rfl
  rw [percentEncode, List.flatMap_congr own]
  exact List.flatMap_singleton' segment

theorem withoutBreaks_eq (settled : Settled segment) : withoutBreaks segment = segment := by
  rw [withoutBreaks, List.filter_eq_self]
  intro c member
  rw [isBreak_of_shown (shown_of_unencoded (by decide) (settled.unencoded c member))]
  rfl

end Settled

/-- Settled segments are put one behind the other. -/
theorem followSegments_of_settled {found segments : List (List Char)}
    (settled : ∀ segment ∈ segments, Settled segment) :
    followSegments false found segments = found.reverse ++ segments := by
  induction segments generalizing found with
  | nil => rw [followSegments, List.append_nil]
  | cons segment rest inductionHypothesis =>
      rw [List.forall_mem_cons] at settled
      have put : putBehind false found segment = segment :: found := by
        rw [putBehind, Bool.false_and, if_neg Bool.false_ne_true, settled.1.withoutBreaks_eq,
          settled.1.percentEncode_eq]
      rw [followSegments]
      simp only [settled.1.withoutBreaks_eq, settled.1.double, settled.1.single,
        Bool.false_eq_true, if_false, put, inductionHypothesis settled.2, List.reverse_cons,
        List.append_assoc, List.singleton_append]

theorem mem_of_mem_leaveSegment {found : List (List Char)} {segment : List Char}
    (member : segment ∈ leaveSegment found) : segment ∈ found := by
  cases found with
  | nil => cases member
  | cons last before =>
      rw [leaveSegment] at member
      split at member
      · exact member
      · exact List.mem_cons_of_mem last member

/-- One segment that is followed: what it leaves was there, is empty, or is the segment
encoded, which then is no dots; and the last one leaves something. -/
theorem exists_followSegments_cons (found rest : List (List Char)) (segment : List Char) :
    ∃ onward, followSegments false found (segment :: rest) = followSegments false onward rest ∧
      (rest = [] → onward ≠ []) ∧
      ∀ left ∈ onward, left ∈ found ∨ left = [] ∨
        left = percentEncode .path (withoutBreaks segment) ∧
          isSingleDot (withoutBreaks segment) = false ∧
          isDoubleDot (withoutBreaks segment) = false := by
  have dots (kept : List (List Char)) (within : ∀ left ∈ kept, left ∈ found) :
      (rest = [] → (if rest.isEmpty then [[]] else []) ++ kept ≠ []) ∧
      ∀ left ∈ (if rest.isEmpty then [[]] else []) ++ kept, left ∈ found ∨ left = [] := by
    cases rest with
    | nil =>
        refine ⟨fun _ => List.cons_ne_nil _ _, fun left member => ?_⟩
        rcases List.mem_cons.1 member with empty | before
        · exact .inr empty
        · exact .inl (within left before)
    | cons next rest => exact ⟨nofun, fun left member => .inl (within left member)⟩
  rw [followSegments]
  split
  · obtain ⟨filled, known⟩ := dots (leaveSegment found) fun _ => mem_of_mem_leaveSegment
    exact ⟨_, rfl, filled, fun left member => (known left member).imp_right .inl⟩
  · next double =>
    split
    · obtain ⟨filled, known⟩ := dots found fun _ => id
      exact ⟨_, rfl, filled, fun left member => (known left member).imp_right .inl⟩
    · next single =>
      refine ⟨_, rfl, fun _ => List.cons_ne_nil _ _, fun left member => ?_⟩
      rcases List.mem_cons.1 member with put | before
      · exact .inr (.inr ⟨put, Bool.eq_false_iff.2 single, Bool.eq_false_iff.2 double⟩)
      · exact .inl before

/-- What is followed from settled segments on is settled. -/
theorem settled_followSegments {found segments : List (List Char)}
    (settled : ∀ segment ∈ found, Settled segment)
    (unslashed : ∀ segment ∈ segments, ∀ c ∈ segment, isSlash true c = false) :
    ∀ segment ∈ followSegments false found segments, Settled segment := by
  induction segments generalizing found with
  | nil =>
      intro segment member
      rw [followSegments] at member
      exact settled segment (List.mem_reverse.1 member)
  | cons segment rest inductionHypothesis =>
      rw [List.forall_mem_cons] at unslashed
      obtain ⟨onward, step, -, known⟩ := exists_followSegments_cons found rest segment
      rw [step]
      refine inductionHypothesis (fun left member => ?_) unslashed.2
      rcases known left member with before | rfl | ⟨rfl, single, double⟩
      · exact settled left before
      · exact settled_nil
      · exact settled_percentEncode (fun c own => unslashed.1 c (List.mem_filter.1 own).1)
          single double

/-- Following segments leaves one at least. -/
theorem followSegments_ne_nil {found segments : List (List Char)} (filled : segments ≠ []) :
    followSegments false found segments ≠ [] := by
  induction segments generalizing found with
  | nil => exact absurd rfl filled
  | cons segment rest inductionHypothesis =>
      obtain ⟨onward, step, last, -⟩ := exists_followSegments_cons found rest segment
      rw [step]
      cases rest with
      | nil =>
          rw [followSegments]
          exact mt List.reverse_eq_nil_iff.1 (last rfl)
      | cons next rest => exact inductionHypothesis (List.cons_ne_nil _ _)

/-! ### Paths -/

/-- No segment holds a slash. -/
theorem isSlash_of_mem_splitSegments {text segment : List Char} {c : Char}
    (part : segment ∈ splitSegments true text) (member : c ∈ segment) :
    isSlash true c = false := by
  have slash : c ≠ '/' := by
    rintro rfl
    exact Text.not_mem_of_mem_fields part member
  obtain ⟨d, -, rfl⟩ := List.mem_map.1 (mem_of_mem_fields part member)
  split at slash
  · exact absurd rfl slash
  · next backslash =>
    rw [if_neg backslash]
    simp [isSlash, slash, backslash]

theorem splitSegments_ne_nil {special : Bool} {text : List Char} :
    splitSegments special text ≠ [] :=
  Text.fields_ne_nil _ _

/-- The path of a special scheme's URL has segments, all of them settled. -/
theorem exists_settled_parsePath {scheme : List Char} (special : isSpecial scheme = true)
    (text : List Char) : ∃ segments, parsePath scheme text = .segments segments ∧
      segments ≠ [] ∧ ∀ segment ∈ segments, Settled segment := by
  have followed (text : List Char) : followSegments false [] (splitSegments true text) ≠ [] ∧
      ∀ segment ∈ followSegments false [] (splitSegments true text), Settled segment :=
    ⟨followSegments_ne_nil splitSegments_ne_nil,
      settled_followSegments nofun fun _ part _ => isSlash_of_mem_splitSegments part⟩
  cases text with
  | nil =>
      refine ⟨[[]], ?_, List.cons_ne_nil _ _, List.forall_mem_singleton.2 settled_nil⟩
      rw [parsePath, special]
      rfl
  | cons c rest =>
      rw [parsePath, special]
      exact ⟨_, rfl, followed _⟩

/-- Segments behind slashes are segments between them, with one in front. -/
theorem flatMap_slash {first : List Char} {others : List (List Char)} :
    (first :: others).flatMap ('/' :: ·) = '/' :: ['/'].intercalate (first :: others) := by
  induction others generalizing first with
  | nil => simp
  | cons next others inductionHypothesis =>
      rw [List.flatMap_cons, inductionHypothesis, List.intercalate_cons_cons]
      simp

/-- A path of settled segments is read as that path. -/
theorem parsePath_chars {scheme : List Char} {segments : List (List Char)}
    (special : isSpecial scheme = true) (filled : segments ≠ [])
    (settled : ∀ segment ∈ segments, Settled segment) :
    parsePath scheme (Path.segments segments).chars = .segments segments := by
  obtain ⟨first, others, rfl⟩ := List.exists_cons_of_ne_nil filled
  have bare : ∀ segment ∈ first :: others, '/' ∉ segment :=
    fun segment own member => absurd ((settled segment own).unslashed '/' member) (by decide)
  have plain : (['/'].intercalate (first :: others)).map (fun c => if c = '\\' then '/' else c) =
      ['/'].intercalate (first :: others) := by
    refine (List.map_congr_left fun c member => if_neg ?_).trans (List.map_id _)
    rintro rfl
    rcases mem_of_mem_intercalate member with mark | ⟨segment, own, here⟩
    · exact absurd mark (by decide)
    · exact absurd ((settled segment own).unslashed _ here) (by decide)
  have split : splitSegments true (['/'].intercalate (first :: others)) = first :: others := by
    rw [splitSegments, if_pos rfl, plain, fields_intercalate filled bare]
  rw [Path.chars, flatMap_slash, parsePath, special]
  simp only [show isSlash true '/' = true from rfl, if_true, split]
  rw [followSegments_of_settled settled]
  rfl

end LedgerAgent.Url
