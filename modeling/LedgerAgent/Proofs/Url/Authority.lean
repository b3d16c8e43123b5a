/-
Module: LedgerAgent.Proofs.Url.Authority
Purpose: What parsing says of a URL's scheme and authority, and how far it reads them.
Main exports: Url.SchemeText, Url.Seated, Url.Grounded, Url.grounded_of_parse,
  Url.splitScheme?_cleaned, Url.authorityText_cleaned
-/
import Mathlib.Data.List.DropRight
import LedgerAgent.Proofs.Url.Host

namespace LedgerAgent.Url

/-! ### Schemes -/

/-- Whether a character may stand in a scheme. -/
def isSchemePart (c : Char) : Bool :=
  c.isAlphanum || c = '+' || c = '-' || c = '.'

/-- A scheme as it is kept: a letter and what may stand behind it, all of it small. -/
structure SchemeText (scheme : List Char) : Prop where
  letter : ∃ first rest, scheme = first :: rest ∧ first.isAlpha = true
  part : ∀ c ∈ scheme, isSchemePart c = true
  small : ∀ c ∈ scheme, c.isUpper = false

/-- A scheme is a letter and what may follow it, up to a colon, in small letters. -/
theorem splitScheme?_cons (first : Char) (others : List Char) :
    splitScheme? (first :: others) =
      if first.isAlpha then
        match (first :: others).dropWhile isSchemePart with
        | ':' :: rest => some (((first :: others).takeWhile isSchemePart).map Char.toLower, rest)
        | _ => none
      else none :=
  rfl

theorem isSchemePart_of_isAlpha {c : Char} (letter : c.isAlpha = true) :
    isSchemePart c = true := by
  simp [isSchemePart, Char.isAlphanum, letter]

theorem ascii_of_isSchemePart {c : Char} (part : isSchemePart c = true) : c.toNat < 128 := by
  rw [isSchemePart, Bool.or_eq_true, Bool.or_eq_true, Bool.or_eq_true] at part
  rcases part with ((alphanumeric | plus) | minus) | point
  · rcases Bool.or_eq_true_iff.1 alphanumeric with alpha | digit
    · rcases Bool.or_eq_true_iff.1 alpha with upper | lower
      · have bound : c.toNat ≤ 90 := UInt32.le_iff_toNat_le.1 (of_decide_eq_true upper).2
        omega
      · have within := Bool.and_eq_true_iff.1 lower
        have bound : c.toNat ≤ 122 := UInt32.le_iff_toNat_le.1 (of_decide_eq_true within.2)
        omega
    · have bounds := Text.Numeral.isDigit_iff.1 (Text.Numeral.isDigit_of_charIsDigit digit)
      omega
  · rw [of_decide_eq_true plus]
    decide
  · rw [of_decide_eq_true minus]
    decide
  · rw [of_decide_eq_true point]
    decide

theorem toLower_of_isSchemePart {c : Char} (part : isSchemePart c = true) :
    isSchemePart c.toLower = true ∧ c.toLower.isUpper = false ∧
      (c.isAlpha = true → c.toLower.isAlpha = true) := by
  refine forall_ascii (P := fun c => isSchemePart c = true → isSchemePart c.toLower = true ∧
    c.toLower.isUpper = false ∧ (c.isAlpha = true → c.toLower.isAlpha = true)) ?_
    (ascii_of_isSchemePart part) part
  decide

/-- What is split off as a scheme is the text of one. -/
theorem schemeText_of_splitScheme? {cs scheme rest : List Char}
    (found : splitScheme? cs = some (scheme, rest)) : SchemeText scheme := by
  cases cs with
  | nil => cases found
  | cons first others =>
      rw [splitScheme?_cons] at found
      split at found
      · next letter =>
        split at found
        · cases found
          have lower : ∀ c ∈ ((first :: others).takeWhile isSchemePart).map Char.toLower,
              isSchemePart c = true ∧ c.isUpper = false := by
            intro c member
            obtain ⟨d, own, rfl⟩ := List.mem_map.1 member
            have small := toLower_of_isSchemePart (List.mem_takeWhile_imp own)
            exact ⟨small.1, small.2.1⟩
          have part := isSchemePart_of_isAlpha letter
          refine ⟨⟨_, _, by rw [List.takeWhile_cons_of_pos part, List.map_cons], ?_⟩,
            fun c member => (lower c member).1, fun c member => (lower c member).2⟩
          exact (toLower_of_isSchemePart part).2.2 letter
        · cases found
      · cases found

/-- A scheme is cut off where it stands as it is kept. -/
theorem splitScheme?_of_schemeText {scheme : List Char} (text : SchemeText scheme)
    (rest : List Char) : splitScheme? (scheme ++ ':' :: rest) = some (scheme, rest) := by
  have colon : isSchemePart ':' = false := by decide
  have front : (scheme ++ ':' :: rest).takeWhile isSchemePart = scheme := by
    rw [List.takeWhile_append_of_pos text.part, List.takeWhile_cons_of_neg (by simp [colon]),
      List.append_nil]
  have behind : (scheme ++ ':' :: rest).dropWhile isSchemePart = ':' :: rest := by
    rw [List.dropWhile_append_of_pos text.part, List.dropWhile_cons_of_neg (by simp [colon])]
  have small : scheme.map Char.toLower = scheme :=
    (List.map_congr_left fun c member => toLower_of_not_isUpper (text.small c member)).trans
      (List.map_id scheme)
  obtain ⟨first, others, rfl, letter⟩ := text.letter
  rw [List.cons_append] at front behind ⊢
  rw [splitScheme?_cons, if_pos letter, behind, front, small]
  rfl

/-- The part of a text that its authority is read from, behind the scheme and the slashes. -/
def authorityText (rest : List Char) : List Char :=
  ((splitTail rest).1.dropWhile (isSlash true)).takeWhile (!isSlash true ·)

/-- The part of a text that its path is read from, behind the authority. -/
def pathText (rest : List Char) : List Char :=
  ((splitTail rest).1.dropWhile (isSlash true)).dropWhile (!isSlash true ·)

/-- A URL was read with an authority, and with a path behind it. -/
structure ReadsAuthority (rest : List Char) (url : Url) (authority : Authority) : Prop where
  read : ∃ isLast more,
    parseAuthority url.scheme isLast (authorityText rest) = .ok (authority, more) ∧
      url.path = parsePath url.scheme (more ++ pathText rest)
  username : url.username = authority.username
  password : url.password = authority.password
  host : url.host = some authority.host
  portNumber : url.portNumber = authority.portNumber

/-- A text is read as a URL by its scheme first, and by its authority if the scheme is one of
the special ones. -/
theorem reads_of_parse {text : String} {url : Url} (read : parse text = .ok url) :
    ∃ rest, splitScheme? (withoutBreaks (withoutEdges text.toList)) = some (url.scheme, rest) ∧
      (isSpecial url.scheme = true → url.scheme ≠ fileScheme →
        ∃ authority, ReadsAuthority rest url authority) := by
  rw [parse] at read
  split at read
  · cases read
  · next scheme rest found =>
    dsimp only at read
    split at read
    · next file =>
      obtain ⟨⟨host, path⟩, -, read⟩ := Json.bind_eq_ok.1 read
      cases read
      exact ⟨rest, found, fun _ other => absurd file other⟩
    · split at read
      · next special =>
        obtain ⟨⟨authority, more⟩, seated, read⟩ := Json.bind_eq_ok.1 read
        cases read
        exact ⟨rest, found, fun _ _ => ⟨authority, ⟨_, _, seated, rfl⟩, rfl, rfl, rfl, rfl⟩⟩
      · next other =>
        have plain : url.scheme = scheme := by
          split at read
          · obtain ⟨⟨authority, more⟩, -, read⟩ := Json.bind_eq_ok.1 read
            cases read
            rfl
          · cases read
            rfl
          · cases read
            rfl
        refine ⟨rest, plain ▸ found, fun special => ?_⟩
        rw [plain] at special
        exact absurd special other

/-- The parts of a special scheme's authority are read one by one. -/
theorem parts_of_parseAuthority {scheme text more : List Char} {isLast : Bool}
    {authority : Authority} (special : isSpecial scheme = true)
    (read : parseAuthority scheme isLast text = .ok (authority, more)) :
    ∃ info address number, (splitLastAt text).getD ([], text) = (info, address) ∧
      (authority.username, authority.password) = parseUserinfo info ∧
      parseHost (splitHost false address).1 = .ok authority.host ∧
      parseNumber ((splitHost false address).2.drop 1) = .ok (number, more) ∧
      authority.portNumber = if number = defaultNumber? scheme then none else number := by
  rw [parseAuthority] at read
  simp only [special, if_true] at read
  split at read
  · cases read
  · split at read
    · cases read
    · obtain ⟨host, hosted, read⟩ := Json.bind_eq_ok.1 read
      split at read
      · cases read
      · obtain ⟨⟨number, behind⟩, numbered, read⟩ := Json.bind_eq_ok.1 read
        split at read
        · cases read
        · cases read
          exact ⟨_, _, number, rfl, rfl, hosted, numbered, rfl⟩

/-! ### What parsing says of a URL -/

/-- What is encoded for a part that leaves percent signs alone has nothing left to encode. -/
theorem encodes_of_mem_percentEncode {set : EncodeSet} (signed : set.encodes '%' = false)
    {cs : List Char} {c : Char} (member : c ∈ percentEncode set cs) : set.encodes c = false := by
  have digit : ∀ n < 16, set.encodes (upperHex n) = false := by
    cases set <;> decide
  obtain ⟨d, -, here⟩ := List.mem_flatMap.1 member
  split at here
  · obtain ⟨b, -, here⟩ := List.mem_flatMap.1 here
    have bound := b.toNat_lt
    simp only [percentByte, List.mem_cons, List.not_mem_nil, or_false] at here
    rcases here with rfl | rfl | rfl
    · exact signed
    · exact digit _ (by omega)
    · exact digit _ (by omega)
  · next unencoded =>
    rw [List.mem_singleton] at here
    rw [here]
    simpa using unencoded

theorem shown_of_unencoded {set : EncodeSet} {c : Char} (space : ' ' ∈ set.extra)
    (unencoded : set.encodes c = false) : 32 < c.toNat := by
  rw [EncodeSet.encodes, Bool.or_eq_false_iff, Bool.or_eq_false_iff, List.contains_eq_mem]
    at unencoded
  have early := of_decide_eq_false unencoded.1.1
  have extra := of_decide_eq_false unencoded.2
  have notSpace : c.toNat ≠ 32 := by
    intro same
    rw [← Char.ofNat_toNat c, same] at extra
    exact extra space
  omega

theorem inner_of_unencoded {c : Char} (unencoded : EncodeSet.userinfo.encodes c = false) :
    Inner c := by
  refine ⟨shown_of_unencoded (by decide) unencoded, ?_⟩
  intro ends
  rw [EncodeSet.encodes, Bool.or_eq_false_iff, List.contains_eq_mem] at unencoded
  have encoded : ∀ d ∈ ['/', '\\', '?', '#', '@'], d ∈ EncodeSet.userinfo.extra :=
    List.all_iff_forall_prop.1 (by decide)
  exact of_decide_eq_false unencoded.2 (encoded c ends)

/-- The number behind an authority's host, with its colon. -/
def numberChars (url : Url) : List Char :=
  (url.portNumber.map fun n => ':' :: Nat.toDigits 10 n).getD []

/-- A URL with a proper authority. -/
structure Seated (url : Url) (host : Host) : Prop where
  named : url.host = some host
  proper : host.Proper
  username : ∀ c ∈ url.username, Inner c
  password : ∀ c ∈ url.password, Inner c
  number : ∀ n ∈ url.portNumber, n < 65536 ∧ some n ≠ defaultNumber? url.scheme

/-- A URL as parsing leaves it. -/
structure Grounded (url : Url) : Prop where
  scheme : SchemeText url.scheme
  seated : isSpecial url.scheme = true → url.scheme ≠ fileScheme → ∃ host, url.Seated host

/-- A port number that is read has sixteen bits. -/
theorem lt_of_parseNumber {text more : List Char} {n : Nat}
    (read : parseNumber text = .ok (some n, more)) : n < 65536 := by
  rw [parseNumber] at read
  split at read
  · cases read
  · split at read
    · next number found =>
      cases read
      exact ((Text.Numeral.extend_eq_ok_iff (by decide)).1 found).2.2
    · cases read

/-- What is left of a user's name and password is encoded. -/
theorem inner_parseUserinfo (info : List Char) :
    (∀ c ∈ (parseUserinfo info).1, Inner c) ∧ ∀ c ∈ (parseUserinfo info).2, Inner c := by
  have encoded (cs : List Char) : ∀ c ∈ percentEncode .userinfo cs, Inner c :=
    fun c member => inner_of_unencoded (encodes_of_mem_percentEncode (by decide) member)
  rw [parseUserinfo]
  split
  · exact ⟨encoded _, fun c member => absurd member List.not_mem_nil⟩
  · exact ⟨encoded _, encoded _⟩

/-- What is parsed is grounded. -/
theorem grounded_of_parse {text : String} {url : Url} (read : parse text = .ok url) :
    url.Grounded := by
  obtain ⟨rest, found, authority⟩ := reads_of_parse read
  refine ⟨schemeText_of_splitScheme? found, fun special web => ?_⟩
  obtain ⟨authority, ⟨isLast, more, seated, -⟩, username, password, host, portNumber⟩ :=
    authority special web
  obtain ⟨info, address, number, -, user, hosted, numbered, kept⟩ :=
    parts_of_parseAuthority special seated
  rcases inner_parseUserinfo info with ⟨name, word⟩
  rw [← user] at name word
  refine ⟨authority.host, host, proper_of_parseHost hosted, username ▸ name, password ▸ word, ?_⟩
  intro n own
  rw [portNumber, kept] at own
  split at own
  · cases own
  · next explicit =>
    cases own
    exact ⟨lt_of_parseNumber numbered, explicit⟩

/-! ### How far scheme and authority go -/

/-- Nothing is taken off the end of a text from before what is kept. -/
theorem rdropWhile_append {p : Char → Bool} {last : Char} (kept : p last = false)
    (front tail : List Char) :
    (front ++ last :: tail).rdropWhile p = front ++ last :: tail.rdropWhile p := by
  induction tail using List.reverseRecOn with
  | nil => exact List.rdropWhile_concat_neg p front last (by simp [kept])
  | append_singleton tail c inductionHypothesis =>
      rw [← List.cons_append, ← List.append_assoc]
      by_cases dropped : p c = true
      · rw [List.rdropWhile_concat_pos p _ c dropped, inductionHypothesis,
          List.rdropWhile_concat_pos p _ c dropped]
      · rw [List.rdropWhile_concat_neg p _ c dropped, List.rdropWhile_concat_neg p _ c dropped,
          List.append_assoc]
        rfl

theorem isBreak_of_shown {c : Char} (shown : 32 < c.toNat) : isBreak c = false := by
  rw [isBreak, Bool.or_eq_false_iff, Bool.or_eq_false_iff]
  refine ⟨⟨decide_eq_false ?_, decide_eq_false ?_⟩, decide_eq_false ?_⟩
  · rintro rfl
    exact absurd shown (by decide)
  · rintro rfl
    exact absurd shown (by decide)
  · rintro rfl
    exact absurd shown (by decide)

/-- Text without the white space at its end and without breaks. -/
def cleaned (cs : List Char) : List Char :=
  withoutBreaks (cs.rdropWhile (·.toNat ≤ 32))

/-- What is shown at the front of a text is left as it is. -/
theorem cleaned_append {front : List Char} (shown : ∀ c ∈ front, 32 < c.toNat)
    (tail : List Char) : cleaned (front ++ tail) = front ++ cleaned tail := by
  have kept : withoutBreaks front = front := by
    rw [withoutBreaks, List.filter_eq_self]
    intro c member
    rw [isBreak_of_shown (shown c member)]
    rfl
  have trimmed : (front ++ tail).rdropWhile (·.toNat ≤ 32) =
      front ++ tail.rdropWhile (·.toNat ≤ 32) := by
    rcases List.eq_nil_or_concat' front with rfl | ⟨before, last, rfl⟩
    · rfl
    · have own := shown last List.mem_concat_self
      rw [List.append_assoc, List.singleton_append, rdropWhile_append (by simpa using own),
        List.append_assoc, List.singleton_append]
  rw [cleaned, trimmed, withoutBreaks, List.filter_append, ← withoutBreaks, kept]
  rfl

theorem withoutEdges_eq (cs : List Char) :
    withoutEdges cs = (cs.dropWhile (·.toNat ≤ 32)).rdropWhile (·.toNat ≤ 32) :=
  rfl

theorem SchemeText.shown {scheme : List Char} (text : SchemeText scheme) :
    ∀ c ∈ scheme, 32 < c.toNat := by
  intro c member
  have part := text.part c member
  refine forall_ascii (P := fun c => isSchemePart c = true → 32 < c.toNat) ?_
    (ascii_of_isSchemePart part) part
  decide

/-- What stands behind a scheme is read behind that scheme. -/
theorem splitScheme?_cleaned {scheme : List Char} (text : SchemeText scheme)
    (rest : List Char) :
    splitScheme? (withoutBreaks (withoutEdges (scheme ++ ':' :: rest))) =
      some (scheme, cleaned rest) := by
  have edges : withoutBreaks (withoutEdges (scheme ++ ':' :: rest)) =
      cleaned (scheme ++ [':'] ++ rest) := by
    have shown := text.shown
    rcases text.letter with ⟨first, others, rfl, -⟩
    have start := shown first List.mem_cons_self
    rw [withoutEdges_eq, List.cons_append, List.dropWhile_cons_of_neg (by simpa using start),
      List.append_assoc]
    rfl
  have colon : ∀ c ∈ [':'], 32 < c.toNat := List.all_iff_forall_prop.1 (by decide)
  rw [edges, List.append_assoc, cleaned_append text.shown, cleaned_append colon,
    List.singleton_append, splitScheme?_of_schemeText text]

theorem cutAt_fst (sep : Char) (cs : List Char) :
    ((Text.cutAt sep cs).map Prod.fst).getD cs = cs.takeWhile (· != sep) := by
  induction cs with
  | nil => rfl
  | cons c rest inductionHypothesis =>
      rw [Text.cutAt]
      by_cases same : c = sep
      · rw [if_pos same, List.takeWhile_cons_of_neg (by simp [same])]
        rfl
      · rw [if_neg same, List.takeWhile_cons_of_pos (by simp [same]), ← inductionHypothesis]
        cases Text.cutAt sep rest <;> rfl

/-- The part before query and fragment ends with the first mark of either. -/
theorem splitTail_fst (cs : List Char) :
    (splitTail cs).1 = (cs.takeWhile (· != '#')).takeWhile (· != '?') := by
  rw [← cutAt_fst '?', ← cutAt_fst '#', splitTail]
  cases Text.cutAt '#' cs with
  | none =>
      dsimp only [Option.map_none, Option.getD_none]
      cases Text.cutAt '?' cs <;> rfl
  | some cut =>
      dsimp only [Option.map_some, Option.getD_some]
      cases Text.cutAt '?' cut.1 <;> rfl

/-- The characters that an authority ends before. -/
def authorityEnds : List Char :=
  ['/', '\\', '?', '#']

/-- Text that an authority does not go on with. -/
def Beside (tail : List Char) : Prop :=
  ∀ c ∈ tail.head?, c ∈ authorityEnds

theorem takeWhile_splitTail_beside {tail : List Char} (beside : Beside tail) :
    ((splitTail tail).1).takeWhile (!isSlash true ·) = [] := by
  rw [splitTail_fst]
  cases tail with
  | nil => rfl
  | cons c rest =>
      have ends : c = '/' ∨ c = '\\' ∨ c = '?' ∨ c = '#' := by
        simpa [authorityEnds] using beside c rfl
      rcases ends with rfl | rfl | rfl | rfl <;> rfl

/-- A text beside an authority stays so when it is cleaned. -/
theorem Beside.cleaned {tail : List Char} (beside : Beside tail) : Beside (cleaned tail) := by
  cases tail with
  | nil => exact beside
  | cons mark rest =>
      have visible : ∀ c ∈ authorityEnds, 32 < c.toNat := List.all_iff_forall_prop.1 (by decide)
      have shown : ∀ c ∈ [mark], 32 < c.toNat :=
        List.forall_mem_singleton.2 (visible mark (beside mark rfl))
      rw [← List.singleton_append, cleaned_append shown]
      exact beside

/-- What can stand in an authority: a character that is shown and ends neither the authority
nor the part before query and fragment. -/
structure Apart (c : Char) : Prop where
  shown : 32 < c.toNat
  unhashed : (c != '#') = true
  unasked : (c != '?') = true
  unslashed : isSlash true c = false

theorem Inner.apart {c : Char} (inner : Inner c) : Apart c := by
  rcases inner with ⟨shown, other⟩
  simp only [List.mem_cons, List.not_mem_nil, or_false, not_or] at other
  rcases other with ⟨slash, backslash, question, hash, -⟩
  exact ⟨shown, by simpa using hash, by simpa using question, by simp [isSlash, slash, backslash]⟩

/-- Behind its slashes, a text begins with its authority. -/
theorem dropWhile_splitTail {authority tail : List Char} (filled : authority ≠ [])
    (apart : ∀ c ∈ authority, Apart c) :
    (splitTail ('/' :: '/' :: (authority ++ tail))).1.dropWhile (isSlash true) =
      authority ++ (splitTail tail).1 := by
  have unhashed : ('/' :: '/' :: (authority ++ tail)).takeWhile (· != '#') =
      '/' :: '/' :: (authority ++ tail.takeWhile (· != '#')) := by
    rw [List.takeWhile_cons_of_pos (by decide), List.takeWhile_cons_of_pos (by decide),
      List.takeWhile_append_of_pos fun c member => (apart c member).unhashed]
  have main : (splitTail ('/' :: '/' :: (authority ++ tail))).1 =
      '/' :: '/' :: (authority ++ (splitTail tail).1) := by
    rw [splitTail_fst, splitTail_fst, unhashed, List.takeWhile_cons_of_pos (by decide),
      List.takeWhile_cons_of_pos (by decide),
      List.takeWhile_append_of_pos fun c member => (apart c member).unasked]
  obtain ⟨first, others, rfl⟩ := List.exists_cons_of_ne_nil filled
  have own := (apart first List.mem_cons_self).unslashed
  rw [main, List.dropWhile_cons_of_pos (by decide), List.dropWhile_cons_of_pos (by decide),
    List.cons_append, List.dropWhile_cons_of_neg (by simp [own])]

/-- The authority is read as far as it goes, and the path from there on. -/
theorem authorityText_eq {authority tail : List Char} (filled : authority ≠ [])
    (apart : ∀ c ∈ authority, Apart c) (beside : Beside tail) :
    authorityText ('/' :: '/' :: (authority ++ tail)) = authority ∧
      pathText ('/' :: '/' :: (authority ++ tail)) = (splitTail tail).1 := by
  have unslashed : ∀ c ∈ authority, (!isSlash true c) = true :=
    fun c member => by rw [(apart c member).unslashed]; rfl
  have ends := takeWhile_splitTail_beside beside
  constructor
  · rw [authorityText, dropWhile_splitTail filled apart, List.takeWhile_append_of_pos unslashed,
      ends, List.append_nil]
  · have whole := List.takeWhile_append_dropWhile (p := (!isSlash true ·)) (l := (splitTail tail).1)
    rw [ends, List.nil_append] at whole
    rw [pathText, dropWhile_splitTail filled apart, List.dropWhile_append_of_pos unslashed, whole]

/-- Neither the white space at the end nor the breaks in between change how far an authority
goes. -/
theorem authorityText_cleaned {authority tail : List Char} (filled : authority ≠ [])
    (apart : ∀ c ∈ authority, Apart c) (beside : Beside tail) :
    authorityText (cleaned ('/' :: '/' :: (authority ++ tail))) = authority ∧
      pathText (cleaned ('/' :: '/' :: (authority ++ tail))) = (splitTail (cleaned tail)).1 := by
  have whole : cleaned ('/' :: '/' :: (authority ++ tail)) =
      '/' :: '/' :: (authority ++ cleaned tail) := by
    have slashes : ∀ c ∈ ['/', '/'], 32 < c.toNat := List.all_iff_forall_prop.1 (by decide)
    change cleaned (['/', '/'] ++ (authority ++ tail)) = _
    rw [cleaned_append slashes, cleaned_append fun c member => (apart c member).shown]
    rfl
  rw [whole]
  exact authorityText_eq filled apart beside.cleaned

end LedgerAgent.Url
