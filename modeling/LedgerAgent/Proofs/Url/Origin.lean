/-
Module: LedgerAgent.Proofs.Url.Origin
Purpose: Text that begins as a URL's own text does is read with that URL's scheme, host and
  port number.
Main exports: Url.SameOrigin, Url.Seated.of_parse, Url.Grounded.sameOrigin
-/
import LedgerAgent.Proofs.Url.Authority

namespace LedgerAgent.Url

/-! ### The authority of a URL's own text -/

/-- Text is split at its last at sign. -/
theorem splitLastAt_append (info : List Char) {address : List Char} (bare : '@' ∉ address) :
    splitLastAt (info ++ '@' :: address) = some (info, address) := by
  rw [splitLastAt, List.reverse_append, List.reverse_cons, List.append_assoc,
    List.singleton_append, Text.cutAt_append _ (by simpa using bare)]
  simp

theorem splitLastAt_of_not_mem {text : List Char} (bare : '@' ∉ text) :
    splitLastAt text = none := by
  rw [splitLastAt, Text.cutAt_of_not_mem (by simpa using bare)]
  rfl

/-- What stands before the host of a URL. -/
def userChars (url : Url) : List Char :=
  if url.username.isEmpty && url.password.isEmpty then []
  else url.username ++ (if url.password.isEmpty then [] else ':' :: url.password) ++ ['@']

namespace Seated

variable {url : Url} {host : Host}

/-- An authority is a user, a host and a number. -/
theorem authorityChars_eq (seated : url.Seated host) :
    url.authorityChars = url.userChars ++ (host.chars ++ url.numberChars) := by
  rw [authorityChars, seated.named, ← List.append_assoc]
  rfl

theorem inner_address (seated : url.Seated host) :
    ∀ c ∈ host.chars ++ url.numberChars, Inner c := by
  intro c member
  rcases List.mem_append.1 member with named | numbered
  · exact seated.proper.inner c named
  · rw [numberChars] at numbered
    cases own : url.portNumber with
    | none =>
        rw [own] at numbered
        cases numbered
    | some n =>
        rw [own] at numbered
        rcases List.mem_cons.1 numbered with rfl | digit
        · decide
        · exact inner_of_allowed (small_of_isDigit (Text.Numeral.isDigit_of_mem_digits digit)).2

/-- Nothing in a user's part ends an authority. -/
theorem apart_userChars (seated : url.Seated host) : ∀ c ∈ url.userChars, Apart c := by
  have colon : Inner ':' := by decide
  have sign : Apart '@' := ⟨by decide, by decide, by decide, by decide⟩
  intro c member
  rw [userChars] at member
  split at member
  · cases member
  · rcases List.mem_append.1 member with user | last
    · rcases List.mem_append.1 user with name | word
      · exact (seated.username c name).apart
      · split at word
        · cases word
        · rcases List.mem_cons.1 word with rfl | inside
          · exact colon.apart
          · exact (seated.password c inside).apart
    · rw [List.mem_singleton.1 last]
      exact sign

theorem apart_authorityChars (seated : url.Seated host) :
    ∀ c ∈ url.authorityChars, Apart c := by
  intro c member
  rw [seated.authorityChars_eq] at member
  rcases List.mem_append.1 member with user | address
  · exact seated.apart_userChars c user
  · exact (seated.inner_address c address).apart

theorem authorityChars_ne_nil (seated : url.Seated host) : url.authorityChars ≠ [] := by
  rw [seated.authorityChars_eq]
  intro empty
  rw [List.append_eq_nil_iff, List.append_eq_nil_iff] at empty
  exact seated.proper.chars_ne_nil empty.2.1

/-- The host and what stands behind it are found again behind any user. -/
theorem splitLastAt_authorityChars (seated : url.Seated host) :
    ∃ info, (splitLastAt url.authorityChars).getD ([], url.authorityChars) =
      (info, host.chars ++ url.numberChars) := by
  have bare : '@' ∉ host.chars ++ url.numberChars :=
    fun member => absurd (seated.inner_address '@' member).2 (by decide)
  rw [seated.authorityChars_eq, userChars]
  split
  · rw [List.nil_append, splitLastAt_of_not_mem bare]
    exact ⟨_, rfl⟩
  · rw [List.append_assoc, List.singleton_append, splitLastAt_append _ bare]
    exact ⟨_, rfl⟩

/-- The number of an authority's own text is read as the number that it was, to its end. -/
theorem of_parseNumber (seated : url.Seated host) {number : Option Nat} {more : List Char}
    (read : parseNumber (url.numberChars.drop 1) = .ok (number, more)) :
    (if number = defaultNumber? url.scheme then none else number) = url.portNumber ∧
      more = [] := by
  rw [numberChars] at read
  cases own : url.portNumber with
  | none =>
      rw [own] at read
      cases read
      refine ⟨?_, rfl⟩
      split <;> rfl
  | some n =>
      rcases seated.number n own with ⟨below, explicit⟩
      have digits : ∀ c ∈ Nat.toDigits 10 n, (c != '\\') = true := by
        intro c member
        have inner := seated.inner_address c
          (List.mem_append_right _ (by rw [numberChars, own]; exact List.mem_cons_of_mem _ member))
        rw [bne_iff_ne]
        rintro rfl
        exact absurd inner.2 (by decide)
      have filled : (Nat.toDigits 10 n).isEmpty = false := by
        simp
      have numeral : Text.Numeral.extend 65536 .tooLarge 0 (Nat.toDigits 10 n) = .ok n :=
        Text.Numeral.extend_digits .tooLarge below
      rw [own] at read
      simp only [Option.map_some, Option.getD_some, List.drop_succ_cons, List.drop_zero,
        parseNumber, List.takeWhile_eq_self_iff.2 digits, List.dropWhile_eq_nil_iff.2 digits,
        filled, numeral] at read
      cases read
      exact ⟨if_neg explicit, rfl⟩

/-- An authority's own text is read as that authority, to its end. -/
theorem of_parseAuthority {authority : Authority} {isLast : Bool} {more : List Char}
    (seated : url.Seated host) (special : isSpecial url.scheme = true)
    (read : parseAuthority url.scheme isLast url.authorityChars = .ok (authority, more)) :
    authority.host = host ∧ authority.portNumber = url.portNumber ∧ more = [] := by
  obtain ⟨info, address, number, split, -, hosted, numbered, kept⟩ :=
    parts_of_parseAuthority special read
  obtain ⟨info', found⟩ := seated.splitLastAt_authorityChars
  rw [found] at split
  cases split
  have behind : url.numberChars = [] ∨ url.numberChars.head? = some ':' := by
    rw [numberChars]
    cases url.portNumber with
    | none => exact .inl rfl
    | some n => exact .inr rfl
  rw [seated.proper.splitHost behind] at hosted numbered
  obtain ⟨own, ended⟩ := seated.of_parseNumber numbered
  exact ⟨parseHost_chars seated.proper hosted, kept.trans own, ended⟩

end Seated

/-! ### Text that begins as a URL does -/

/-- Two URLs have the same scheme, host and port number. -/
structure SameOrigin (url other : Url) : Prop where
  scheme : url.scheme = other.scheme
  host : url.host = other.host
  portNumber : url.portNumber = other.portNumber

/-- Text that begins with a URL's scheme is read as a URL of that scheme. -/
theorem SchemeText.of_parse {scheme rest : List Char} {again : Url} (text : SchemeText scheme)
    (read : parse (String.ofList (scheme ++ ':' :: rest)) = .ok again) :
    again.scheme = scheme := by
  obtain ⟨behind, found, -⟩ := reads_of_parse read
  rw [String.toList_ofList, splitScheme?_cleaned text] at found
  cases found
  rfl

/-- Text that begins with a URL's scheme and authority is read with that scheme, host and
port number, and with the path that follows. -/
theorem Seated.of_parse {url again : Url} {host : Host} {tail : List Char}
    (seated : url.Seated host) (text : SchemeText url.scheme)
    (special : isSpecial url.scheme = true) (web : url.scheme ≠ fileScheme)
    (beside : Beside tail)
    (read : parse (String.ofList
      (url.scheme ++ ':' :: '/' :: '/' :: (url.authorityChars ++ tail))) = .ok again) :
    again.SameOrigin url ∧ again.path = parsePath url.scheme (splitTail (cleaned tail)).1 := by
  have scheme := text.of_parse read
  obtain ⟨behind, found, authority⟩ := reads_of_parse read
  rw [String.toList_ofList, splitScheme?_cleaned text, scheme] at found
  cases found
  obtain ⟨authority, ⟨isLast, more, seat, path⟩, -, -, named, numbered⟩ :=
    authority (scheme ▸ special) (scheme ▸ web)
  obtain ⟨before, onward⟩ :=
    authorityText_cleaned seated.authorityChars_ne_nil seated.apart_authorityChars beside
  rw [scheme, before] at seat
  rw [scheme, onward] at path
  obtain ⟨sameHost, sameNumber, ended⟩ := seated.of_parseAuthority special seat
  rw [ended, List.nil_append] at path
  refine ⟨⟨scheme, ?_, ?_⟩, path⟩
  · rw [named, sameHost, seated.named]
  · rw [numbered, sameNumber]

/-! ### A URL without the slashes at its end -/

theorem exists_chars_eq (url : Url) : ∃ rest, url.chars = url.scheme ++ ':' :: rest := by
  simp only [chars, List.append_assoc, List.cons_append, List.append_cancel_left_eq,
    List.cons.injEq, true_and, exists_eq']

/-- What stands behind the authority of a URL. -/
def tailChars (url : Url) : List Char :=
  url.path.chars ++ (url.query.map ('?' :: ·)).getD [] ++ (url.fragment.map ('#' :: ·)).getD []

/-- A URL is its scheme, its authority behind two slashes, and the rest. -/
theorem Seated.chars_eq {url : Url} {host : Host} (seated : url.Seated host) :
    url.chars = url.scheme ++ ':' :: '/' :: '/' :: (url.authorityChars ++ url.tailChars) := by
  rw [chars, seated.named, tailChars]
  simp

/-- What stands behind an authority does not go on with it. -/
theorem beside_tailChars {url : Url} (based : url.hasOpaquePath = false) :
    Beside url.tailChars := by
  have mark {c : Char} (ends : c ∈ authorityEnds) (rest : List Char) : Beside (c :: rest) := by
    rintro _ ⟨⟩
    exact ends
  rw [hasOpaquePath] at based
  split at based
  · cases based
  · next segments path =>
    rw [tailChars, path]
    cases segments with
    | cons segment others => exact mark (by decide) _
    | nil =>
        cases url.query with
        | some query => exact mark (by decide) _
        | none =>
            cases url.fragment with
            | some text => exact mark (by decide) _
            | none => nofun

theorem Beside.front {front tail : List Char} (beside : Beside tail) (lead : front <+: tail) :
    Beside front := by
  obtain ⟨others, rfl⟩ := lead
  cases front with
  | nil => nofun
  | cons mark rest => exact beside

/-- Text may be added to what stands beside an authority, even to nothing. -/
theorem Beside.append {tail text : List Char} (beside : Beside tail)
    (onward : tail = [] → Beside text) : Beside (tail ++ text) := by
  cases tail with
  | nil => exact onward rfl
  | cons mark rest => exact beside

/-- A URL with an authority keeps it when the slashes at its end are left out. -/
theorem Seated.rdropWhile_chars {url : Url} {host : Host} (seated : url.Seated host) :
    url.chars.rdropWhile (· = '/') = url.scheme ++ ':' :: '/' :: '/' ::
      (url.authorityChars ++ url.tailChars.rdropWhile (· = '/')) := by
  -- The last character of the authority is no slash, so the slashes end before it.
  obtain ⟨front, last, whole⟩ : ∃ front last, url.authorityChars = front ++ [last] :=
    ⟨_, _, (List.dropLast_concat_getLast seated.authorityChars_ne_nil).symm⟩
  have member : last ∈ url.authorityChars := by
    rw [whole]
    exact List.mem_concat_self
  have kept : decide (last = '/') = false := by
    refine decide_eq_false ?_
    rintro rfl
    exact absurd (seated.apart_authorityChars '/' member).unslashed (by decide)
  rw [seated.chars_eq, whole]
  simp only [List.append_assoc, List.singleton_append, ← List.cons_append]
  rw [← List.append_assoc, rdropWhile_append kept, List.append_assoc]

/-- A URL with nothing behind its authority but slashes. -/
def Bare (url : Url) : Prop :=
  ∀ c ∈ url.tailChars, c = '/'

/-- Text put behind a URL without the slashes at its end is read with the URL's scheme; and
with its host and port number too, if the scheme is a special one, a file's apart, and if
something ends the authority before that text or at its front. -/
theorem Grounded.sameOrigin {url again : Url} {text : List Char} (grounded : url.Grounded)
    (based : url.hasOpaquePath = false)
    (read : parse (String.ofList (url.chars.rdropWhile (· = '/') ++ text)) = .ok again) :
    again.scheme = url.scheme ∧ (isSpecial url.scheme = true → url.scheme ≠ fileScheme →
      Beside text ∨ ¬ url.Bare → again.SameOrigin url) := by
  constructor
  · obtain ⟨rest, whole⟩ := url.exists_chars_eq
    rw [whole, rdropWhile_append (by decide), List.append_assoc, List.cons_append] at read
    exact grounded.scheme.of_parse read
  · intro special web parted
    obtain ⟨host, seated⟩ := grounded.seated special web
    have beside : Beside (url.tailChars.rdropWhile (· = '/') ++ text) := by
      apply ((beside_tailChars based).front (List.rdropWhile_prefix _ _)).append
      intro bare
      refine parted.resolve_right fun held => held fun c member => ?_
      exact of_decide_eq_true (List.rdropWhile_eq_nil_iff.1 bare c member)
    rw [seated.rdropWhile_chars] at read
    simp only [List.append_assoc, List.cons_append] at read
    exact (seated.of_parse grounded.scheme special web beside read).1

end LedgerAgent.Url
