/-
Module: LedgerAgent.Proofs.Url.Onward
Purpose: Where a path leads that is put behind the text of a URL: behind the URL's path if the
  text ends with that, and into its query or fragment otherwise.
Main exports: Url.exists_settled_of_parse, Url.Grounded.path_onward
-/
import LedgerAgent.Proofs.Url.Origin
import LedgerAgent.Proofs.Url.Path

namespace LedgerAgent.Url

variable {segments : List (List Char)}

/-! ### Paths as the front of a text -/

/-- The path of a URL with one of the special schemes, a file's apart, is settled. -/
theorem exists_settled_of_parse {text : String} {url : Url} (read : parse text = .ok url)
    (special : isSpecial url.scheme = true) (web : url.scheme ≠ fileScheme) :
    ∃ segments, url.path = .segments segments ∧ segments ≠ [] ∧
      ∀ segment ∈ segments, Settled segment := by
  obtain ⟨rest, -, authority⟩ := reads_of_parse read
  obtain ⟨authority, ⟨isLast, more, -, path⟩, -⟩ := authority special web
  rw [path]
  exact exists_settled_parsePath special _

/-- What can stand in a path: a character that is shown and does not end it. -/
structure Pathlike (c : Char) : Prop where
  shown : 32 < c.toNat
  unhashed : (c != '#') = true
  unasked : (c != '?') = true

/-- Nothing in the segments of a path ends the path. -/
theorem pathlike_chars (settled : ∀ segment ∈ segments, Settled segment) :
    ∀ c ∈ (Path.segments segments).chars, Pathlike c := by
  intro c member
  obtain ⟨segment, own, here⟩ := List.mem_flatMap.1 member
  rcases List.mem_cons.1 here with rfl | inside
  · exact ⟨by decide, by decide, by decide⟩
  · have unencoded := (settled segment own).unencoded c inside
    refine ⟨shown_of_unencoded (by decide) unencoded, ?_, ?_⟩
    · rw [bne_iff_ne]
      rintro rfl
      exact absurd unencoded (by decide)
    · rw [bne_iff_ne]
      rintro rfl
      exact absurd unencoded (by decide)

/-- A path is read as far as the mark of a query or fragment. -/
theorem splitTail_cleaned {front : List Char} (pathlike : ∀ c ∈ front, Pathlike c)
    (tail : List Char) (marked : ∀ c ∈ tail.head?, c = '?' ∨ c = '#') :
    (splitTail (cleaned (front ++ tail))).1 = front := by
  have ended : ((cleaned tail).takeWhile (· != '#')).takeWhile (· != '?') = [] := by
    cases tail with
    | nil => rfl
    | cons mark rest =>
        have shown : ∀ c ∈ [mark], 32 < c.toNat := by
          rw [List.forall_mem_singleton]
          rcases marked mark rfl with rfl | rfl <;> decide
        rw [← List.singleton_append, cleaned_append shown]
        rcases marked mark rfl with rfl | rfl <;> rfl
  rw [cleaned_append fun c member => (pathlike c member).shown, splitTail_fst,
    List.takeWhile_append_of_pos fun c member => (pathlike c member).unhashed,
    List.takeWhile_append_of_pos fun c member => (pathlike c member).unasked, ended,
    List.append_nil]

/-- The slashes at the end of a path are its empty segments. -/
theorem rdropWhile_pathChars (settled : ∀ segment ∈ segments, Settled segment) :
    (Path.segments segments).chars.rdropWhile (· = '/') =
      (Path.segments (segments.rdropWhile List.isEmpty)).chars := by
  simp only [Path.chars]
  induction segments using List.reverseRecOn with
  | nil => rfl
  | append_singleton segments segment inductionHypothesis =>
      have own := settled segment List.mem_concat_self
      rw [List.flatMap_append, List.flatMap_singleton]
      rcases List.eq_nil_or_concat' segment with rfl | ⟨front, last, rfl⟩
      · rw [List.rdropWhile_concat_pos _ _ _ (by decide),
          List.rdropWhile_concat_pos _ _ _ (by decide)]
        exact inductionHypothesis fun segment member =>
          settled segment (List.mem_append_left _ member)
      · have kept : ¬ decide (last = '/') = true := by
          rw [decide_eq_true_iff]
          rintro rfl
          exact absurd (own.unslashed '/' List.mem_concat_self) (by decide)
        rw [← List.cons_append, ← List.append_assoc,
          List.rdropWhile_concat_neg (· = '/') _ last kept,
          List.rdropWhile_concat_neg _ _ _ (by simp), List.flatMap_append,
          List.flatMap_singleton, List.append_assoc, List.cons_append]

/-! ### A path behind a URL -/

/-- What stands behind the path of a URL. -/
def markedChars (url : Url) : List Char :=
  (url.query.map ('?' :: ·)).getD [] ++ (url.fragment.map ('#' :: ·)).getD []

/-- Behind the authority of a URL stand its path and what is marked off from that. -/
theorem tailChars_eq (url : Url) : url.tailChars = url.path.chars ++ url.markedChars := by
  rw [tailChars, markedChars, List.append_assoc]

/-- Nothing is marked off if there is neither a query nor a fragment. -/
theorem markedChars_eq_nil_iff {url : Url} :
    url.markedChars = [] ↔ url.query = none ∧ url.fragment = none := by
  rw [markedChars]
  cases url.query <;> cases url.fragment <;> simp

theorem head_markedChars {url : Url} : ∀ c ∈ url.markedChars.head?, c = '?' ∨ c = '#' := by
  rw [markedChars]
  cases url.query with
  | some text =>
      rintro _ ⟨⟩
      exact .inl rfl
  | none =>
      cases url.fragment with
      | some text =>
          rintro _ ⟨⟩
          exact .inr rfl
      | none => nofun

/-- A path of settled segments put behind a URL's text without the slashes at its end: it is
read behind the URL's own path without those slashes, if the URL has neither query nor
fragment, and the URL's own path is left alone otherwise. -/
theorem Grounded.path_onward {url again : Url} {more : List (List Char)}
    (grounded : url.Grounded) (special : isSpecial url.scheme = true)
    (web : url.scheme ≠ fileScheme) (path : url.path = .segments segments)
    (filled : segments ≠ []) (settled : ∀ segment ∈ segments, Settled segment)
    (filled' : more ≠ []) (settled' : ∀ segment ∈ more, Settled segment)
    (read : parse (String.ofList (url.chars.rdropWhile (· = '/') ++
      (Path.segments more).chars)) = .ok again) :
    (url.markedChars = [] → again.path.chars =
      url.path.chars.rdropWhile (· = '/') ++ (Path.segments more).chars) ∧
    (url.markedChars ≠ [] → again.path = url.path) := by
  obtain ⟨host, seated⟩ := grounded.seated special web
  have based : url.hasOpaquePath = false := by
    rw [hasOpaquePath, path]
  have rooted : Beside (Path.segments more).chars := by
    obtain ⟨first, others, rfl⟩ := List.exists_cons_of_ne_nil filled'
    rintro _ ⟨⟩
    decide
  have beside : Beside (url.tailChars.rdropWhile (· = '/') ++ (Path.segments more).chars) :=
    ((beside_tailChars based).front (List.rdropWhile_prefix _ _)).append fun _ => rooted
  rw [seated.rdropWhile_chars] at read
  simp only [List.append_assoc, List.cons_append] at read
  have onward := (seated.of_parse grounded.scheme special web beside read).2
  rw [tailChars_eq, path] at onward
  constructor
  · intro unmarked
    have both : ∀ segment ∈ segments.rdropWhile List.isEmpty ++ more, Settled segment := by
      intro segment member
      rcases List.mem_append.1 member with own | added
      · exact settled segment ((List.rdropWhile_prefix _ _).subset own)
      · exact settled' segment added
    have joined : (Path.segments (segments.rdropWhile List.isEmpty)).chars ++
        (Path.segments more).chars =
          (Path.segments (segments.rdropWhile List.isEmpty ++ more)).chars :=
      List.flatMap_append.symm
    have front := splitTail_cleaned (pathlike_chars both) []
      fun c none => absurd none (Option.not_mem_none c)
    rw [List.append_nil] at front
    rw [unmarked, List.append_nil, rdropWhile_pathChars settled, joined, front,
      parsePath_chars special (List.append_ne_nil_of_right_ne_nil _ filled') both] at onward
    rw [onward, path, rdropWhile_pathChars settled, joined]
  · intro marked
    obtain ⟨mark, rest, whole⟩ := List.exists_cons_of_ne_nil marked
    have ends : mark = '?' ∨ mark = '#' := head_markedChars mark (by rw [whole]; rfl)
    have kept : decide (mark = '/') = false := by
      rcases ends with rfl | rfl <;> rfl
    have front := splitTail_cleaned (pathlike_chars settled)
      (mark :: rest.rdropWhile (· = '/') ++ (Path.segments more).chars) (by
        rintro c ⟨⟩
        exact ends)
    rw [whole, rdropWhile_append kept, List.append_assoc, front,
      parsePath_chars special filled settled] at onward
    rw [onward, path]

end LedgerAgent.Url
